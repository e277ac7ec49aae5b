import BbAuth.Framing
import BbAuth.Library.Decimal
import BbAuth.Library.LastWrite
import BbAuth.Library.Utf
import BbAuth.RequestCalls
import BbAuth.TextNormalize

open Library Library.Utf Library.Words
namespace BbAuth

-- `object[key] = value`
def QJsonObject.insert (object : QJsonObject) (key : QString) (value : QJsonValue) : QJsonObject :=
  ⟨object.fields.insert key value⟩

theorem QJsonObject.value_insert (object : QJsonObject) (key other : QString) (value : QJsonValue) :
    (object.insert key value).value other = if key = other then value else object.value other := by
  unfold insert QJsonObject.value
  rw [Table.find_insert]
  by_cases same : other = key
  · rw [if_pos same,if_pos same.symm]
    rfl
  · rw [if_neg same,if_neg (Ne.symm same)]

namespace StateReport

open AssuanCodec (digitValue isSpace trimmed)
open IpcServer (newline)

def bytes (literal : String) : QByteArray := literal.toList.map (fun c => UInt8.ofNat c.toNat)

def canonicalMode (mode : QByteArray) : QByteArray :=
  if mode = bytes "warn" ∨ mode = bytes "session" ∨ mode = bytes "persistent" then mode else bytes "session"

-- MODE of the script. The option goes before BB_AUTH_CONFLICT_MODE.
def mode (conflictMode : QByteArray) (arguments : List QByteArray) : QByteArray :=
  let default := if conflictMode = [] then bytes "session" else conflictMode
  canonicalMode (match arguments with
    | option :: value :: _ => if option = bytes "--mode" ∧ value ≠ [] then value else default
    | _ => default)

-- EXPECTED_PINENTRY of the script
def expectedPinentry (pinentryPath libexecdir : QByteArray) : QByteArray :=
  if pinentryPath = [] then libexecdir ++ bytes "/pinentry-bb" else pinentryPath

def reportLines (now : Nat) (mode expectedPinentry : QByteArray) : List QByteArray :=
  [bytes "timestamp=" ++ bytes now.repr,bytes "mode=" ++ mode,bytes "pinentry_path=" ++ expectedPinentry]

def writeStateReport (now : Nat) (mode expectedPinentry : QByteArray) : QByteArray :=
  (reportLines now mode expectedPinentry).flatMap (· ++ [newline])

def decimalNumber (s : QString) : Option Nat :=
  if s.isEmpty then none else s.foldlM (fun value c => (digitValue c).map (10 * value + ·)) 0

def inLongLong (value : Int) : Option Int :=
  if -9223372036854775808 ≤ value ∧ value ≤ 9223372036854775807 then some value else none

-- QString::toLongLong in base 10. Spaces around the number and a sign are accepted.
def toLongLong (s : QString) : Option Int :=
  match trimmed s with
  | [] => none
  | c :: digits =>
    if c = 0x2D then (decimalNumber digits).bind (fun value => inLongLong (-(value : Int)))
    else if c = 0x2B then (decimalNumber digits).bind (fun value => inLongLong value)
    else (decimalNumber (c :: digits)).bind (fun value => inLongLong value)

-- QString::fromUtf8, which leaves a byte order mark out.
def decoded (bytes : QByteArray) : QString :=
  fromUtf8 (if bytes.take 3 = [0xEF,0xBB,0xBF] then bytes.drop 3 else bytes)

-- One turn of the loop of readBootstrapState. Reading in text mode only drops the
-- carriage return at the end of a line, which is trimmed anyway.
def entry (line : QByteArray) : Option (QString × QJsonValue) :=
  let line := trimmed (decoded line)
  if line.isEmpty ∨ line.head? = some 0x23 then none
  else
    match line.idxOf? 0x3D with
    | none | some 0 => none
    | some delimiter =>
      let key := trimmed (line.take delimiter)
      let value := trimmed (line.drop (delimiter + 1))
      if key.isEmpty then none
      else some (key,if key = text "timestamp" then .integer ((toLongLong value).getD 0) else .string value)

def readLine (bootstrap : QJsonObject) (line : QByteArray) : QJsonObject :=
  match entry line with
  | none => bootstrap
  | some (key,value) => bootstrap.insert key value

-- The override is BB_AUTH_CONFLICT_MODE in the daemon's own environment.
def readBootstrapState (stateFile : Option QByteArray) (modeOverride : QByteArray) : QJsonObject :=
  match stateFile with
  | none => .ofList []
  | some content =>
    let bootstrap := (Lines.records newline content).foldl readLine (.ofList [])
    if modeOverride.isEmpty then bootstrap else bootstrap.insert (text "mode") (.string (decoded modeOverride))

def writes (line : QByteArray) : List (Write QString QJsonValue) :=
  match entry line with
  | none => []
  | some (key,value) => [.set key value]

theorem mem_writes (written : .set key value ∈ writes line) : entry line = some (key,value) := by
  unfold writes at written
  cases assigned : entry line with
  | none =>
    rw [assigned] at written
    cases written
  | some pair =>
    rw [assigned] at written
    cases List.mem_singleton.mp written
    rfl

theorem readLine_value (bootstrap : QJsonObject) (line : QByteArray) (key : QString) :
    (readLine bootstrap line).value key = (writes line).foldl (Write.apply key .undefined) (bootstrap.value key) := by
  unfold readLine writes
  cases entry line with
  | none => rfl
  | some assigned =>
    obtain ⟨name,value⟩ := assigned
    exact QJsonObject.value_insert bootstrap name key value

def reader : Machine QJsonObject QByteArray := ⟨.ofList [],fun _ _ => True,readLine⟩

theorem records_value (content : QByteArray) (key : QString) :
    ((Lines.records newline content).foldl readLine (.ofList [])).value key =
      lastWrite key .undefined ((Lines.records newline content).flatMap writes) := by
  have start : reader.initial.value key = .undefined := rfl
  exact reader.run_lastWrite (·.value key) writes start (fun bootstrap line => readLine_value bootstrap line key) _

theorem readBootstrapState_value (content modeOverride : QByteArray) (key : QString) :
    (readBootstrapState (some content) modeOverride).value key =
      if modeOverride ≠ [] ∧ key = text "mode" then .string (decoded modeOverride)
      else lastWrite key .undefined ((Lines.records newline content).flatMap writes) := by
  unfold readBootstrapState
  by_cases unset : modeOverride = []
  · rw [if_neg (fun both => both.1 unset),← records_value]
    simp only [unset,List.isEmpty_nil,if_true]
  · simp only [List.isEmpty_iff,unset,if_false,QJsonObject.value_insert,records_value]
    by_cases same : key = text "mode"
    · rw [if_pos same.symm,if_pos ⟨unset,same⟩]
    · rw [if_neg (Ne.symm same),if_neg (fun both => same both.2)]

-- What the script assigns to: a word that is no comment.
structure Name (name : QByteArray) : Prop where
  plain : ∀ b ∈ name, b.toNat < 0x80
  free : 0x3D ∉ name.map UInt8.toUInt16
  visible : ∀ c ∈ name.map UInt8.toUInt16, isSpace c = false
  filled : name.map UInt8.toUInt16 ≠ []
  told : (name.map UInt8.toUInt16).head? ≠ some 0x23

theorem decoded_name (named : Name name) (rest : QByteArray) :
    decoded (name ++ rest) = name.map UInt8.toUInt16 ++ fromUtf8 rest := by
  have unmarked : (name ++ rest).take 3 ≠ [0xEF,0xBB,0xBF] := by
    intro marked
    cases letters : name with
    | nil => exact named.filled (congrArg _ letters)
    | cons b more =>
      have low := named.plain b (by rw [letters]; exact List.mem_cons_self)
      rw [letters] at marked
      have first : b = 0xEF := (List.cons.inj marked).1
      rw [first] at low
      exact absurd low (by decide)
  unfold decoded
  rw [if_neg unmarked,fromUtf8_plain named.plain]

theorem assignment_bare {key value : QString} (visible : ∀ c ∈ key, isSpace c = false) (filled : key ≠ [])
    (bare : Bare isSpace value) : Bare isSpace (key ++ 0x3D :: value) := by
  rw [← List.singleton_append,← List.append_assoc]
  apply bare.behind ?_ (List.append_ne_nil_of_left_ne_nil filled _)
  intro c present
  rcases List.mem_append.mp present with inside | last
  · exact visible c inside
  · rw [List.mem_singleton.mp last]
    decide

theorem entry_assignment (named : Name name) (bare : Bare isSpace (fromUtf8 value)) :
    entry (name ++ 0x3D :: value) = some (name.map UInt8.toUInt16,
      if name.map UInt8.toUInt16 = text "timestamp" then .integer ((toLongLong (fromUtf8 value)).getD 0)
      else .string (fromUtf8 value)) := by
  have assigned : fromUtf8 (0x3D :: value) = 0x3D :: fromUtf8 value := fromUtf8_ascii (by decide) value
  have stripped : trimmed (name.map UInt8.toUInt16 ++ 0x3D :: fromUtf8 value) =
      name.map UInt8.toUInt16 ++ 0x3D :: fromUtf8 value :=
    strip_bare (assignment_bare named.visible named.filled bare)
  have word : trimmed (name.map UInt8.toUInt16) = name.map UInt8.toUInt16 := strip_bare (bare_word named.visible)
  have rest : trimmed (fromUtf8 value) = fromUtf8 value := strip_bare bare
  have found := Lines.idxOf_behind named.free (fromUtf8 value)
  have told : (name.map UInt8.toUInt16 ++ 0x3D :: fromUtf8 value).head? ≠ some 0x23 := by
    rw [List.head?_append_of_ne_nil _ named.filled]
    exact named.told
  have left : (name.map UInt8.toUInt16 ++ 0x3D :: fromUtf8 value).drop ((name.map UInt8.toUInt16).length + 1) =
      fromUtf8 value := by
    rw [← List.drop_drop,List.drop_left]
    rfl
  obtain ⟨place,size⟩ := Nat.exists_eq_succ_of_ne_zero (mt List.length_eq_zero_iff.mp named.filled)
  have before : (name.map UInt8.toUInt16 ++ 0x3D :: fromUtf8 value).take place.succ = name.map UInt8.toUInt16 := by
    rw [← size,List.take_left]
  rw [size] at found left
  unfold entry
  rw [decoded_name named,assigned,stripped]
  simp only [found,before,left,word,rest,List.isEmpty_iff,List.append_eq_nil_iff,named.filled,told,false_and,or_self,if_false]

theorem fromUtf8_bytes {literal : String} (plain : ∀ c ∈ literal.toList, c.toNat < 0x80) :
    (∀ b ∈ bytes literal, b.toNat < 0x80) ∧ (bytes literal).map UInt8.toUInt16 = text literal := by
  have code {c : Char} (listed : c ∈ literal.toList) : (UInt8.ofNat c.toNat).toNat = c.toNat :=
    UInt8.toNat_ofNat_of_lt' (Nat.lt_trans (plain c listed) (by decide))
  constructor
  · intro b present
    obtain ⟨c,listed,rfl⟩ := List.mem_map.mp present
    rw [code listed]
    exact plain c listed
  · unfold bytes text
    rw [List.map_map]
    apply List.map_congr_left
    intro c listed
    apply UInt16.toNat_inj.mp
    change (UInt8.ofNat c.toNat).toUInt16.toNat = _
    rw [UInt8.toNat_toUInt16,code listed,UInt16.toNat_ofNat_of_lt' (Nat.lt_trans (plain c listed) (by decide))]

theorem digits_read {digits : List Char} (each : ∀ digit ∈ digits, 48 ≤ digit.toNat ∧ digit.toNat ≤ 57)
    (value : Nat) :
    (digits.map (fun c => UInt16.ofNat c.toNat)).foldlM (fun value c => (digitValue c).map (10 * value + ·)) value =
      some (Nat.ofDigitChars 10 digits value) := by
  induction digits generalizing value with
  | nil => rfl
  | cons digit rest ih =>
    obtain ⟨bounds,others⟩ := List.forall_mem_cons.mp each
    have code := Decimal.digit_code bounds
    have valued : digitValue (UInt16.ofNat digit.toNat) = some (digit.toNat - 48) := by
      have within : 0x30 ≤ UInt16.ofNat digit.toNat ∧ UInt16.ofNat digit.toNat ≤ 0x39 := by
        rw [UInt16.le_iff_toNat_le,UInt16.le_iff_toNat_le,code]
        exact bounds
      unfold digitValue
      rw [if_pos within,code]
    rw [List.map_cons,List.foldlM_cons,valued,Nat.ofDigitChars_cons]
    exact ih others _

theorem digit_kind {digit : Char} (bounds : 48 ≤ digit.toNat ∧ digit.toNat ≤ 57) :
    isSpace (UInt16.ofNat digit.toNat) = false ∧ UInt16.ofNat digit.toNat ≠ 0x2D ∧ UInt16.ofNat digit.toNat ≠ 0x2B := by
  have code := Decimal.digit_code bounds
  generalize UInt16.ofNat digit.toNat = c at code
  unfold isSpace
  simp only [Bool.or_eq_false_iff,Bool.and_eq_false_iff,decide_eq_false_iff_not,UInt16.le_iff_toNat_le,← UInt16.toNat_inj,
    UInt16.reduceToNat,code,ne_eq]
  omega

theorem toLongLong_repr (now : Nat) (fits : now < 2 ^ 63) : toLongLong (text now.repr) = some (now : Int) := by
  have each (c) (present : c ∈ text now.repr) : isSpace c = false ∧ c ≠ 0x2D ∧ c ≠ 0x2B := by
    obtain ⟨digit,listed,rfl⟩ := List.mem_map.mp present
    exact digit_kind (Decimal.mem_repr now digit listed)
  have stripped : trimmed (text now.repr) = text now.repr := strip_bare (bare_word (fun c present => (each c present).1))
  have number : decimalNumber (text now.repr) = some now := by
    have filled : text now.repr ≠ [] := by
      intro none
      have digits := List.map_eq_nil_iff.mp none
      rw [Nat.toList_repr] at digits
      exact Nat.toDigits_ne_nil digits
    unfold decimalNumber
    rw [if_neg (mt List.isEmpty_iff.mp filled)]
    unfold text
    rw [digits_read (Decimal.mem_repr now),Nat.toList_repr,Nat.ofDigitChars_ten_toDigits]
  have within : inLongLong (now : Int) = some (now : Int) := by
    unfold inLongLong
    rw [if_pos (by omega)]
  unfold toLongLong
  rw [stripped]
  cases digits : text now.repr with
  | nil =>
    rw [digits] at number
    exact nomatch number
  | cons c rest =>
    obtain ⟨_,unsigned,unforced⟩ := each c (by rw [digits]; exact List.mem_cons_self)
    simp only [unsigned,unforced,if_false]
    rw [← digits,number]
    exact within

-- What the daemon is meant to know after the script has run.
def reported (now : Nat) (mode expectedPinentry : QByteArray) : QJsonObject :=
  .ofList [(text "timestamp",.integer now),(text "mode",.string (fromUtf8 mode)),
    (text "pinentry_path",.string (fromUtf8 expectedPinentry))]

def overridden (bootstrap : QJsonObject) (modeOverride : QByteArray) : QJsonObject :=
  if modeOverride = [] then bootstrap else bootstrap.insert (text "mode") (.string (decoded modeOverride))

-- Letter by letter, where deciding the statement itself would go through all
-- characters that there are.
theorem all_plain {literal : String} (checked : literal.toList.all (fun c => decide (c.toNat < 0x80)) = true) :
    ∀ c ∈ literal.toList, c.toNat < 0x80 := by
  intro c present
  exact of_decide_eq_true (List.all_eq_true.mp checked c present)

theorem all_visible {s : QString} (checked : s.all (fun c => !isSpace c) = true) : ∀ c ∈ s, isSpace c = false := by
  intro c present
  have seen := List.all_eq_true.mp checked c present
  rwa [Bool.not_eq_true'] at seen

theorem named_timestamp : Name (bytes "timestamp") :=
  ⟨(fromUtf8_bytes (all_plain (by decide))).1,by decide,all_visible (by decide),by decide,by decide⟩

theorem named_mode : Name (bytes "mode") :=
  ⟨(fromUtf8_bytes (all_plain (by decide))).1,by decide,all_visible (by decide),by decide,by decide⟩

theorem named_pinentry : Name (bytes "pinentry_path") :=
  ⟨(fromUtf8_bytes (all_plain (by decide))).1,by decide,all_visible (by decide),by decide,by decide⟩

theorem canonicalMode_cases (mode : QByteArray) :
    canonicalMode mode = bytes "warn" ∨ canonicalMode mode = bytes "session" ∨ canonicalMode mode = bytes "persistent" := by
  unfold canonicalMode
  split
  · assumption
  · exact .inr (.inl rfl)

theorem plain_literal {literal : String} (plain : ∀ c ∈ literal.toList, c.toNat < 0x80) :
    fromUtf8 (bytes literal) = text literal := by
  obtain ⟨low,same⟩ := fromUtf8_bytes plain
  have read := fromUtf8_plain low []
  rwa [List.append_nil,same,show fromUtf8 [] = [] from rfl,List.append_nil] at read

theorem writes_report {path : QByteArray} (now : Nat) (fits : now < 2 ^ 63) (chosen : QByteArray)
    (bare : Bare isSpace (fromUtf8 path)) :
    (reportLines now (canonicalMode chosen) path).flatMap writes =
      [.set (text "timestamp") (.integer now),.set (text "mode") (.string (fromUtf8 (canonicalMode chosen))),
        .set (text "pinentry_path") (.string (fromUtf8 path))] := by
  have digits := Decimal.mem_repr now
  have seconds : fromUtf8 (bytes now.repr) = text now.repr :=
    plain_literal (fun digit listed => Nat.lt_of_le_of_lt (digits digit listed).2 (by decide))
  have visible : Bare isSpace (fromUtf8 (bytes now.repr)) := by
    rw [seconds]
    apply bare_word
    intro c present
    obtain ⟨digit,listed,rfl⟩ := List.mem_map.mp present
    exact (digit_kind (digits digit listed)).1
  have canonical : Bare isSpace (fromUtf8 (canonicalMode chosen)) := by
    rcases canonicalMode_cases chosen with same | same | same <;>
    · rw [same,plain_literal (all_plain (by decide))]
      exact bare_word (all_visible (by decide))
  have first := entry_assignment named_timestamp visible
  have second := entry_assignment named_mode canonical
  have third := entry_assignment named_pinentry bare
  rw [seconds,toLongLong_repr now fits] at first
  change entry (bytes "timestamp=" ++ bytes now.repr) = some (text "timestamp",.integer now) at first
  change entry (bytes "mode=" ++ canonicalMode chosen) = some (text "mode",.string (fromUtf8 (canonicalMode chosen))) at second
  change entry (bytes "pinentry_path=" ++ path) = some (text "pinentry_path",.string (fromUtf8 path)) at third
  unfold reportLines
  simp only [List.flatMap_cons,List.flatMap_nil,writes,first,second,third]
  rfl

theorem reportLines_plain {path : QByteArray} (now : Nat) (chosen : QByteArray) (unbroken : newline ∉ path) :
    ∀ line ∈ reportLines now (canonicalMode chosen) path, newline ∉ line := by
  have digits : newline ∉ bytes now.repr := by
    intro present
    obtain ⟨digit,listed,same⟩ := List.mem_map.mp present
    have bounds := Decimal.mem_repr now digit listed
    have code := congrArg UInt8.toNat same
    rw [UInt8.toNat_ofNat_of_lt' (Nat.lt_of_le_of_lt bounds.2 (by decide))] at code
    change digit.toNat = 10 at code
    omega
  have canonical : newline ∉ canonicalMode chosen := by
    rcases canonicalMode_cases chosen with same | same | same <;>
    · rw [same]
      decide
  unfold reportLines
  simp only [List.forall_mem_cons,List.mem_append,not_or]
  exact ⟨⟨by decide,digits⟩,⟨by decide,canonical⟩,⟨by decide,unbroken⟩,List.forall_mem_nil _⟩

theorem entry_string (assigned : entry line = some (key,.string value)) :
    Bare isSpace value ∧ ∀ c ∈ value, c ∈ decoded line := by
  unfold entry at assigned
  simp only at assigned
  split at assigned
  · cases assigned
  · split at assigned
    · cases assigned
    · cases assigned
    · next delimiter _ _ =>
      split at assigned
      · cases assigned
      · obtain ⟨-,read⟩ := Prod.mk.inj (Option.some.inj assigned)
        split at read
        · exact nomatch read
        · cases read
          refine ⟨bare_strip _,?_⟩
          intro c present
          exact strip_subset _ c (List.mem_of_mem_drop (strip_subset _ c present))

theorem decoded_subset (bytes : QByteArray) : newline.toUInt16 ∈ decoded bytes → newline ∈ bytes := by
  intro present
  unfold decoded at present
  rw [mem_fromUtf8 (by decide)] at present
  split at present
  · exact List.mem_of_mem_drop present
  · exact present

theorem report_read {path : QByteArray} (now : Nat) (fits : now < 2 ^ 63) (chosen modeOverride : QByteArray) (key : QString)
    (unbroken : newline ∉ path) (bare : Bare isSpace (fromUtf8 path)) :
    (readBootstrapState (some (writeStateReport now (canonicalMode chosen) path)) modeOverride).value key =
      (overridden (reported now (canonicalMode chosen) path) modeOverride).value key := by
  rw [readBootstrapState_value]
  unfold writeStateReport
  rw [Lines.records_printed (reportLines_plain now chosen unbroken),writes_report now fits chosen bare]
  have known : (reported now (canonicalMode chosen) path).value key = lastWrite key .undefined
      [.set (text "timestamp") (.integer now),.set (text "mode") (.string (fromUtf8 (canonicalMode chosen))),
        .set (text "pinentry_path") (.string (fromUtf8 path))] := by
    unfold reported lastWrite
    rw [value_cons,value_cons,value_cons]
    simp only [List.foldl_cons,List.foldl_nil,Write.apply,eq_comm (b := key)]
    by_cases first : key = text "timestamp"
    · rw [first]
      rfl
    · by_cases second : key = text "mode"
      · rw [second]
        rfl
      · simp only [first,second,if_false]
        rfl
  unfold overridden
  by_cases unset : modeOverride = []
  · rw [if_neg (fun both => both.1 unset),if_pos unset,known]
  · rw [if_neg unset,QJsonObject.value_insert,known]
    simp only [unset,ne_eq,not_false_eq_true,true_and,eq_comm]

theorem path_shaped {path : QByteArray} (content modeOverride : QByteArray)
    (known : (readBootstrapState (some content) modeOverride).value (text "pinentry_path") = .string (fromUtf8 path)) :
    newline ∉ path ∧ Bare isSpace (fromUtf8 path) := by
  rw [readBootstrapState_value,if_neg (fun both => absurd both.2 (by decide))] at known
  rcases lastWrite_cases (text "pinentry_path") .undefined ((Lines.records newline content).flatMap writes) with unset | set
  · rw [unset] at known
    exact nomatch known
  · rw [known] at set
    obtain ⟨line,listed,written⟩ := List.mem_flatMap.mp set
    have free := Lines.records_free content line listed
    obtain ⟨bare,inside⟩ := entry_string (mem_writes written)
    refine ⟨fun present => free (decoded_subset line (inside _ ?_)),bare⟩
    exact (mem_fromUtf8 (by decide) path).mpr present

-- The daemon knows what the script has reported exactly if the pinentry's path
-- stays on its line and is not trimmed.
theorem report_read_iff (now : Nat) (fits : now < 2 ^ 63) (conflictMode : QByteArray) (arguments : List QByteArray)
    (pinentryPath libexecdir modeOverride : QByteArray) :
    (∀ key, (readBootstrapState (some (writeStateReport now (mode conflictMode arguments)
        (expectedPinentry pinentryPath libexecdir))) modeOverride).value key =
      (overridden (reported now (mode conflictMode arguments)
        (expectedPinentry pinentryPath libexecdir)) modeOverride).value key) ↔
    newline ∉ expectedPinentry pinentryPath libexecdir ∧
      Bare isSpace (fromUtf8 (expectedPinentry pinentryPath libexecdir)) := by
  constructor
  · intro known
    have path := known (text "pinentry_path")
    apply path_shaped _ modeOverride
    rw [path]
    unfold overridden
    split
    · rfl
    · rw [QJsonObject.value_insert,if_neg (by decide)]
      rfl
  · rintro ⟨unbroken,bare⟩ key
    exact report_read now fits _ modeOverride key unbroken bare

-- The environment names a mode that the script does not know, its command line
-- names another.
def loudReport : QJsonObject :=
  readBootstrapState (some (writeStateReport 1700000000 (mode (bytes "loud") [bytes "--mode",bytes "warn"])
    (expectedPinentry [] (bytes "/usr/libexec")))) []

theorem loudReport_read :
    loudReport.value (text "timestamp") = .integer 1700000000 ∧ loudReport.value (text "mode") = .string (text "warn") ∧
    loudReport.value (text "pinentry_path") = .string (text "/usr/libexec/pinentry-bb") := by
  have joined : expectedPinentry [] (bytes "/usr/libexec") = bytes "/usr/libexec/pinentry-bb" := by decide
  have path : fromUtf8 (bytes "/usr/libexec/pinentry-bb") = text "/usr/libexec/pinentry-bb" :=
    plain_literal (all_plain (by decide))
  have chosen : fromUtf8 (mode (bytes "loud") [bytes "--mode",bytes "warn"]) = text "warn" :=
    plain_literal (all_plain (by decide))
  have known := (report_read_iff 1700000000 (by decide) (bytes "loud") [bytes "--mode",bytes "warn"] []
    (bytes "/usr/libexec") []).mpr (by
      rw [joined,path]
      exact ⟨by decide,bare_word (all_visible (by decide))⟩)
  rw [joined] at known
  refine ⟨known _,(known _).trans ?_,(known _).trans ?_⟩
  · exact congrArg QJsonValue.string chosen
  · exact congrArg QJsonValue.string path

end StateReport

end BbAuth
