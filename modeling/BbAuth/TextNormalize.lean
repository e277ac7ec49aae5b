import BbAuth.AssuanCodec
import BbAuth.Library.Words

open Library Library.Words
namespace BbAuth

namespace TextNormalize

open AssuanCodec (lineFeed carriageReturn isSpace trimmed)

def split (s : QString) : List QString := s.splitOn lineFeed

def join (lines : List QString) : QString := [lineFeed].intercalate lines

-- QString::simplified: the words with one blank between any two of them.
def simplified (s : QString) : QString := [0x20].intercalate (words isSpace s)

-- Carriage returns end lines too.
def normalized (c : QChar) : QChar := if c = carriageReturn then lineFeed else c

def cleaned (s : QString) : List QString :=
  ((split (s.map normalized)).map simplified).filter (fun simplified => !simplified.isEmpty)

def normalizeDetailText (s : QString) : QString := join (cleaned s)

-- Up to the first line feed, if there is one.
def firstMeaningfulLine (s : QString) : QString := (normalizeDetailText s).takeWhile (fun c => decide (c ≠ lineFeed))

section

-- QString::toLower.
variable (lower : QString → QString)

-- The backquote, the quotation mark, the comma and the full stop become blanks.
def unmarked (c : QChar) : QChar := if c = 0x60 ∨ c = 0x22 ∨ c = 0x2C ∨ c = 0x2E then 0x20 else c

def normalizeCompareText (s : QString) : QString := simplified ((lower (normalizeDetailText s)).map unmarked)

def textEquivalent (left right : QString) : Bool :=
  let a := normalizeCompareText lower left
  let b := normalizeCompareText lower right
  if a.isEmpty || b.isEmpty then false else decide (a = b) || b.isPrefixOf a || a.isPrefixOf b

-- One turn of the loop of uniqueJoined.
def unique (filtered : List QString) (value : QString) : List QString :=
  let simplified := trimmed value
  if simplified.isEmpty then filtered
  else
    let duplicate := filtered.any (fun existing => textEquivalent lower existing simplified)
    if duplicate then filtered else filtered ++ [simplified]

def filtered (values : List QString) : List QString := values.foldl (unique lower) []

def uniqueJoined (values : List QString) : QString := join (filtered lower values)

end

-- The lines are trimmed and not blank. An empty text has none.
def Normalized (s : QString) : Prop := s = [] ∨ ∀ line ∈ split s, line ≠ [] ∧ Bare isSpace line

theorem isSpace_lineFeed : isSpace lineFeed = true := rfl

theorem simplified_bare (s : QString) : Bare isSpace (simplified s) :=
  bare_intercalate [0x20] (fun _ present => ⟨(mem_words present).1,bare_word (mem_words present).2⟩)

theorem simplified_free (s : QString) : lineFeed ∉ simplified s := by
  intro present
  rcases mem_intercalate present with between | ⟨word,listed,inside⟩
  · exact absurd between (by decide)
  · have free := (mem_words listed).2 lineFeed inside
    rw [isSpace_lineFeed] at free
    cases free

theorem join_cons (line : QString) (rest : List QString) :
    join (line :: rest) = line ++ rest.flatMap (fun next => lineFeed :: next) := by
  unfold join
  induction rest generalizing line with
  | nil => rw [List.intercalate_singleton,List.flatMap_nil,List.append_nil]
  | cons next rest ih =>
    rw [List.intercalate_cons_cons,ih,List.flatMap_cons,List.append_assoc]
    rfl

theorem join_append {kept : List QString} (filled : kept ≠ []) (rest : List QString) :
    join (kept ++ rest) = join kept ++ rest.flatMap (fun next => lineFeed :: next) := by
  obtain ⟨first,more,same⟩ := List.exists_cons_of_ne_nil filled
  subst same
  rw [List.cons_append,join_cons,join_cons,List.flatMap_append,List.append_assoc]

theorem join_longer (kept : List QString) (line more : QString) (rest : List QString) :
    join (kept ++ (line ++ more) :: rest) = join (kept ++ [line]) ++ (more ++ rest.flatMap (fun next => lineFeed :: next)) := by
  cases kept with
  | nil => rw [List.nil_append,List.nil_append,join_cons,join_cons,List.flatMap_nil,List.append_nil,List.append_assoc]
  | cons first kept =>
    rw [join_append (List.cons_ne_nil first kept),join_append (List.cons_ne_nil first kept),List.flatMap_cons,List.flatMap_singleton,
      List.append_assoc,List.cons_append,List.cons_append,List.append_assoc]

theorem join_split (s : QString) : join (split s) = s := List.intercalate_splitOn lineFeed

theorem split_free (s : QString) : ∀ line ∈ split s, lineFeed ∉ line := by
  intro line present inside
  have free : (lineFeed == lineFeed) = false := splitOnP_free s line present lineFeed inside
  cases free

theorem split_join {lines : List QString} (free : ∀ line ∈ lines, lineFeed ∉ line) (filled : lines ≠ []) : split (join lines) = lines :=
  List.splitOn_intercalate lineFeed free filled

theorem join_normalized {lines : List QString} (each : ∀ line ∈ lines, line ≠ [] ∧ Bare isSpace line ∧ lineFeed ∉ line) : Normalized (join lines) := by
  cases lines with
  | nil => exact .inl rfl
  | cons first rest =>
    refine .inr ?_
    rw [split_join (fun line present => (each line present).2.2) (List.cons_ne_nil first rest)]
    exact fun line present => ⟨(each line present).1,(each line present).2.1⟩

theorem normalizeDetailText_normalized (s : QString) : Normalized (normalizeDetailText s) := by
  apply join_normalized
  intro line present
  obtain ⟨listed,filled⟩ := List.mem_filter.mp present
  obtain ⟨raw,_,same⟩ := List.mem_map.mp listed
  subst same
  refine ⟨?_,simplified_bare raw,simplified_free raw⟩
  intro nothing
  rw [nothing] at filled
  cases filled

theorem split_append (s : QString) {more : QString} (inside : lineFeed ∉ more) :
    ∃ front last, split s = front ++ [last] ∧ split (s ++ more) = front ++ [last ++ more] := by
  induction s with
  | nil => exact ⟨[],[],rfl,List.splitOn_eq_singleton inside⟩
  | cons d rest ih =>
    obtain ⟨front,last,whole,longer⟩ := ih
    unfold split at whole longer ⊢
    rw [List.cons_append,List.splitOn_cons_eq_if_modifyHead,List.splitOn_cons_eq_if_modifyHead,whole,longer]
    split
    · exact ⟨[] :: front,last,rfl,rfl⟩
    · cases front with
      | nil => exact ⟨[],d :: last,rfl,rfl⟩
      | cons first front => exact ⟨(d :: first) :: front,last,rfl,rfl⟩

theorem normalized_cases (c : QChar) : normalized c = lineFeed ∨ normalized c = c ∧ c ≠ lineFeed := by
  unfold normalized
  split
  · exact .inl rfl
  · by_cases same : c = lineFeed
    · exact .inl same
    · exact .inr ⟨rfl,same⟩

theorem cleaned_cons (blank : isSpace c = true) (s : QString) : cleaned (c :: s) = cleaned s := by
  unfold cleaned split
  rw [List.map_cons,List.splitOn_cons_eq_if_modifyHead]
  rcases normalized_cases c with ends | ⟨kept,inside⟩
  · rw [ends,if_pos (beq_self_eq_true lineFeed)]
    rfl
  · obtain ⟨first,rest,lines⟩ := List.exists_cons_of_ne_nil (List.splitOn_ne_nil lineFeed (s.map normalized))
    rw [kept,if_neg (mt eq_of_beq inside),lines,List.modifyHead_cons,List.map_cons,List.map_cons]
    unfold simplified
    rw [words_cons blank]

theorem cleaned_concat (blank : isSpace c = true) (s : QString) : cleaned (s ++ [c]) = cleaned s := by
  unfold cleaned
  rw [List.map_append,List.map_singleton]
  rcases normalized_cases c with ends | ⟨kept,inside⟩
  · unfold split
    rw [ends,List.splitOn_append_cons_self,List.splitOn_nil,List.map_append,List.filter_append]
    exact List.append_nil _
  · have single := List.not_mem_cons_of_ne_of_not_mem (Ne.symm inside) List.not_mem_nil
    obtain ⟨front,last,whole,longer⟩ := split_append (s.map normalized) single
    rw [kept,whole,longer,List.map_append,List.map_append,List.map_singleton,List.map_singleton]
    unfold simplified
    rw [words_concat blank]

theorem normalizeDetailText_trimmed (s : QString) : normalizeDetailText (trimmed s) = normalizeDetailText s := by
  obtain ⟨before,after,whole,front,back⟩ : ∃ before after, s = before ++ trimmed s ++ after ∧
      (∀ c ∈ before, isSpace c = true) ∧ ∀ c ∈ after, isSpace c = true := strip_between s
  have ahead (t : QString) : cleaned (before ++ t) = cleaned t := by
    clear whole
    induction before with
    | nil => rfl
    | cons c rest ih =>
      obtain ⟨blank,others⟩ := List.forall_mem_cons.mp front
      rw [List.cons_append,cleaned_cons blank,ih others]
  have behind (t : QString) : cleaned (t ++ after) = cleaned t := by
    clear whole
    induction after using List.reverseRecOn with
    | nil => rw [List.append_nil]
    | append_singleton rest c ih =>
      obtain ⟨others,blank⟩ := List.forall_mem_append.mp back
      rw [← List.append_assoc,cleaned_concat (blank c List.mem_cons_self),ih others]
  have same : cleaned s = cleaned (trimmed s) := by
    have split : cleaned s = cleaned (before ++ strip isSpace s ++ after) := congrArg cleaned whole
    rw [behind,ahead] at split
    exact split
  exact congrArg join same.symm

variable {lower : QString → QString} {line value : QString}

-- The compared form of the line is that of the text, or begins with it.
def Covers (lower : QString → QString) (line value : QString) : Prop :=
  normalizeCompareText lower line = normalizeCompareText lower value ∨
    normalizeCompareText lower value <+: normalizeCompareText lower line

-- The text says more than the line, whose compared form is not empty.
def Extends (lower : QString → QString) (line value : QString) : Prop :=
  normalizeCompareText lower line ≠ [] ∧ normalizeCompareText lower line <+: normalizeCompareText lower value

theorem normalizeCompareText_trimmed (s : QString) : normalizeCompareText lower (trimmed s) = normalizeCompareText lower s := by
  unfold normalizeCompareText
  rw [normalizeDetailText_trimmed]

theorem textEquivalent_related (equivalent : textEquivalent lower line value = true) : Covers lower line value ∨ Extends lower line value := by
  unfold textEquivalent at equivalent
  simp only at equivalent
  split at equivalent
  · cases equivalent
  · next filled =>
    simp only [Bool.or_eq_true,List.isEmpty_iff,not_or] at filled
    rcases Bool.or_eq_true_iff.mp equivalent with (same | shorter)
    · rcases Bool.or_eq_true_iff.mp same with equal | longer
      · exact .inl (.inl (of_decide_eq_true equal))
      · exact .inl (.inr (List.isPrefixOf_iff_prefix.mp longer))
    · exact .inr ⟨filled.1,List.isPrefixOf_iff_prefix.mp shorter⟩

theorem unique_keeps (filtered : List QString) (value : QString) : filtered <+: unique lower filtered value := by
  unfold unique
  simp only
  split
  · exact List.prefix_rfl
  · split
    · exact List.prefix_rfl
    · exact List.prefix_append _ _

theorem mem_unique {filtered : List QString} (present : line ∈ unique lower filtered value) : line ∈ filtered ∨ line = trimmed value := by
  unfold unique at present
  simp only at present
  split at present
  · exact .inl present
  · split at present
    · exact .inl present
    · rcases List.mem_append.mp present with before | added
      · exact .inl before
      · exact .inr (List.mem_singleton.mp added)

-- After its turn an input that is not blank is kept or related to a kept one, which
-- was there before where it says less.
theorem unique_related (filtered : List QString) (visible : trimmed value ≠ []) :
    ∃ line ∈ unique lower filtered value, Covers lower line value ∨ (Extends lower line value ∧ line ∈ filtered) := by
  unfold unique
  simp only
  rw [if_neg (mt List.isEmpty_iff.mp visible)]
  split
  · next duplicate =>
    obtain ⟨existing,kept,equivalent⟩ := List.any_eq_true.mp duplicate
    have related := textEquivalent_related equivalent
    unfold Covers Extends at related
    rw [normalizeCompareText_trimmed] at related
    exact ⟨existing,kept,related.imp_right (fun shorter => ⟨shorter,kept⟩)⟩
  · exact ⟨trimmed value,List.mem_append_right _ List.mem_cons_self,.inl (.inl (normalizeCompareText_trimmed value))⟩

theorem filtered_concat (values : List QString) (last : QString) :
    filtered lower (values ++ [last]) = unique lower (filtered lower values) last := List.foldl_append

theorem filtered_prefix (values more : List QString) : filtered lower values <+: filtered lower (values ++ more) := by
  induction more using List.reverseRecOn with
  | nil => rw [List.append_nil]
  | append_singleton more last ih =>
    rw [← List.append_assoc,filtered_concat]
    exact ih.trans (unique_keeps _ last)

theorem filtered_inputs (values : List QString) : ∀ line ∈ filtered lower values, ∃ value ∈ values, line = trimmed value := by
  induction values using List.reverseRecOn with
  | nil => exact List.forall_mem_nil _
  | append_singleton before last ih =>
    rw [filtered_concat]
    intro line kept
    rcases mem_unique kept with earlier | now
    · obtain ⟨value,present,same⟩ := ih line earlier
      exact ⟨value,List.mem_append_left _ present,same⟩
    · exact ⟨last,List.mem_append_right _ List.mem_cons_self,now⟩

-- Every input that is not blank has a line for it, which may say less if it was
-- kept of the inputs before.
theorem filtered_represents (lower : QString → QString) (values : List QString) :
    uniqueJoined lower values = join (filtered lower values) ∧
    (∀ line ∈ filtered lower values, ∃ value ∈ values, line = trimmed value) ∧
    ∀ before value after, values = before ++ value :: after → trimmed value ≠ [] →
      ∃ line ∈ filtered lower values, Covers lower line value ∨ (Extends lower line value ∧ line ∈ filtered lower before) := by
  refine ⟨rfl,filtered_inputs values,?_⟩
  intro before value after whole visible
  obtain ⟨line,kept,related⟩ := unique_related (filtered lower before) visible
  rw [← filtered_concat] at kept
  have first : filtered lower (before ++ [value]) <+: filtered lower (before ++ [value] ++ after) := filtered_prefix _ after
  rw [List.append_assoc,List.singleton_append,← whole] at first
  exact ⟨line,first.subset kept,related⟩

theorem filtered_represents_longer : ∃ line ∈ filtered toLower [text "a",text "ab"], Covers toLower line (text "ab") ∨
    (Extends toLower line (text "ab") ∧ line ∈ filtered toLower [text "a"]) :=
  (filtered_represents toLower [text "a",text "ab"]).2.2 [text "a"] (text "ab") [] rfl (by decide)

-- The shorter line comes first, and the longer one is dropped.
theorem filtered_shorter : ¬∀ values, ∀ value ∈ values, trimmed value ≠ [] → ∃ line ∈ filtered toLower values, Covers toLower line value := by
  intro represented
  obtain ⟨line,kept,covers⟩ := represented [text "a",text "ab"] (text "ab") (by decide) (by decide)
  have only : filtered toLower [text "a",text "ab"] = [text "a"] := by decide
  rw [only,List.mem_singleton] at kept
  subst kept
  rcases covers with same | longer
  · exact absurd same (by decide)
  · exact absurd longer (by decide)

end TextNormalize

end BbAuth
