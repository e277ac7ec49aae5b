import BbAuth.Library.Lines
import BbAuth.Library.Patterns
import BbAuth.Library.Table
import Mathlib.Data.List.DropRight

open Library Library.Lines Library.Patterns
namespace BbAuth

namespace Bootstrap

abbrev Text := List Char

def keyword : Text := "pinentry-program".toList

-- What the script is at the mercy of: the locale's [[:space:]] as grep and sed know
-- it and as awk does, which need not be the same in an awk that reads bytes, and the
-- text that `awk -v` makes of an argument, where only backslashes are special.
structure Tools where
  spaces : List Char
  awkSpaces : List Char
  blank : ' ' ∈ spaces
  visible : ∀ c ∈ keyword, c ∉ spaces
  assigned : Text → Text
  plain : ∀ value, '\\' ∉ value → assigned value = value

structure File where
  content : Text
  mode : Nat
  deriving DecidableEq, Repr

-- The directory ~/.gnupg. Backups are found by the time in their names.
structure GnupgDir where
  mode : Nat := 0o755
  conf : Option File := none
  backups : Table Nat File := .empty

structure Outcome where
  dir : GnupgDir
  status : Nat
  log : List Text

section

variable (tools : Tools)

def pattern : RegularExpression Char := keyed tools.spaces keyword

def awkPattern : RegularExpression Char := keyed tools.awkSpaces keyword

def grep (lines : List Text) : List Text := lines.filter (begins (pattern tools))

def tail (lines : List Text) : List Text := lines.getLast?.toList

def sed (lines : List Text) : List Text := lines.map (withoutLongest (pattern tools))

def print (lines : List Text) : Text := lines.flatMap (· ++ ['\n'])

-- Newlines at the end are cut off.
def substituted (printed : Text) : Text := printed.rdropWhile (fun c => decide (c = '\n'))

def current (content : Text) : Text := substituted (print (sed tools (tail (grep tools (records '\n' content)))))

-- The awk program, with its variable `replaced`.
def awk (replacement : Text) : Bool → List Text → List Text
  | replaced,[] => if !replaced then [replacement] else []
  | replaced,line :: rest =>
    if begins (awkPattern tools) line then
      if !replaced then replacement :: awk replacement true rest else awk replacement true rest
    else line :: awk replacement replaced rest

def entry (expected : Text) : Text := keyword ++ ' ' :: expected

def opened (home : Option GnupgDir) : GnupgDir := {home.getD {} with mode:=0o700}

def GnupgDir.backedUp (dir : GnupgDir) (now : Nat) (gpg_conf : File) : GnupgDir := {dir with backups:=dir.backups.insert now gpg_conf}

def GnupgDir.written (dir : GnupgDir) (content : Text) : GnupgDir := {dir with conf:=some ⟨content,0o600⟩}

def ensureGpgPinentry (expected : Text) (now : Nat) (home : Option GnupgDir) : Outcome :=
  let dir := opened home
  match dir.conf with
  | none => ⟨dir.written (entry expected ++ ['\n']),1,["created gpg-agent.conf with canonical pinentry path".toList]⟩
  | some gpg_conf =>
    let current := current tools gpg_conf.content
    if current.isEmpty then
      ⟨(dir.backedUp now gpg_conf).written (gpg_conf.content ++ '\n' :: entry expected ++ ['\n']),1,
        ["added missing pinentry-program to gpg-agent.conf".toList]⟩
    else if current ≠ expected then
      ⟨(dir.backedUp now gpg_conf).written
          (print (awk tools (tools.assigned (entry expected)) false (records '\n' gpg_conf.content))),1,
        ["updated pinentry-program from '".toList ++ current ++ "' to '".toList ++ expected ++ "'".toList]⟩
    else ⟨dir,0,[]⟩

-- awk takes the same characters of a text for [[:space:]] as grep and sed.
def Agree (content : Text) : Prop := ∀ c ∈ content, c ∈ tools.awkSpaces ↔ c ∈ tools.spaces

def GnupgDir.lines (dir : GnupgDir) : List Text := (dir.conf.map (fun conf => records '\n' conf.content)).getD []

def others (lines : List Text) : List Text := lines.filter (fun line => !begins (pattern tools) line)

-- The last pinentry-program line names the expected path.
def Configured (expected : Text) (lines : List Text) : Prop :=
  ∃ before line after, lines = before ++ line :: after ∧ Names tools.spaces keyword line expected ∧
    ∀ later ∈ after, ∀ value, ¬Names tools.spaces keyword later value

-- The file names the expected path, and its other lines are the old ones, with at
-- most one blank line behind them.
structure Safe (expected : Text) (old new : List Text) : Prop where
  configured : Configured tools expected new
  kept : others tools new = others tools old ∨ others tools new = others tools old ++ [[]]

end

variable {tools : Tools} {expected replacement value line : Text} {lines before after : List Text} {content : Text}

theorem begins_iff_names : begins (pattern tools) line = true ↔ ∃ value, Names tools.spaces keyword line value := begins_keyed

theorem sed_value (names : Names tools.spaces keyword line value) : withoutLongest (pattern tools) line = value := by
  apply names_withoutLongest _ (by decide) names
  exact fun c first => tools.visible c (List.mem_of_head? first)

theorem entry_names (bare : ∀ c ∈ expected.head?, c ∉ tools.spaces) : Names tools.spaces keyword (entry expected) expected := by
  refine ⟨[],[' '],rfl,List.forall_mem_nil _,List.cons_ne_nil _ _,?_,bare⟩
  exact List.forall_mem_singleton.mpr tools.blank

theorem blank_unnamed : begins (pattern tools) [] = false := by
  rw [← Bool.not_eq_true,begins_iff_names]
  intro ⟨value,before,gap,whole,_⟩
  have size := congrArg List.length whole
  simp only [List.length_append,List.length_nil] at size
  have long : keyword.length = 16 := rfl
  omega

theorem others_append (first second : List Text) : others tools (first ++ second) = others tools first ++ others tools second :=
  List.filter_append ..

theorem others_entry (names : Names tools.spaces keyword line value) (rest : List Text) : others tools (line :: rest) = others tools rest :=
  List.filter_cons_of_neg (by rw [begins_iff_names.mpr ⟨value,names⟩]; decide)

theorem others_free (line : Text) (other : line ∈ others tools lines) (value : Text) : ¬Names tools.spaces keyword line value := by
  intro names
  have unnamed := (List.mem_filter.mp other).2
  rw [begins_iff_names.mpr ⟨value,names⟩] at unnamed
  cases unnamed

theorem substituted_line (single : '\n' ∉ line) : substituted (print [line]) = line := by
  have printed : print [line] = line ++ ['\n'] := List.flatMap_singleton _ _
  unfold substituted
  rw [printed,List.rdropWhile_concat_pos _ _ _ (by decide),List.rdropWhile_eq_self_iff]
  intro filled last
  exact single (of_decide_eq_true last ▸ List.getLast_mem filled)

theorem current_last (split : records '\n' content = before ++ line :: after) (names : Names tools.spaces keyword line value)
    (lone : ∀ later ∈ after, ∀ other, ¬Names tools.spaces keyword later other) : current tools content = value := by
  have none_later : grep tools after = [] := by
    apply List.filter_eq_nil_iff.mpr
    intro later present found
    obtain ⟨other,named⟩ := begins_iff_names.mp found
    exact lone later present other named
  have found : tail (grep tools (records '\n' content)) = [line] := by
    unfold grep at none_later
    unfold tail grep
    rw [split,List.filter_append,List.filter_cons_of_pos (begins_iff_names.mpr ⟨value,names⟩),none_later,List.getLast?_concat]
    rfl
  have single : '\n' ∉ value := by
    have plain := records_free content line (split ▸ List.mem_append_right _ List.mem_cons_self)
    obtain ⟨before,gap,whole,_⟩ := names
    rw [whole] at plain
    exact fun inside => plain (List.mem_append_right _ (List.mem_append_right _ inside))
  unfold current
  rw [found]
  change substituted (print [withoutLongest (pattern tools) line]) = value
  rw [sed_value names,substituted_line single]

theorem current_none (absent : ∀ line ∈ records '\n' content, ∀ value, ¬Names tools.spaces keyword line value) : current tools content = [] := by
  have nothing : grep tools (records '\n' content) = [] := by
    apply List.filter_eq_nil_iff.mpr
    intro line present found
    obtain ⟨value,named⟩ := begins_iff_names.mp found
    exact absent line present value named
  unfold current
  rw [nothing]
  rfl

theorem current_configured (configured : Configured tools expected (records '\n' content)) : current tools content = expected := by
  obtain ⟨before,line,after,split,names,lone⟩ := configured
  exact current_last split names lone

theorem last_named (tools : Tools) (lines : List Text) : (∀ line ∈ lines, ∀ value, ¬Names tools.spaces keyword line value) ∨
    ∃ value, Configured tools value lines := by
  induction lines using List.reverseRecOn with
  | nil => exact .inl (List.forall_mem_nil _)
  | append_singleton lines last ih =>
    cases found : begins (pattern tools) last with
    | true =>
      obtain ⟨value,names⟩ := begins_iff_names.mp found
      exact .inr ⟨value,lines,last,[],rfl,names,List.forall_mem_nil _⟩
    | false =>
      have unnamed : ∀ value, ¬Names tools.spaces keyword last value := by
        intro value names
        rw [begins_iff_names.mpr ⟨value,names⟩] at found
        cases found
      rcases ih with absent | ⟨value,before,line,after,split,names,lone⟩
      · exact .inl (List.forall_mem_append.mpr ⟨absent,List.forall_mem_singleton.mpr unnamed⟩)
      · refine .inr ⟨value,before,line,after ++ [last],?_,names,?_⟩
        · rw [split,List.append_assoc]
          rfl
        · exact List.forall_mem_append.mpr ⟨lone,List.forall_mem_singleton.mpr unnamed⟩

theorem configured_current (filled : current tools content ≠ []) : Configured tools (current tools content) (records '\n' content) := by
  rcases last_named tools (records '\n' content) with absent | ⟨value,configured⟩
  · exact absurd (current_none absent) filled
  · rw [current_configured configured]
    exact configured

theorem awk_begins (agree : Agree tools line) : begins (awkPattern tools) line = begins (pattern tools) line :=
  begins_congr agree

theorem awk_replaced (replacement : Text) (lines : List Text) (agree : ∀ line ∈ lines, Agree tools line) :
    awk tools replacement true lines = others tools lines := by
  induction lines with
  | nil => rfl
  | cons line rest ih =>
    obtain ⟨now,later⟩ := List.forall_mem_cons.mp agree
    unfold awk others
    rw [List.filter_cons,awk_begins now]
    cases begins (pattern tools) line with
    | true => exact ih later
    | false => exact congrArg (line :: ·) (ih later)

theorem awk_split (tools : Tools) (replacement : Text) (lines : List Text) (agree : ∀ line ∈ lines, Agree tools line) :
    ∃ before after,
      awk tools replacement false lines = before ++ replacement :: after ∧ before ++ after = others tools lines := by
  induction lines with
  | nil => exact ⟨[],[],rfl,rfl⟩
  | cons line rest ih =>
    obtain ⟨now,later⟩ := List.forall_mem_cons.mp agree
    unfold awk others
    rw [List.filter_cons,awk_begins now]
    cases begins (pattern tools) line with
    | true =>
      refine ⟨[],others tools rest,?_,rfl⟩
      exact congrArg (replacement :: ·) (awk_replaced replacement rest later)
    | false =>
      obtain ⟨before,after,printed,kept⟩ := ih later
      exact ⟨line :: before,after,congrArg (line :: ·) printed,congrArg (line :: ·) kept⟩

theorem others_again (lines : List Text) : others tools (others tools lines) = others tools lines := by
  unfold others
  rw [List.filter_filter]
  simp only [Bool.and_self]

theorem entry_single (single : '\n' ∉ expected) : '\n' ∉ entry expected := by
  intro present
  rcases List.mem_append.mp present with inside | behind
  · exact absurd inside (by decide)
  · exact single (List.mem_of_ne_of_mem (by decide) behind)

theorem entry_record (single : '\n' ∉ expected) : records '\n' (entry expected ++ ['\n']) = [entry expected] :=
  records_line (entry_single single) []

theorem created_safe (bare : ∀ c ∈ expected.head?, c ∉ tools.spaces) (single : '\n' ∉ expected) :
    Safe tools expected [] (records '\n' (entry expected ++ ['\n'])) := by
  rw [entry_record single]
  constructor
  · exact ⟨[],entry expected,[],rfl,entry_names bare,List.forall_mem_nil _⟩
  · exact .inl (others_entry (entry_names bare) [])

-- The blank line is added where the text ends its last line.
theorem appended_safe (bare : ∀ c ∈ expected.head?, c ∉ tools.spaces) (single : '\n' ∉ expected) (content : Text) :
    Safe tools expected (records '\n' content) (records '\n' (content ++ '\n' :: entry expected ++ ['\n'])) := by
  have behind : content ++ '\n' :: entry expected ++ ['\n'] = content ++ '\n' :: (entry expected ++ ['\n']) := List.append_assoc ..
  rw [behind,records_append,entry_record single]
  have added : others tools [entry expected] = [] := others_entry (entry_names bare) []
  constructor
  · exact ⟨_,entry expected,[],rfl,entry_names bare,List.forall_mem_nil _⟩
  · rw [others_append,others_append,added,List.append_nil]
    split
    · have blank : others tools [[]] = [[]] := List.filter_cons_of_pos (by rw [blank_unnamed]; rfl)
      exact .inr (by rw [blank])
    · exact .inl (List.append_nil _)

theorem rewritten_safe (bare : ∀ c ∈ expected.head?, c ∉ tools.spaces) (single : '\n' ∉ expected)
    (agree : Agree tools content) :
    Safe tools expected (records '\n' content) (records '\n' (print (awk tools (entry expected) false (records '\n' content)))) := by
  obtain ⟨before,after,printed,kept⟩ := awk_split tools (entry expected) (records '\n' content)
    (fun line listed c inside => agree c (mem_of_records listed inside))
  have others_of {other : Text} (present : other ∈ before ++ after) : other ∈ others tools (records '\n' content) := kept ▸ present
  have plain : ∀ line ∈ before ++ entry expected :: after, '\n' ∉ line := by
    have free : ∀ line ∈ before ++ after, '\n' ∉ line := by
      intro line present
      exact records_free content line (List.mem_of_mem_filter (others_of present))
    obtain ⟨front,back⟩ := List.forall_mem_append.mp free
    exact List.forall_mem_append.mpr ⟨front,List.forall_mem_cons.mpr ⟨entry_single single,back⟩⟩
  have read : records '\n' (print (before ++ entry expected :: after)) = before ++ entry expected :: after := records_printed plain
  rw [printed,read]
  constructor
  · refine ⟨before,entry expected,after,rfl,entry_names bare,?_⟩
    exact fun later present => others_free later (others_of (List.mem_append_right before present))
  · have same : others tools (before ++ entry expected :: after) = others tools (before ++ after) := by
      rw [others_append,others_append,others_entry (entry_names bare)]
    rw [same,kept,others_again]
    exact .inl rfl

inductive Ran (tools : Tools) (expected : Text) (now : Nat) (dir : GnupgDir) : Outcome → Prop where
  | created (absent : dir.conf = none) (log : List Text) :
      Ran tools expected now dir ⟨dir.written (entry expected ++ ['\n']),1,log⟩
  | appended (there : dir.conf = some gpg_conf) (missing : current tools gpg_conf.content = []) (log : List Text) :
      Ran tools expected now dir ⟨(dir.backedUp now gpg_conf).written (gpg_conf.content ++ '\n' :: entry expected ++ ['\n']),1,log⟩
  | rewritten (there : dir.conf = some gpg_conf) (filled : current tools gpg_conf.content ≠ []) (other : current tools gpg_conf.content ≠ expected)
      (log : List Text) : Ran tools expected now dir
        ⟨(dir.backedUp now gpg_conf).written (print (awk tools (tools.assigned (entry expected)) false (records '\n' gpg_conf.content))),1,log⟩
  | unchanged (there : dir.conf = some gpg_conf) (filled : current tools gpg_conf.content ≠ []) (same : current tools gpg_conf.content = expected) :
      Ran tools expected now dir ⟨dir,0,[]⟩

theorem ensure_ran (tools : Tools) (expected : Text) (now : Nat) (home : Option GnupgDir) :
    Ran tools expected now (opened home) (ensureGpgPinentry tools expected now home) := by
  unfold ensureGpgPinentry
  simp only
  split
  · next absent => exact .created absent _
  · next there =>
    split
    · next missing => exact .appended there (List.isEmpty_iff.mp missing) _
    · next missing =>
      have filled := mt List.isEmpty_iff.mpr missing
      split
      · next other => exact .rewritten there filled other _
      · next same => exact .unchanged there filled (not_not.mp same)

theorem assigned_entry (simple : '\\' ∉ expected) : tools.assigned (entry expected) = entry expected := by
  apply tools.plain
  intro present
  rcases List.mem_append.mp present with inside | behind
  · exact absurd inside (by decide)
  · exact simple (List.mem_of_ne_of_mem (by decide) behind)

theorem lines_of_conf {dir : GnupgDir} (there : dir.conf = some gpg_conf) : dir.lines = records '\n' gpg_conf.content := by
  unfold GnupgDir.lines
  rw [there]
  rfl

theorem Ran.safe {outcome : Outcome} (ran : Ran tools expected now dir outcome) (bare : ∀ c ∈ expected.head?, c ∉ tools.spaces)
    (single : '\n' ∉ expected) (simple : '\\' ∉ expected) (agree : ∀ conf ∈ dir.conf, Agree tools conf.content) :
    Safe tools expected dir.lines outcome.dir.lines := by
  cases ran with
  | created absent log =>
    have nothing : dir.lines = [] := by
      unfold GnupgDir.lines
      rw [absent]
      rfl
    rw [nothing]
    exact created_safe bare single
  | appended there missing log =>
    rw [lines_of_conf there]
    exact appended_safe bare single _
  | rewritten there filled other log =>
    rw [lines_of_conf there,assigned_entry simple]
    exact rewritten_safe bare single (agree _ there)
  | unchanged there filled same =>
    have configured := configured_current filled
    rw [same,← lines_of_conf there] at configured
    exact ⟨configured,.inl rfl⟩

theorem Ran.again {outcome : Outcome} (ran : Ran tools expected now dir outcome) (configured : Configured tools expected dir.lines)
    (filled : expected ≠ []) : outcome = ⟨dir,0,[]⟩ := by
  have found {gpg_conf : File} (there : dir.conf = some gpg_conf) : current tools gpg_conf.content = expected := by
    rw [lines_of_conf there] at configured
    exact current_configured configured
  cases ran with
  | created absent log =>
    obtain ⟨before,line,after,split,_⟩ := configured
    unfold GnupgDir.lines at split
    rw [absent] at split
    exact absurd split.symm (List.append_ne_nil_of_right_ne_nil before (List.cons_ne_nil line after))
  | appended there missing log => exact absurd ((found there).symm.trans missing) filled
  | rewritten there _ other log => exact absurd (found there) other
  | unchanged there _ _ => rfl

theorem Ran.mode {outcome : Outcome} (ran : Ran tools expected now dir outcome) : outcome.dir.mode = dir.mode := by
  cases ran with
  | created absent log => rfl
  | appended there missing log => rfl
  | rewritten there filled other log => rfl
  | unchanged there filled same => rfl

-- A file that is not left as it was can be found among the backups.
theorem Ran.backed_up {outcome : Outcome} (ran : Ran tools expected now dir outcome) (there : dir.conf = some gpg_conf)
    (changed : outcome.dir.conf ≠ some gpg_conf) : outcome.dir.backups.find now = some gpg_conf := by
  have backup {old : File} (was : dir.conf = some old) : (dir.backedUp now old).backups.find now = some gpg_conf := by
    rw [there] at was
    cases was
    exact Table.find_insert_self _ _ _
  cases ran with
  | created absent log =>
    rw [there] at absent
    cases absent
  | appended was missing log => exact backup was
  | rewritten was filled other log => exact backup was
  | unchanged was filled same => exact absurd there changed

theorem opened_again {dir : GnupgDir} (mode : dir.mode = 0o700) : opened (some dir) = dir := by
  unfold opened
  rw [← mode]
  rfl

-- One run sets gpg-agent.conf up and keeps the other lines, and the next one
-- changes nothing.
theorem ensureGpgPinentry_once (tools : Tools) (expected : Text) (now later : Nat) (home : Option GnupgDir) (filled : expected ≠ [])
    (bare : ∀ c ∈ expected.head?, c ∉ tools.spaces) (single : '\n' ∉ expected) (simple : '\\' ∉ expected)
    (agree : ∀ conf ∈ (home.getD {}).conf, Agree tools conf.content) :
    let first := ensureGpgPinentry tools expected now home
    Safe tools expected (home.getD {}).lines first.dir.lines ∧ ensureGpgPinentry tools expected later (some first.dir) = ⟨first.dir,0,[]⟩ := by
  intro first
  have ran := ensure_ran tools expected now home
  have safe : Safe tools expected (home.getD {}).lines first.dir.lines := ran.safe bare single simple agree
  have next := ensure_ran tools expected later (some first.dir)
  rw [opened_again ran.mode] at next
  exact ⟨safe,next.again safe.configured filled⟩

-- The [[:space:]] of the POSIX locale.
def whiteSpace : List Char := [' ','\t','\n','\x0b','\x0c','\r']

theorem keyword_visible : ∀ c ∈ keyword, c ∉ whiteSpace := by
  have visible : keyword.all (fun c => decide (c ∉ whiteSpace)) = true := by decide
  exact fun c present => of_decide_eq_true (List.all_eq_true.mp visible c present)

def posix : Tools where
  spaces := whiteSpace
  awkSpaces := whiteSpace
  blank := by decide
  visible := keyword_visible
  assigned := id
  plain := fun _ _ => rfl

def canonical : Text := "/usr/libexec/pinentry-bb".toList

def shared : GnupgDir :=
  {conf:=some ⟨"pinentry-program\t/bin/a\nverbose\n pinentry-program /bin/b".toList,0o644⟩}

theorem ensureGpgPinentry_once_shared :
    let first := ensureGpgPinentry posix canonical 7 (some shared)
    Safe posix canonical shared.lines first.dir.lines ∧ ensureGpgPinentry posix canonical 8 (some first.dir) = ⟨first.dir,0,[]⟩ := by
  apply ensureGpgPinentry_once posix canonical 7 8 (some shared)
  · decide
  · intro c first
    have slash : canonical.head? = some '/' := by decide
    rw [slash] at first
    cases first
    decide
  · decide
  · decide
  · exact fun conf _ c _ => Iff.rfl

example : (ensureGpgPinentry posix canonical 7 (some shared)).dir.conf =
    some ⟨"pinentry-program /usr/libexec/pinentry-bb\nverbose\n".toList,0o600⟩ := by decide +kernel

end Bootstrap

end BbAuth
