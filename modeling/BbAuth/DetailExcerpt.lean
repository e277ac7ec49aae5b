import BbAuth.TextNormalize
import Mathlib.Algebra.GroupWithZero.Nat

open Library Library.Words
namespace BbAuth

namespace DetailExcerpt

open AssuanCodec (lineFeed isSpace trimmed)
open TextNormalize

def ellipsis : QString := text "..."

-- The loop of collapseDetailText: the lines it keeps, and whether it stops
-- before the end.
def collapse (maxLines maxChars : Nat) : List QString → List QString → Nat → List QString × Bool
  | [],collapsedLines,_ => (collapsedLines,false)
  | line :: rest,collapsedLines,usedChars =>
    if collapsedLines.length ≥ maxLines then (collapsedLines,true)
    else if usedChars + line.length > maxChars then
      let remaining := maxChars - usedChars
      let clipped := if remaining > 0 then trimmed (line.take remaining) else []
      (if clipped.isEmpty then collapsedLines else collapsedLines ++ [clipped],true)
    else collapse maxLines maxChars rest (collapsedLines ++ [line]) (usedChars + line.length)

def collapsed (s : QString) (maxLines maxChars : Nat) : QString × Bool :=
  let lines := split s
  let (collapsedLines,truncated) := collapse maxLines maxChars lines [] 0
  (join collapsedLines,truncated || decide (lines.length > collapsedLines.length))

def marked (collapsed : QString) (truncated : Bool) : QString :=
  if truncated && !collapsed.isEmpty && !ellipsis.isSuffixOf collapsed then collapsed ++ ellipsis else collapsed

def collapseDetailText (s : QString) (maxLines maxChars : Nat) : QString × Bool :=
  if s.isEmpty then ([],false)
  else
    let (collapsed,truncated) := collapsed s maxLines maxChars
    (marked collapsed truncated,truncated)

def chars (lines : List QString) : Nat := (lines.map List.length).sum

-- What is shown of a text, with the text before an ellipsis is appended.
structure Faithful (s : QString) (maxLines maxChars : Nat) : Prop where
  whole : (collapseDetailText s maxLines maxChars).2 = false → (collapseDetailText s maxLines maxChars).1 = s
  missing : (collapseDetailText s maxLines maxChars).2 = true → ¬s.Sublist (collapseDetailText s maxLines maxChars).1
  appended : (collapseDetailText s maxLines maxChars).1 = (collapsed s maxLines maxChars).1 ∨
    (collapseDetailText s maxLines maxChars).1 = (collapsed s maxLines maxChars).1 ++ ellipsis
  excerpt : (collapseDetailText s maxLines maxChars).2 = true →
    (collapsed s maxLines maxChars).1 ≠ [] ∧ (collapsed s maxLines maxChars).1 <+: s
  lines : (split (collapseDetailText s maxLines maxChars).1).length ≤ maxLines
  chars : chars (split (collapsed s maxLines maxChars).1) ≤ maxChars

-- Up to three full stops end the text, just beyond the limit of characters, and
-- the ellipsis puts them back.
def Restored (s : QString) (maxLines maxChars : Nat) : Prop :=
  ∃ body count, s = body ++ List.replicate count 0x2E ∧ 0 < count ∧ count ≤ 3 ∧ (split body).length ≤ maxLines ∧
    chars (split body) = maxChars ∧ (∀ c ∈ body.getLast?, isSpace c = false) ∧ ¬ellipsis <:+ body

theorem chars_append (first second : List QString) : chars (first ++ second) = chars first + chars second := by
  unfold chars
  rw [List.map_append,List.sum_append]

theorem chars_singleton (line : QString) : chars [line] = line.length := rfl

-- A line that fits neither limit is the last one that is looked at.
inductive Outcome (maxLines maxChars : Nat) (lines : List QString) : List QString × Bool → Prop where
  | whole (few : lines.length ≤ maxLines) (short : chars lines ≤ maxChars) : Outcome maxLines maxChars lines (lines,false)
  | cut (kept rest : List QString) (parts : lines = kept ++ rest) (more : rest ≠ []) (few : kept.length ≤ maxLines)
    (short : chars kept ≤ maxChars) (full : maxLines ≤ kept.length ∨ maxChars ≤ chars kept) :
    Outcome maxLines maxChars lines (kept,true)
  | clipped (kept : List QString) (line : QString) (rest : List QString) (parts : lines = kept ++ line :: rest)
    (few : kept.length < maxLines) (short : chars kept < maxChars) (long : maxChars < chars kept + line.length) :
    Outcome maxLines maxChars lines (kept ++ [trimmed (line.take (maxChars - chars kept))],true)

theorem taken_filled (bare : Bare isSpace line) (filled : line ≠ []) (some_left : 0 < remaining) : trimmed (line.take remaining) ≠ [] := by
  obtain ⟨c,rest,same⟩ := List.exists_cons_of_ne_nil filled
  subst same
  obtain ⟨n,equal⟩ := Nat.exists_eq_add_one_of_ne_zero (Nat.ne_of_gt some_left)
  subst equal
  intro nothing
  have spaces := strip_eq_nil.mp nothing c List.mem_cons_self
  rw [bare.front c rfl] at spaces
  cases spaces

theorem collapse_outcome {rest : List QString} (maxLines maxChars : Nat) (kept : List QString) (lines_bare : ∀ line ∈ rest, line ≠ [] ∧ Bare isSpace line)
    (few : kept.length ≤ maxLines) (short : chars kept ≤ maxChars) :
    Outcome maxLines maxChars (kept ++ rest) (collapse maxLines maxChars rest kept (chars kept)) := by
  induction rest generalizing kept with
  | nil =>
    rw [List.append_nil]
    exact .whole few short
  | cons line rest ih =>
    obtain ⟨⟨filled,bare⟩,others⟩ := List.forall_mem_cons.mp lines_bare
    unfold collapse
    split
    · next full => exact .cut kept (line :: rest) rfl (List.cons_ne_nil line rest) few short (.inl full)
    · next free =>
      split
      · next long =>
        by_cases some_left : 0 < maxChars - chars kept
        · have clip := taken_filled bare filled some_left
          simp only [some_left,if_true,List.isEmpty_iff,clip,if_false]
          exact .clipped kept line rest rfl (by omega) (by omega) long
        · simp only [some_left,if_false,List.isEmpty_nil,if_true]
          exact .cut kept (line :: rest) rfl (List.cons_ne_nil line rest) few short (.inr (by omega))
      · next fits =>
        have counted : chars kept + line.length = chars (kept ++ [line]) := by rw [chars_append,chars_singleton]
        rw [counted] at fits ⊢
        rw [List.append_cons]
        apply ih (kept ++ [line]) others
        · rw [List.length_append,List.length_singleton]
          omega
        · omega

variable {s : QString} {maxLines maxChars : Nat}

theorem collapsed_text (maxLines maxChars : Nat) (filled : s ≠ []) : collapseDetailText s maxLines maxChars =
    (marked (collapsed s maxLines maxChars).1 (collapsed s maxLines maxChars).2,(collapsed s maxLines maxChars).2) := by
  unfold collapseDetailText
  rw [if_neg (mt List.isEmpty_iff.mp filled)]

theorem collapsed_cases (lines_bare : ∀ line ∈ split s, line ≠ [] ∧ Bare isSpace line) (maxLines maxChars : Nat) :
    collapsed s maxLines maxChars = (s,false) ∧ (split s).length ≤ maxLines ∧ chars (split s) ≤ maxChars ∨
    (∃ kept rest, split s = kept ++ rest ∧ rest ≠ [] ∧ kept.length ≤ maxLines ∧ chars kept ≤ maxChars ∧
      (maxLines ≤ kept.length ∨ maxChars ≤ chars kept) ∧ collapsed s maxLines maxChars = (join kept,true)) ∨
    ∃ kept line rest, split s = kept ++ line :: rest ∧ kept.length < maxLines ∧ chars kept < maxChars ∧
      maxChars < chars kept + line.length ∧
      collapsed s maxLines maxChars = (join (kept ++ [trimmed (line.take (maxChars - chars kept))]),true) := by
  have outcome := collapse_outcome maxLines maxChars [] lines_bare (Nat.zero_le maxLines) (Nat.zero_le maxChars)
  change Outcome maxLines maxChars (split s) (collapse maxLines maxChars (split s) [] 0) at outcome
  unfold collapsed
  simp only
  generalize collapse maxLines maxChars (split s) [] 0 = result at outcome ⊢
  cases outcome with
  | whole few short =>
    refine .inl ⟨?_,few,short⟩
    simp only [join_split,gt_iff_lt,Nat.lt_irrefl,decide_false,Bool.or_false]
  | cut kept rest parts more few short full => exact .inr (.inl ⟨kept,rest,parts,more,few,short,full,rfl⟩)
  | clipped kept line rest parts few short long => exact .inr (.inr ⟨kept,line,rest,parts,few,short,long,rfl⟩)

theorem marked_cases (collapsed : QString) (truncated : Bool) : marked collapsed truncated = collapsed ∨
    marked collapsed truncated = collapsed ++ ellipsis ∧ ¬ellipsis <:+ collapsed := by
  unfold marked
  split
  · next appended =>
    obtain ⟨_,ends⟩ := Bool.and_eq_true_iff.mp appended
    rw [Bool.not_eq_true',Bool.eq_false_iff] at ends
    exact .inr ⟨rfl,fun suffix => ends (List.isSuffixOf_iff_suffix.mpr suffix)⟩
  · exact .inl rfl

theorem marked_whole (collapsed : QString) : marked collapsed false = collapsed := rfl

-- What is left out is missing, unless it is full stops that the ellipsis stands for.
theorem missing_of_rest {body more : QString} (filled : more ≠ []) (truncated : Bool)
    (other : ∀ count, count ≤ 3 → more = List.replicate count 0x2E → ¬ellipsis <:+ body → False) :
    ¬(body ++ more).Sublist (marked body truncated) := by
  intro held
  rcases marked_cases body truncated with same | ⟨longer,open_end⟩
  · rw [same] at held
    have shorter := held.length_le
    rw [List.length_append] at shorter
    have positive := List.length_pos_iff.mpr filled
    omega
  · rw [longer,List.append_sublist_append_left] at held
    have dots : ellipsis = List.replicate 3 0x2E := rfl
    rw [dots] at held
    obtain ⟨count,few,same⟩ := List.sublist_replicate_iff.mp held
    exact other count few same open_end

theorem join_last (kept : List QString) (filled : line ≠ []) : (join (kept ++ [line])).getLast? = line.getLast? := by
  cases kept with
  | nil => exact congrArg _ List.intercalate_singleton
  | cons first kept =>
    rw [join_append (List.cons_ne_nil first kept),List.flatMap_singleton,List.append_cons,List.getLast?_append_of_ne_nil _ filled]

theorem join_filled (kept : List QString) (filled : line ≠ []) : join (kept ++ [line]) ≠ [] := by
  intro nothing
  have last := join_last kept filled
  rw [nothing] at last
  exact filled (List.getLast?_eq_none_iff.mp last.symm)

theorem clip_parts (bare : Bare isSpace line) (some_left : 0 < remaining) (inside : remaining < line.length) :
    ∃ gone, line = trimmed (line.take remaining) ++ (gone ++ line.drop remaining) ∧ (∀ c ∈ gone, isSpace c = true) ∧
      (gone = [] → (trimmed (line.take remaining)).length = remaining) := by
  have front : ∀ c ∈ (line.take remaining).head?, isSpace c = false := by
    rw [List.head?_take,if_neg (Nat.ne_of_gt some_left)]
    exact bare.front
  obtain ⟨gone,taken,spaces⟩ := strip_front front
  refine ⟨gone,?_,spaces,?_⟩
  · have whole := List.take_append_drop remaining line
    rw [taken,List.append_assoc] at whole
    exact whole.symm
  · intro tight
    rw [tight,List.append_nil] at taken
    have taken : line.take remaining = trimmed (line.take remaining) := taken
    rw [← taken,List.length_take_of_le (Nat.le_of_lt inside)]

theorem split_clip {kept rest : List QString} {line clip more : QString} (parts : split s = kept ++ line :: rest)
    (whole : line = clip ++ more) : split (join (kept ++ [clip])) = kept ++ [clip] := by
  apply split_join _ (List.append_ne_nil_of_right_ne_nil kept (List.cons_ne_nil clip []))
  intro other present
  rcases List.mem_append.mp present with early | last
  · apply split_free s other
    rw [parts]
    exact List.mem_append_left _ early
  · rw [List.mem_singleton.mp last]
    intro ending
    apply split_free s line
    · rw [parts]
      exact List.mem_append_right _ List.mem_cons_self
    · rw [whole]
      exact List.mem_append_left _ ending

theorem clipped_missing {kept rest : List QString} {line : QString} (parts : split s = kept ++ line :: rest)
    (filled : line ≠ []) (bare : Bare isSpace line) (few : kept.length < maxLines) (short : chars kept < maxChars)
    (long : maxChars < chars kept + line.length) (other : ¬Restored s maxLines maxChars) :
    ¬s.Sublist (marked (join (kept ++ [trimmed (line.take (maxChars - chars kept))])) true) := by
  have some_left : 0 < maxChars - chars kept := by omega
  have inside : maxChars - chars kept < line.length := by omega
  have total : chars kept + (maxChars - chars kept) = maxChars := by omega
  generalize maxChars - chars kept = remaining at some_left inside total ⊢
  have clip_filled := taken_filled bare filled some_left
  have clip_bare : Bare isSpace (trimmed (line.take remaining)) := bare_strip (line.take remaining)
  obtain ⟨gone,whole,spaces,tight⟩ := clip_parts bare some_left inside
  generalize trimmed (line.take remaining) = clip at clip_filled clip_bare whole tight ⊢
  have text : s = join (kept ++ [clip]) ++ (gone ++ line.drop remaining ++ rest.flatMap (fun next => lineFeed :: next)) := by
    rw [← join_longer,← whole,← parts,join_split]
  have dropped : line.drop remaining ≠ [] := List.ne_nil_of_length_pos (by rw [List.length_drop]; omega)
  rw [text]
  apply missing_of_rest
  · exact List.append_ne_nil_of_left_ne_nil (List.append_ne_nil_of_right_ne_nil gone dropped) _
  · intro count less same open_end
    have nothing : gone = [] := by
      apply List.eq_nil_iff_forall_not_mem.mpr
      intro c present
      have dot : c ∈ List.replicate count 0x2E := by
        rw [← same,List.append_assoc]
        exact List.mem_append_left _ present
      have blank := spaces c present
      rw [(List.mem_replicate.mp dot).2] at blank
      cases blank
    have lines := split_clip parts whole
    refine other ⟨join (kept ++ [clip]),count,?_,?_,less,?_,?_,?_,open_end⟩
    · rw [← same]
      exact text
    · apply Nat.pos_of_ne_zero
      intro zero
      rw [zero,List.replicate_zero,List.append_assoc] at same
      exact dropped (List.append_eq_nil_iff.mp (List.append_eq_nil_iff.mp same).2).1
    · rw [lines,List.length_append,List.length_singleton]
      exact few
    · rw [lines,chars_append,chars_singleton,tight nothing]
      exact total
    · rw [join_last kept clip_filled]
      exact clip_bare.back

theorem collapse_front (maxLines maxChars : Nat) (front rest kept : List QString) (few : kept.length + front.length ≤ maxLines)
    (short : chars kept + chars front ≤ maxChars) : collapse maxLines maxChars (front ++ rest) kept (chars kept) =
      collapse maxLines maxChars rest (kept ++ front) (chars (kept ++ front)) := by
  induction front generalizing kept with
  | nil => rw [List.append_nil,List.nil_append]
  | cons line front ih =>
    have counted : chars kept + line.length = chars (kept ++ [line]) := by rw [chars_append,chars_singleton]
    have longer : chars (line :: front) = line.length + chars front := chars_append [line] front
    rw [List.length_cons] at few
    have fits : ¬kept.length ≥ maxLines := by omega
    have room : ¬chars kept + line.length > maxChars := by omega
    rw [List.cons_append,collapse,if_neg fits,if_neg room,counted,List.append_cons kept line front]
    apply ih
    · rw [List.length_append,List.length_singleton]
      omega
    · rw [← counted]
      omega

theorem last_filled {body : QString} (parts : split body = front ++ [last]) (some_chars : 0 < chars (split body))
    (ended : ∀ c ∈ body.getLast?, isSpace c = false) : last ≠ [] := by
  rintro rfl
  rw [parts] at some_chars
  have text : body = join (front ++ [[]]) := by rw [← parts,join_split]
  cases front with
  | nil => exact absurd some_chars (by decide)
  | cons first front =>
    rw [join_append (List.cons_ne_nil first front),List.flatMap_singleton] at text
    have space := ended lineFeed (by rw [text]; exact List.getLast?_concat)
    cases space

theorem collapse_last {front : List QString} {last more : QString} (bare : Bare isSpace last) (filled : last ≠ []) (beyond : more ≠ [])
    (few : front.length < maxLines) (tight : chars front + last.length = maxChars) :
    collapse maxLines maxChars (front ++ [last ++ more]) [] 0 = (front ++ [last],true) := by
  have begun := collapse_front maxLines maxChars front [last ++ more] []
    (by rw [List.length_nil]; omega) (by change 0 + chars front ≤ maxChars; omega)
  have last_positive := List.length_pos_iff.mpr filled
  have beyond_positive := List.length_pos_iff.mpr beyond
  have remaining : maxChars - chars front = last.length := by omega
  have room : ¬front.length ≥ maxLines := by omega
  have long : chars front + (last ++ more).length > maxChars := by
    rw [List.length_append]
    omega
  have clip : trimmed last = last := strip_bare bare
  change collapse maxLines maxChars (front ++ [last ++ more]) [] 0 = _ at begun
  rw [begun,List.nil_append,collapse,if_neg room,if_pos long]
  simp only [remaining,last_positive,if_true,List.take_left,clip,List.isEmpty_iff,filled,if_false]

-- The full stops beyond the limit are clipped off and put back.
theorem restored_shown (lines_bare : ∀ line ∈ split s, line ≠ [] ∧ Bare isSpace line) (some_chars : 0 < maxChars)
    (restored : Restored s maxLines maxChars) :
    (collapseDetailText s maxLines maxChars).2 = true ∧ s.Sublist (collapseDetailText s maxLines maxChars).1 := by
  obtain ⟨body,count,text,positive,less,few,tight,ended,open_end⟩ := restored
  have dots : lineFeed ∉ List.replicate count 0x2E := fun present => absurd (List.mem_replicate.mp present).2 (by decide)
  have beyond : List.replicate count (0x2E : QChar) ≠ [] := mt (List.replicate_eq_nil_iff _).mp (Nat.ne_of_gt positive)
  obtain ⟨front,last,parts,longer⟩ := split_append body dots
  rw [← text] at longer
  have filled := last_filled parts (tight ▸ some_chars) ended
  rw [parts,List.length_append,List.length_singleton] at few
  rw [parts,chars_append,chars_singleton] at tight
  have body_text : join (front ++ [last]) = body := by rw [← parts,join_split]
  have body_last : body.getLast? = last.getLast? := by rw [← body_text,join_last front filled]
  have bare : Bare isSpace last := by
    have whole := (lines_bare (last ++ List.replicate count 0x2E) (by rw [longer]; exact List.mem_append_right _ List.mem_cons_self)).2
    refine ⟨?_,body_last ▸ ended⟩
    have front := whole.front
    rw [List.head?_append_of_ne_nil last filled] at front
    exact front
  have body_filled : body ≠ [] := by
    rintro rfl
    exact filled (List.getLast?_eq_none_iff.mp body_last.symm)
  have outcome : collapsed s maxLines maxChars = (body,true) := by
    unfold collapsed
    simp only [longer,collapse_last bare filled beyond few tight,body_text,Bool.true_or]
  have appended : marked body true = body ++ ellipsis := by
    apply if_pos
    rw [Bool.true_and,Bool.and_eq_true_iff,Bool.not_eq_true',Bool.not_eq_true',List.isEmpty_eq_false_iff,Bool.eq_false_iff]
    exact ⟨body_filled,mt List.isSuffixOf_iff_suffix.mp open_end⟩
  rw [collapsed_text maxLines maxChars (text ▸ List.append_ne_nil_of_left_ne_nil body_filled _),outcome,appended]
  refine ⟨rfl,?_⟩
  rw [text,List.append_sublist_append_left]
  exact List.replicate_sublist_replicate 0x2E |>.mpr less

theorem split_marked (collapsed : QString) (truncated : Bool) :
    (split (marked collapsed truncated)).length = (split collapsed).length := by
  rcases marked_cases collapsed truncated with same | ⟨longer,_⟩
  · rw [same]
  · obtain ⟨front,last,whole,more⟩ := split_append collapsed (by decide : lineFeed ∉ ellipsis)
    rw [longer,whole,more,List.length_append,List.length_append]
    rfl

theorem cut_filled {kept : List QString} (full : maxLines ≤ kept.length ∨ maxChars ≤ chars kept) (some_lines : 0 < maxLines)
    (some_chars : 0 < maxChars) : kept ≠ [] := by
  rintro rfl
  rcases full with lines | characters
  · exact absurd lines (Nat.not_le_of_gt some_lines)
  · exact absurd characters (Nat.not_le_of_gt some_chars)

theorem filled_of_lines (lines_bare : ∀ line ∈ split s, line ≠ [] ∧ Bare isSpace line) : s ≠ [] := by
  rintro rfl
  exact (lines_bare [] List.mem_cons_self).1 rfl

theorem collapsed_spec (lines_bare : ∀ line ∈ split s, line ≠ [] ∧ Bare isSpace line) (some_lines : 0 < maxLines) (some_chars : 0 < maxChars) :
    (collapsed s maxLines maxChars).1 ≠ [] ∧ (collapsed s maxLines maxChars).1 <+: s ∧
      (split (collapsed s maxLines maxChars).1).length ≤ maxLines ∧ chars (split (collapsed s maxLines maxChars).1) ≤ maxChars ∧
      ((collapsed s maxLines maxChars).2 = false → (collapsed s maxLines maxChars).1 = s) := by
  rcases collapsed_cases lines_bare maxLines maxChars with ⟨result,few,short⟩ | ⟨kept,rest,parts,more,few,short,full,result⟩ |
    ⟨kept,line,rest,parts,few,short,long,result⟩
  · rw [result]
    exact ⟨filled_of_lines lines_bare,List.prefix_rfl,few,short,fun _ => rfl⟩
  · rw [result]
    have kept_filled := cut_filled full some_lines some_chars
    have lines := split_join (fun line present => split_free s line (by rw [parts]; exact List.mem_append_left rest present)) kept_filled
    have text : join kept ++ rest.flatMap (fun next => lineFeed :: next) = s := by
      rw [← join_append kept_filled,← parts,join_split]
    rw [lines]
    refine ⟨?_,⟨_,text⟩,few,short,nofun⟩
    obtain ⟨first,others,same⟩ := List.exists_cons_of_ne_nil kept_filled
    subst same
    rw [join_cons]
    apply List.append_ne_nil_of_left_ne_nil
    exact (lines_bare first (by rw [parts]; exact List.mem_cons_self)).1
  · rw [result]
    have listed : line ∈ split s := by
      rw [parts]
      exact List.mem_append_right kept List.mem_cons_self
    obtain ⟨filled,bare⟩ := lines_bare line listed
    have some_left : 0 < maxChars - chars kept := by omega
    obtain ⟨gone,whole,_,_⟩ := clip_parts bare some_left (by omega)
    have clip_filled := taken_filled bare filled some_left
    have clip_length := congrArg List.length whole
    rw [List.length_append,List.length_append,List.length_drop] at clip_length
    rw [split_clip parts whole,List.length_append,List.length_singleton,chars_append,chars_singleton]
    refine ⟨?_,?_,few,by omega,nofun⟩
    · exact join_filled kept clip_filled
    · refine ⟨gone ++ line.drop (maxChars - chars kept) ++ rest.flatMap (fun next => lineFeed :: next),?_⟩
      rw [← join_longer,← whole,← parts,join_split]

theorem missing_iff (maxLines maxChars : Nat) (lines_bare : ∀ line ∈ split s, line ≠ [] ∧ Bare isSpace line) (some_lines : 0 < maxLines) (some_chars : 0 < maxChars) :
    ((collapseDetailText s maxLines maxChars).2 = true → ¬s.Sublist (collapseDetailText s maxLines maxChars).1) ↔
      ¬Restored s maxLines maxChars := by
  constructor
  · intro missing restored
    obtain ⟨truncated,shown⟩ := restored_shown lines_bare some_chars restored
    exact missing truncated shown
  · intro other
    rw [collapsed_text maxLines maxChars (filled_of_lines lines_bare)]
    rcases collapsed_cases lines_bare maxLines maxChars with ⟨result,_⟩ | ⟨kept,rest,parts,more,_,_,full,result⟩ |
      ⟨kept,line,rest,parts,few,short,long,result⟩
    · rw [result]
      exact fun truncated => absurd truncated Bool.false_ne_true
    · intro _
      have kept_filled := cut_filled full some_lines some_chars
      obtain ⟨next,others,same⟩ := List.exists_cons_of_ne_nil more
      subst same
      have text : s = join kept ++ (next :: others).flatMap (fun next => lineFeed :: next) := by
        rw [← join_append kept_filled,← parts,join_split]
      rw [result,text]
      apply missing_of_rest (List.cons_ne_nil _ _)
      intro count _ dots _
      have ending : lineFeed ∈ List.replicate count 0x2E := by
        rw [← dots]
        exact List.mem_cons_self
      exact absurd (List.mem_replicate.mp ending).2 (by decide)
    · intro _
      have listed : line ∈ split s := by
        rw [parts]
        exact List.mem_append_right kept List.mem_cons_self
      obtain ⟨filled,bare⟩ := lines_bare line listed
      rw [result]
      exact clipped_missing parts filled bare few short long other

theorem faithful_of_lines (lines_bare : ∀ line ∈ split s, line ≠ [] ∧ Bare isSpace line) (some_lines : 0 < maxLines) (some_chars : 0 < maxChars) :
    Faithful s maxLines maxChars ↔ ¬Restored s maxLines maxChars := by
  obtain ⟨filled,inside,few,short,whole⟩ := collapsed_spec lines_bare some_lines some_chars
  have text := collapsed_text maxLines maxChars (filled_of_lines lines_bare)
  have missing := missing_iff maxLines maxChars lines_bare some_lines some_chars
  constructor
  · intro faithful
    exact missing.mp faithful.missing
  · intro other
    refine ⟨?_,missing.mpr other,?_,fun _ => ⟨filled,inside⟩,?_,short⟩
    · rw [text]
      intro complete
      have complete : (collapsed s maxLines maxChars).2 = false := complete
      rw [complete,marked_whole]
      exact whole complete
    · rw [text]
      rcases marked_cases (collapsed s maxLines maxChars).1 (collapsed s maxLines maxChars).2 with same | ⟨longer,_⟩
      · exact .inl same
      · exact .inr longer
    · rw [text]
      simp only [split_marked]
      exact few

theorem restored_filled (restored : Restored s maxLines maxChars) : s ≠ [] := by
  obtain ⟨body,count,text,positive,_⟩ := restored
  rw [text]
  exact List.append_ne_nil_of_right_ne_nil body (mt (List.replicate_eq_nil_iff _).mp (Nat.ne_of_gt positive))

theorem collapsed_nil (maxChars : Nat) (some_lines : 0 < maxLines) : collapsed [] maxLines maxChars = ([],false) := by
  have room : ¬0 ≥ maxLines := Nat.not_le_of_gt some_lines
  have lines : split ([] : QString) = [[]] := rfl
  have loop : collapse maxLines maxChars [[]] [] 0 = ([[]],false) := by
    rw [collapse,List.length_nil,if_neg room]
    rfl
  unfold collapsed
  simp only [lines,loop]
  rfl

-- Only an ellipsis that restores the end of a text makes an excerpt unfaithful.
theorem faithful_iff (normalized : Normalized s) (some_lines : 0 < maxLines) (some_chars : 0 < maxChars) :
    Faithful s maxLines maxChars ↔ ¬Restored s maxLines maxChars := by
  rcases normalized with empty | lines_bare
  · subst empty
    refine ⟨fun _ restored => restored_filled restored rfl,fun _ => ?_⟩
    have nothing := collapsed_nil maxChars some_lines
    refine ⟨fun _ => rfl,nofun,.inl (congrArg Prod.fst nothing).symm,nofun,some_lines,?_⟩
    rw [nothing]
    exact Nat.zero_le maxChars
  · exact faithful_of_lines lines_bare some_lines some_chars

end DetailExcerpt

-- The labels and the button for the details of a prompt. A button without a
-- text is hidden.
structure Details where
  fullContextText : QString := []
  collapsedContextText : QString := []
  contextExpandable : Bool := false
  contextExpanded : Bool := false
  contextLabel : QString := []
  contextToggle : Option String := none
  deriving DecidableEq, Repr

namespace Details

open DetailExcerpt TextNormalize

def setDetailsExpanded (d : Details) (expanded : Bool) : Details :=
  let d := {d with contextExpanded:=expanded && d.contextExpandable}
  if d.fullContextText.isEmpty then {d with contextLabel:=[],contextToggle:=none}
  else
    let text := if d.contextExpanded || !d.contextExpandable then d.fullContextText else d.collapsedContextText
    {d with
      contextLabel:=text,
      contextToggle:=if d.contextExpandable then some (if d.contextExpanded then "Show less" else "Show more") else none}

def setDetailsText (d : Details) (details : QString) : Details :=
  let d := {d with fullContextText:=normalizeDetailText details}
  if d.fullContextText.isEmpty then
    {d with collapsedContextText:=[],contextExpandable:=false,contextExpanded:=false,contextLabel:=[],contextToggle:=none}
  else
    let collapsed := collapseDetailText d.fullContextText 3 220
    ({d with collapsedContextText:=collapsed.1,contextExpandable:=collapsed.2} : Details).setDetailsExpanded false

def Hides (d : Details) : Prop := ¬d.fullContextText.Sublist d.contextLabel

theorem setDetailsText_offers (d : Details) (details : QString) :
    ((d.setDetailsText details).contextToggle = some "Show more" ↔ (d.setDetailsText details).Hides) ↔
      ¬Restored (normalizeDetailText details) 3 220 := by
  unfold setDetailsText setDetailsExpanded Hides
  rcases normalizeDetailText_normalized details with empty | lines_bare
  · have none_restored : ¬Restored [] 3 220 := fun restored => restored_filled restored rfl
    simp [empty,none_restored]
  · have filled := filled_of_lines lines_bare
    have missing := missing_iff 3 220 lines_bare (by decide) (by decide)
    rw [← missing]
    cases truncated : (collapseDetailText (normalizeDetailText details) 3 220).2 with
    | false => simp [filled,truncated]
    | true => simp [filled,truncated]

-- Excerpts are faithful, and so is the offer to show more, but for the full stops
-- that the ellipsis restores.
theorem excerpts_faithful_iff (s : QString) (maxLines maxChars : Nat) (d : Details) (details : QString) :
    (Normalized s → 0 < maxLines → 0 < maxChars → (Faithful s maxLines maxChars ↔ ¬Restored s maxLines maxChars)) ∧
    (((d.setDetailsText details).contextToggle = some "Show more" ↔ (d.setDetailsText details).Hides) ↔
      ¬Restored (normalizeDetailText details) 3 220) :=
  ⟨faithful_iff,setDetailsText_offers d details⟩

-- A line that is cut, and shown with an ellipsis.
theorem excerpts_faithful_cut : Faithful (text "ab cd") 1 3 ↔ ¬Restored (text "ab cd") 1 3 :=
  have normal : normalizeDetailText (text "ab cd") = text "ab cd" := by decide
  have normalized : Normalized (text "ab cd") := normal ▸ normalizeDetailText_normalized (text "ab cd")
  (excerpts_faithful_iff (text "ab cd") 1 3 {} []).1 normalized (by decide) (by decide)

-- Three full stops beyond the limit of setDetailsText.
theorem excerpt_restored : ¬∀ s maxLines maxChars, Normalized s → 0 < maxLines → 0 < maxChars → Faithful s maxLines maxChars := by
  intro faithful
  let body : QString := List.replicate 220 0x61
  have letters : ∀ c ∈ body, c = 0x61 := fun c present => (List.mem_replicate.mp present).2
  have free : ∀ c ∈ body ++ ellipsis, AssuanCodec.isSpace c = false := by
    intro c present
    rcases List.mem_append.mp present with letter | dot
    · rw [letters c letter]
      rfl
    · have dots : c ∈ List.replicate 3 (0x2E : QChar) := dot
      rw [(List.mem_replicate.mp dots).2]
      rfl
  have unended : ∀ {s : QString}, (∀ c ∈ s, AssuanCodec.isSpace c = false) → split s = [s] :=
    fun free => List.splitOn_eq_singleton (fun present => absurd (free _ present) (by decide))
  have body_free : ∀ c ∈ body, AssuanCodec.isSpace c = false := fun c present => free c (List.mem_append_left _ present)
  have lines_bare : ∀ line ∈ split (body ++ ellipsis), line ≠ [] ∧ Bare AssuanCodec.isSpace line := by
    rw [unended free]
    intro line present
    rw [List.mem_singleton.mp present]
    exact ⟨nofun,bare_word free⟩
  have restored : Restored (body ++ ellipsis) 3 220 := by
    refine ⟨body,3,rfl,by decide,by decide,?_,?_,?_,?_⟩
    · rw [unended body_free]
      decide
    · rw [unended body_free,chars_singleton,List.length_replicate]
    · exact fun c last => body_free c (List.mem_of_getLast? last)
    · intro dots
      have letter := letters 0x2E (dots.subset List.mem_cons_self)
      exact absurd letter (by decide)
  have kept := faithful (body ++ ellipsis) 3 220 (.inr lines_bare) (by decide) (by decide)
  exact (faithful_of_lines lines_bare (by decide) (by decide)).mp kept restored

end Details

end BbAuth
