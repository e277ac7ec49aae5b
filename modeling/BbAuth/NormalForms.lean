import BbAuth.DetailExcerpt

open Library Library.Words
namespace BbAuth

-- FallbackWindow.cpp keeps copies of these functions, word for word.
namespace TextNormalize

open AssuanCodec (lineFeed carriageReturn isSpace)

def separates (c : QChar) : Bool := isSpace c || c = 0x60 || c = 0x22 || c = 0x2C || c = 0x2E

-- Lower case leaves every separator in its place and makes no other character
-- one. What is in lower case stays as it is.
structure Lowers (lower : QString → QString) : Prop extends Keeps separates lower where
  again : ∀ s, lower (lower s) = lower s

structure Clean (line : QString) : Prop where
  filled : line ≠ []
  simple : simplified line = line
  inside : ∀ c ∈ line, c = 0x20 ∨ isSpace c = false

-- What is kept of the text when it is normalized once more, and what a
-- comparison or the details show of it.
structure Settled (lower : QString → QString) (s : QString) : Prop where
  detail : normalizeDetailText (normalizeDetailText s) = normalizeDetailText s
  lines : Normalized (normalizeDetailText s)
  returns : carriageReturn ∉ normalizeDetailText s
  compared : normalizeCompareText lower (normalizeDetailText s) = normalizeCompareText lower s
  again : normalizeCompareText lower (normalizeCompareText lower s) = normalizeCompareText lower s
  heading : firstMeaningfulLine (normalizeDetailText s) = firstMeaningfulLine s
  headed : normalizeDetailText (firstMeaningfulLine s) = firstMeaningfulLine s
  left : ∀ other, textEquivalent lower (normalizeDetailText s) other = textEquivalent lower s other ∧
    textEquivalent lower (normalizeCompareText lower s) other = textEquivalent lower s other
  right : ∀ other, textEquivalent lower other (normalizeDetailText s) = textEquivalent lower other s ∧
    textEquivalent lower other (normalizeCompareText lower s) = textEquivalent lower other s
  shown : ∀ d : Details, d.setDetailsText (normalizeDetailText s) = d.setDetailsText s
  full : ∀ d : Details, (d.setDetailsText (normalizeDetailText s)).fullContextText = normalizeDetailText s

theorem simplified_words (s : QString) : words isSpace (simplified s) = words isSpace s :=
  words_intercalate rfl (fun _ => mem_words)

theorem simplified_again (s : QString) : simplified (simplified s) = simplified s :=
  congrArg [0x20].intercalate (simplified_words s)

theorem mem_simplified (present : c ∈ simplified s) : c = 0x20 ∨ isSpace c = false := by
  rcases mem_intercalate present with between | ⟨word,listed,inside⟩
  · exact .inl (List.mem_singleton.mp between)
  · exact .inr ((mem_words listed).2 c inside)

theorem simplified_clean (s : QString) (filled : simplified s ≠ []) : Clean (simplified s) :=
  ⟨filled,simplified_again s,fun _ => mem_simplified⟩

theorem cleaned_clean (s : QString) : ∀ line ∈ cleaned s, Clean line := by
  intro line present
  obtain ⟨listed,filled⟩ := List.mem_filter.mp present
  obtain ⟨raw,_,same⟩ := List.mem_map.mp listed
  subst same
  apply simplified_clean
  intro nothing
  rw [nothing] at filled
  cases filled

theorem Clean.free (clean : Clean line) : lineFeed ∉ line ∧ carriageReturn ∉ line := by
  constructor
  all_goals
    intro present
    rcases clean.inside _ present with blank | visible
    · exact absurd blank (by decide)
    · exact absurd visible (by decide)

theorem mem_join (present : c ∈ join lines) : c = lineFeed ∨ ∃ line ∈ lines, c ∈ line := by
  rcases mem_intercalate present with between | inside
  · exact .inl (List.mem_singleton.mp between)
  · exact .inr inside

theorem join_returns (clean : ∀ line ∈ lines, Clean line) : carriageReturn ∉ join lines := by
  intro present
  rcases mem_join present with feed | ⟨line,listed,inside⟩
  · exact absurd feed (by decide)
  · exact (clean line listed).free.2 inside

theorem cleaned_join (clean : ∀ line ∈ lines, Clean line) : cleaned (join lines) = lines := by
  cases lines with
  | nil => rfl
  | cons first rest =>
    have kept : (join (first :: rest)).map normalized = (join (first :: rest)).map id := by
      apply List.map_congr_left
      intro c present
      exact if_neg (fun same : c = carriageReturn => join_returns clean (same ▸ present))
    have simple : (first :: rest).map simplified = (first :: rest).map id := List.map_congr_left (fun line listed => (clean line listed).simple)
    unfold cleaned
    rw [kept,List.map_id,split_join (fun line listed => (clean line listed).free.1) (List.cons_ne_nil first rest),simple,List.map_id]
    apply List.filter_eq_self.mpr
    intro line listed
    rw [Bool.not_eq_true',List.isEmpty_eq_false_iff]
    exact (clean line listed).filled

theorem normalizeDetailText_again (s : QString) : normalizeDetailText (normalizeDetailText s) = normalizeDetailText s :=
  congrArg join (cleaned_join (cleaned_clean s))

theorem Clean.normalizeDetailText (clean : Clean line) : normalizeDetailText line = line := by
  have alone : cleaned (join [line]) = [line] := cleaned_join (fun _ present => List.mem_singleton.mp present ▸ clean)
  have single : join [line] = line := List.intercalate_singleton
  rw [single] at alone
  unfold TextNormalize.normalizeDetailText
  rw [alone,single]

theorem normalizeDetailText_simplified (s : QString) : normalizeDetailText (simplified s) = simplified s := by
  by_cases empty : simplified s = []
  · rw [empty]
    rfl
  · exact (simplified_clean s empty).normalizeDetailText

theorem firstMeaningfulLine_cleaned (first : cleaned s = line :: rest) : firstMeaningfulLine s = line := by
  have clean := cleaned_clean s line (first ▸ List.mem_cons_self)
  have before : ∀ c ∈ line, decide (c ≠ lineFeed) = true := fun c present => decide_eq_true (fun same => clean.free.1 (same ▸ present))
  unfold firstMeaningfulLine TextNormalize.normalizeDetailText
  rw [first,join_cons,List.takeWhile_append_of_pos before]
  cases rest with
  | nil => exact List.append_nil line
  | cons next rest => exact List.append_nil line

theorem firstMeaningfulLine_normalized (s : QString) : normalizeDetailText (firstMeaningfulLine s) = firstMeaningfulLine s := by
  cases first : cleaned s with
  | nil =>
    have empty : firstMeaningfulLine s = [] := by
      unfold firstMeaningfulLine TextNormalize.normalizeDetailText
      rw [first]
      rfl
    rw [empty]
    rfl
  | cons line rest =>
    rw [firstMeaningfulLine_cleaned first]
    exact (cleaned_clean s line (first ▸ List.mem_cons_self)).normalizeDetailText

variable {lower : QString → QString}

theorem isSpace_unmarked (c : QChar) : isSpace (unmarked c) = separates c := by
  unfold unmarked separates
  split
  · next marked =>
    rcases marked with rfl | rfl | rfl | rfl
    all_goals rfl
  · next plain =>
    simp only [not_or] at plain
    simp only [plain,decide_false,Bool.or_false]

theorem unmarked_same (c : QChar) (visible : isSpace (unmarked c) = false) : unmarked c = c := by
  unfold unmarked at visible ⊢
  split at visible
  · cases visible
  · next plain => rw [if_neg plain]

theorem words_unmarked (s : QString) : words isSpace (s.map unmarked) = words separates s := by
  rw [words_map unmarked_same]
  exact congrArg (words · s) (funext isSpace_unmarked)

theorem normalizeCompareText_words (lower : QString → QString) (s : QString) :
    normalizeCompareText lower s = [0x20].intercalate (words separates (lower (normalizeDetailText s))) :=
  congrArg [0x20].intercalate (words_unmarked _)

theorem Lowers.word_fixed (lowers : Lowers lower) (present : word ∈ words separates (lower s)) : lower word = word := by
  obtain ⟨piece,_⟩ := List.mem_filter.mp present
  rw [lowers.splitOnP] at piece
  obtain ⟨before,_,same⟩ := List.mem_map.mp piece
  rw [← same,lowers.again]

-- A text in lower case with no words in it has an empty piece, so the empty text
-- is in lower case.
theorem Lowers.nothing (lowers : Lowers lower) (none_left : words separates (lower s) = []) : lower [] = [] := by
  obtain ⟨first,rest,pieces⟩ := List.exists_cons_of_ne_nil (List.splitOnP_ne_nil separates s)
  have gone := List.filter_eq_nil_iff.mp none_left (lower first) (by
    rw [lowers.splitOnP,pieces]
    exact List.mem_cons_self)
  have empty : lower first = [] := by simpa using gone
  have same := lowers.again first
  rwa [empty] at same

theorem Lowers.words_again (lowers : Lowers lower) (s : QString) :
    words separates (lower ([0x20].intercalate (words separates (lower s)))) = words separates (lower s) := by
  by_cases none_left : words separates (lower s) = []
  · rw [none_left]
    have empty := lowers.nothing none_left
    exact congrArg (words separates) empty
  · rw [lowers.intercalate rfl none_left,List.map_congr_left (fun _ => lowers.word_fixed),List.map_id']
    exact words_intercalate rfl (fun _ => mem_words)

theorem normalizeCompareText_again (lowers : Lowers lower) (s : QString) :
    normalizeCompareText lower (normalizeCompareText lower s) = normalizeCompareText lower s := by
  have settled : normalizeDetailText (normalizeCompareText lower s) = normalizeCompareText lower s := normalizeDetailText_simplified _
  rw [normalizeCompareText_words lower (normalizeCompareText lower s),settled,normalizeCompareText_words lower s,lowers.words_again]

theorem normalizeCompareText_detail (lower : QString → QString) (s : QString) :
    normalizeCompareText lower (normalizeDetailText s) = normalizeCompareText lower s := by
  unfold normalizeCompareText
  rw [normalizeDetailText_again]

theorem textEquivalent_same {a b c d : QString} (left : normalizeCompareText lower a = normalizeCompareText lower b)
    (right : normalizeCompareText lower c = normalizeCompareText lower d) : textEquivalent lower a c = textEquivalent lower b d := by
  unfold textEquivalent
  rw [left,right]

theorem setDetailsText_detail (d : Details) (s : QString) : d.setDetailsText (normalizeDetailText s) = d.setDetailsText s := by
  unfold Details.setDetailsText
  rw [normalizeDetailText_again]

theorem setDetailsText_full (d : Details) (details : QString) : (d.setDetailsText details).fullContextText = normalizeDetailText details := by
  unfold Details.setDetailsText Details.setDetailsExpanded
  simp only
  split
  · rfl
  · split
    · rfl
    · rfl

-- Normalizing is settled after one turn.
theorem normalize_settled (lowers : Lowers lower) (s : QString) : Settled lower s where
  detail := normalizeDetailText_again s
  lines := normalizeDetailText_normalized s
  returns := join_returns (cleaned_clean s)
  compared := normalizeCompareText_detail lower s
  again := normalizeCompareText_again lowers s
  heading := by
    unfold firstMeaningfulLine
    rw [normalizeDetailText_again]
  headed := firstMeaningfulLine_normalized s
  left := fun _ => ⟨textEquivalent_same (normalizeCompareText_detail lower s) rfl,textEquivalent_same (normalizeCompareText_again lowers s) rfl⟩
  right := fun _ => ⟨textEquivalent_same rfl (normalizeCompareText_detail lower s),textEquivalent_same rfl (normalizeCompareText_again lowers s)⟩
  shown := fun d => setDetailsText_detail d s
  full := fun d => by rw [setDetailsText_full,normalizeDetailText_again]

theorem separates_letter (letter : 0x41 ≤ c.toNat ∧ c.toNat ≤ 0x5A ∨ 0x61 ≤ c.toNat ∧ c.toNat ≤ 0x7A) : separates c = false := by
  simp only [separates,isSpace,Bool.or_eq_false_iff,Bool.and_eq_false_iff,decide_eq_false_iff_not,UInt16.le_iff_toNat_le,← UInt16.toNat_inj]
  simp
  omega

theorem capital_toNat {c : QChar} (capital : 0x41 ≤ c ∧ c ≤ 0x5A) : (0x41 ≤ c.toNat ∧ c.toNat ≤ 0x5A) ∧ (c + 0x20).toNat = c.toNat + 0x20 := by
  have low : 0x41 ≤ c.toNat := UInt16.le_iff_toNat_le.mp capital.1
  have high : c.toNat ≤ 0x5A := UInt16.le_iff_toNat_le.mp capital.2
  refine ⟨⟨low,high⟩,?_⟩
  rw [UInt16.toNat_add]
  exact Nat.mod_eq_of_lt (show c.toNat + 0x20 < 2 ^ 16 by omega)

theorem toLower_lowers : Lowers toLower where
  kept := by
    intro c separator before after
    have other : ¬(0x41 ≤ c ∧ c ≤ 0x5A) := by
      intro capital
      rw [separates_letter (.inl (capital_toNat capital).1)] at separator
      cases separator
    unfold toLower
    rw [List.map_append,List.map_cons,if_neg other]
  apart := by
    intro s free c present
    obtain ⟨d,inside,same⟩ := List.mem_map.mp present
    subst same
    split
    · next capital =>
      obtain ⟨range,size⟩ := capital_toNat capital
      exact separates_letter (by omega)
    · exact free d inside
  again := by
    intro s
    unfold toLower
    rw [List.map_map]
    apply List.map_congr_left
    intro c _
    simp only [Function.comp_apply]
    by_cases capital : 0x41 ≤ c ∧ c ≤ 0x5A
    · obtain ⟨range,size⟩ := capital_toNat capital
      have small : ¬(0x41 ≤ c + 0x20 ∧ c + 0x20 ≤ 0x5A) := by
        intro both
        have bounds := (capital_toNat both).1
        omega
      rw [if_pos capital,if_neg small]
    · rw [if_neg capital,if_neg capital]

theorem normalize_settled_text : Settled toLower (text "A, B\r\n  C.") := normalize_settled toLower_lowers (text "A, B\r\n  C.")

end TextNormalize

end BbAuth
