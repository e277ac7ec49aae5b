namespace Library

-- What is shown for each id, and what the owner of each kind says it holds.
structure Directory (ι κ : Type) where
  shown : ι → Option κ
  held : ι → κ → Prop

namespace Directory

variable {ι κ : Type}

-- An id is shown exactly as what it is held for, and every id has one kind.
structure Agrees (roster : ι → κ) (d : Directory ι κ) : Prop where
  agree : ∀ i k, d.shown i = some k ↔ d.held i k
  kind : ∀ i k, d.held i k → roster i = k

variable {roster : ι → κ} {d e : Directory ι κ}

theorem Agrees.shown_kind (agrees : d.Agrees roster) (shown : d.shown i = some k) : roster i = k :=
  agrees.kind i k ((agrees.agree i k).mp shown)

theorem Agrees.same (agrees : d.Agrees roster) (shown : ∀ i, e.shown i = d.shown i)
    (held : ∀ i k, e.held i k ↔ d.held i k) : e.Agrees roster where
  agree i k := by rw [shown,held]; exact agrees.agree i k
  kind i k now := agrees.kind i k ((held i k).mp now)

variable [DecidableEq ι]

theorem Agrees.opened (agrees : d.Agrees roster) (mine : roster i = k)
    (shown : ∀ j, e.shown j = if j = i then some k else d.shown j)
    (held : ∀ j, e.held j k ↔ j = i ∨ d.held j k) (others : ∀ j l, l ≠ k → (e.held j l ↔ d.held j l)) :
    e.Agrees roster where
  agree j l := by
    rw [shown]
    by_cases kinds : l = k
    · subst kinds
      rw [held]
      by_cases same : j = i
      · rw [if_pos same]
        exact ⟨fun _ => .inl same,fun _ => rfl⟩
      · rw [if_neg same,agrees.agree]
        exact ⟨.inr,fun now => now.resolve_left same⟩
    · rw [others j l kinds]
      by_cases same : j = i
      · subst same
        rw [if_pos rfl]
        exact ⟨fun now => absurd (Option.some.inj now).symm kinds,
          fun before => absurd ((agrees.kind j l before).symm.trans mine) kinds⟩
      · rw [if_neg same]
        exact agrees.agree j l
  kind j l now := by
    by_cases kinds : l = k
    · subst kinds
      rcases (held j).mp now with rfl | before
      · exact mine
      · exact agrees.kind j l before
    · exact agrees.kind j l ((others j l kinds).mp now)

theorem Agrees.closed (agrees : d.Agrees roster) (mine : roster i = k)
    (shown : ∀ j, e.shown j = if j = i then none else d.shown j)
    (held : ∀ j, e.held j k ↔ j ≠ i ∧ d.held j k) (others : ∀ j l, l ≠ k → (e.held j l ↔ d.held j l)) :
    e.Agrees roster where
  agree j l := by
    rw [shown]
    by_cases kinds : l = k
    · subst kinds
      rw [held]
      by_cases same : j = i
      · rw [if_pos same]
        exact ⟨fun now => (by cases now),fun now => absurd same now.1⟩
      · rw [if_neg same,agrees.agree]
        exact ⟨fun before => ⟨same,before⟩,And.right⟩
    · rw [others j l kinds]
      by_cases same : j = i
      · subst same
        rw [if_pos rfl]
        exact ⟨fun now => (by cases now),fun before => absurd ((agrees.kind j l before).symm.trans mine) kinds⟩
      · rw [if_neg same]
        exact agrees.agree j l
  kind j l now := by
    by_cases kinds : l = k
    · subst kinds
      exact agrees.kind j l ((held j).mp now).2
    · exact agrees.kind j l ((others j l kinds).mp now)

end Directory

end Library
