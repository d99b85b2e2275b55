import Mathlib

/-! # Lists joined by a separator

A list split at a separator is determined by its joined form when the separator occurs on one side of
the split only. Without that, two different splits of one list are shifted against each other over an
occurrence of the separator (`join_eq_iff`).

Names of two kinds that are written into one space of texts are told apart when each kind is, and no
name of one kind is written like a name of the other (`nodup_map_iff`).
-/

namespace Separators

variable {α : Type*} {separator : α} {first second first' second' : List α}

/-- Two splits of one list are the same, or shifted over an occurrence of the separator. -/
theorem join_eq_iff : first ++ separator :: second = first' ++ separator :: second' ↔
    first = first' ∧ second = second' ∨
      (∃ middle, first' = first ++ separator :: middle ∧ second = middle ++ separator :: second') ∨
      ∃ middle, first = first' ++ separator :: middle ∧ second' = middle ++ separator :: second := by
  constructor
  · intro same
    rcases List.append_eq_append_iff.mp same with ⟨between, rfl, tail⟩ | ⟨between, rfl, tail⟩
    · cases between with
      | nil => exact Or.inl ⟨(List.append_nil _).symm, (List.cons.inj tail).2⟩
      | cons head middle =>
        obtain ⟨rfl, rest⟩ := List.cons.inj tail
        exact Or.inr (Or.inl ⟨middle, rfl, rest⟩)
    · cases between with
      | nil => exact Or.inl ⟨List.append_nil _, (List.cons.inj tail).2.symm⟩
      | cons head middle =>
        obtain ⟨rfl, rest⟩ := List.cons.inj tail
        exact Or.inr (Or.inr ⟨middle, rfl, rest⟩)
  · rintro (⟨rfl, rfl⟩ | ⟨middle, rfl, rfl⟩ | ⟨middle, rfl, rfl⟩)
    · rfl
    · rw [List.append_assoc, List.cons_append]
    · rw [List.append_assoc, List.cons_append]

/-- The first separator is where the list is split, if no part before it contains one. -/
theorem join_inj_of_left (free : separator ∉ first) (free' : separator ∉ first') :
    first ++ separator :: second = first' ++ separator :: second' ↔ first = first' ∧ second = second' := by
  refine join_eq_iff.trans (or_iff_left ?_)
  rintro (⟨middle, rfl, -⟩ | ⟨middle, rfl, -⟩)
  · exact free' (List.mem_append_right _ List.mem_cons_self)
  · exact free (List.mem_append_right _ List.mem_cons_self)

/-- The last separator is where the list is split, if no part behind it contains one. -/
theorem join_inj_of_right (free : separator ∉ second) (free' : separator ∉ second') :
    first ++ separator :: second = first' ++ separator :: second' ↔ first = first' ∧ second = second' := by
  refine join_eq_iff.trans (or_iff_left ?_)
  rintro (⟨middle, -, rfl⟩ | ⟨middle, -, rfl⟩)
  · exact free (List.mem_append_right _ List.mem_cons_self)
  · exact free' (List.mem_append_right _ List.mem_cons_self)

section Kinds

variable {β γ δ : Type*} {names : List (β ⊕ γ)}

/-- Distinct names, either kind written injectively, are written alike only across the kinds. -/
theorem nodup_map_iff (distinct : names.Nodup) {left : β → δ} {right : γ → δ}
    (injLeft : Function.Injective left) (injRight : Function.Injective right) :
    (names.map (Sum.elim left right)).Nodup ↔
      ∀ b c, Sum.inl b ∈ names → Sum.inr c ∈ names → left b ≠ right c := by
  rw [List.nodup_map_iff_inj_on distinct]
  constructor
  · intro inj b c memberLeft memberRight same
    exact Sum.inl_ne_inr (inj _ memberLeft _ memberRight same)
  · intro apart name member other member' same
    cases name with
    | inl b =>
      cases other with
      | inl b' => exact congrArg Sum.inl (injLeft same)
      | inr c => exact (apart b c member member' same).elim
    | inr c =>
      cases other with
      | inl b => exact (apart b c member' member same.symm).elim
      | inr c' => exact congrArg Sum.inr (injRight same)

end Kinds

end Separators
