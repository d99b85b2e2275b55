import Mathlib

/-! # First-fit pairing within classes

Every item has a class, and so has every member of a supply. `pairs` goes through the items and gives
each of them the first member of its class that is left. Within every class it pairs as many as there
are on the shorter side (`count_pairs`), so no other pairing within the classes is longer
(`length_le_pairs`).
-/

namespace FirstFit

variable {α β κ : Type*} [DecidableEq κ] {left : α → κ} {right : β → κ} {items : List α} {supply : List β}

/-- Pair every item with the first member of its class that is left in the supply. -/
def pairs (left : α → κ) (right : β → κ) : List α → List β → List (α × β)
  | [], _ => []
  | item :: rest, supply =>
    match supply.find? fun member => decide (right member = left item) with
    | none => pairs left right rest supply
    | some member => (item, member) :: pairs left right rest
        (supply.eraseP fun member => decide (right member = left item))

/-- Pairs within the classes that use no position of either list twice. -/
structure Pairing (left : α → κ) (right : β → κ) (items : List α) (supply : List β)
    (made : List (α × β)) : Prop where
  items : (made.map Prod.fst).Subperm items
  supply : (made.map Prod.snd).Subperm supply
  same : ∀ pair ∈ made, right pair.2 = left pair.1

/-- What is found is taken out of the supply. -/
theorem perm_cons_eraseP {p : β → Bool} {member : β} (found : supply.find? p = some member) :
    supply.Perm (member :: supply.eraseP p) := by
  obtain ⟨fits, before, after, rfl, none⟩ := List.find?_eq_some_iff_append.mp found
  rw [List.eraseP_append_right _ fun other present => by simpa using none other present,
    List.eraseP_cons_of_pos fits]
  exact List.perm_middle

/-- The items are paired in their order. -/
theorem map_fst_pairs_sublist (items : List α) (supply : List β) :
    ((pairs left right items supply).map Prod.fst).Sublist items := by
  induction items generalizing supply with
  | nil => exact List.Sublist.refl _
  | cons item rest ih =>
    rw [pairs]
    split
    · exact (ih supply).cons item
    · exact (ih _).cons_cons item

theorem map_snd_pairs_subperm (items : List α) (supply : List β) :
    ((pairs left right items supply).map Prod.snd).Subperm supply := by
  induction items generalizing supply with
  | nil => exact List.nil_subperm
  | cons item rest ih =>
    rw [pairs]
    split
    · exact ih supply
    · next member found =>
      exact ((List.subperm_cons member).mpr (ih _)).trans (perm_cons_eraseP found).symm.subperm

theorem pairing_pairs (items : List α) (supply : List β) :
    Pairing left right items supply (pairs left right items supply) where
  items := (map_fst_pairs_sublist items supply).subperm
  supply := map_snd_pairs_subperm items supply
  same := by
    induction items generalizing supply with
    | nil => exact fun _ none => (List.not_mem_nil none).elim
    | cons item rest ih =>
      rw [pairs]
      split
      · exact ih supply
      · next member found => exact List.forall_mem_cons.mpr ⟨by simpa using List.find?_some found, ih _⟩

/-- Every class is exhausted on one of the two sides. -/
theorem count_pairs (items : List α) (supply : List β) (k : κ) :
    ((pairs left right items supply).map fun pair => left pair.1).count k =
      min ((items.map left).count k) ((supply.map right).count k) := by
  induction items generalizing supply with
  | nil => simp [pairs]
  | cons item rest ih =>
    rw [pairs]
    split
    · next missing =>
      rw [ih]
      by_cases same : left item = k
      · subst same
        have absent : (supply.map right).count (left item) = 0 := by
          refine List.count_eq_zero.mpr fun present => ?_
          obtain ⟨member, stored, equal⟩ := List.mem_map.mp present
          exact absurd equal (by simpa using List.find?_eq_none.mp missing member stored)
        rw [absent, Nat.min_zero, Nat.min_zero]
      · rw [List.map_cons, List.count_cons_of_ne same]
    · next member found =>
      have class_ : right member = left item := by simpa using List.find?_some found
      rw [((perm_cons_eraseP found).map right).count_eq, List.map_cons, List.map_cons, List.map_cons,
        List.count_cons, List.count_cons, List.count_cons, ih, class_]
      exact (Nat.add_min_add_right ..).symm

/-- No pairing within the classes is longer than the first-fit one. -/
theorem length_le_pairs {made : List (α × β)} (pairing : Pairing left right items supply made) :
    made.length ≤ (pairs left right items supply).length := by
  have classes : (made.map fun pair => left pair.1).Subperm
      ((pairs left right items supply).map fun pair => left pair.1) := by
    refine List.subperm_ext_iff.mpr fun k _ => ?_
    rw [count_pairs]
    refine le_min ?_ ?_
    · have kept := pairing.items.countP_le fun item => left item == k
      simp only [List.count, List.countP_map] at kept ⊢
      exact kept
    · have kept := pairing.supply.countP_le fun member => right member == k
      rw [List.map_congr_left fun pair member => (pairing.same pair member).symm]
      simp only [List.count, List.countP_map] at kept ⊢
      exact kept
  have lengths := classes.length_le
  rwa [List.length_map, List.length_map] at lengths

end FirstFit
