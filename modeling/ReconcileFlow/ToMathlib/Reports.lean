import Mathlib

/-! # Reports that stand for items

A report may stand for any number of items, as a relation `holds` says. `Accounts` says that a list
of items is split, as multisets, into directly listed items and the items the reports stand for.
Accounts add up along concatenation and over families. When a report determines how many items it
stands for, two accounts with the same listing and the same reports have equally many items.
-/

namespace Reports

variable {α β ε : Type*} {holds : ε → List α → Prop}

/-- Every item is listed or held by exactly one report. -/
def Accounts (holds : ε → List α → Prop) (items listed : List α) (reports : List ε) : Prop :=
  ∃ held, List.Forall₂ holds reports held ∧ items.Perm (listed ++ held.flatten)

theorem accounts_nil : Accounts holds [] [] [] := ⟨[], .nil, .refl _⟩

/-- Listed items need no report. -/
theorem accounts_listed (items : List α) : Accounts holds items items [] :=
  ⟨[], .nil, .of_eq (List.append_nil items).symm⟩

/-- One report with its items. -/
theorem accounts_report {report : ε} {items : List α} (stands : holds report items) :
    Accounts holds items [] [report] := by
  refine ⟨[items], .cons stands .nil, .of_eq ?_⟩
  rw [List.nil_append, List.flatten_cons, List.flatten_nil, List.append_nil]

theorem Accounts.perm {items items' listed : List α} {reports : List ε}
    (account : Accounts holds items listed reports) (same : items'.Perm items) :
    Accounts holds items' listed reports := by
  obtain ⟨held, stands, split⟩ := account
  exact ⟨held, stands, same.trans split⟩

theorem Accounts.append {items items' listed listed' : List α} {reports reports' : List ε}
    (first : Accounts holds items listed reports) (second : Accounts holds items' listed' reports') :
    Accounts holds (items ++ items') (listed ++ listed') (reports ++ reports') := by
  obtain ⟨held, stands, split⟩ := first
  obtain ⟨held', stands', split'⟩ := second
  refine ⟨held ++ held', List.rel_append stands stands', (split.append split').trans ?_⟩
  rw [List.flatten_append, List.append_assoc, List.append_assoc]
  refine List.Perm.append_left _ ?_
  rw [← List.append_assoc, ← List.append_assoc]
  exact List.perm_append_comm.append_right _

theorem Accounts.perm_listed {items listed listed' : List α} {reports : List ε}
    (account : Accounts holds items listed reports) (same : listed.Perm listed') :
    Accounts holds items listed' reports := by
  obtain ⟨held, stands, split⟩ := account
  exact ⟨held, stands, split.trans (same.append_right _)⟩

/-- Account further for some of the listed items. -/
theorem Accounts.refine {items listed pending listed' : List α} {reports reports' : List ε}
    (account : Accounts holds items (listed ++ pending) reports)
    (further : Accounts holds pending listed' reports') :
    Accounts holds items (listed ++ listed') (reports ++ reports') := by
  obtain ⟨held, stands, split⟩ := account
  have rest : Accounts holds held.flatten [] reports := ⟨held, stands, .refl _⟩
  obtain ⟨held', stands', split'⟩ := rest.append further
  refine ⟨held', stands', split.trans ?_⟩
  rw [List.append_assoc, List.append_assoc]
  exact (List.perm_append_comm.trans split').append_left listed

/-- Replace some of the listed items by others. -/
theorem Accounts.exchange {items listed pending : List α} {reports : List ε}
    (account : Accounts holds items (listed ++ pending) reports) (pending' : List α) :
    ∃ items', Accounts holds items' (listed ++ pending') reports ∧
      items'.length + pending.length = items.length + pending'.length := by
  obtain ⟨held, stands, split⟩ := account
  refine ⟨listed ++ pending' ++ held.flatten, ⟨held, stands, .refl _⟩, ?_⟩
  rw [split.length_eq]
  simp only [List.length_append]
  omega

/-- The accounts of a family add up. -/
theorem accounts_flatMap {items listed : β → List α} {reports : β → List ε} {family : List β}
    (each : ∀ member ∈ family, Accounts holds (items member) (listed member) (reports member)) :
    Accounts holds (family.flatMap items) (family.flatMap listed) (family.flatMap reports) := by
  induction family with
  | nil => exact accounts_nil
  | cons member rest ih =>
    rw [List.flatMap_cons, List.flatMap_cons, List.flatMap_cons]
    exact (each member List.mem_cons_self).append
      (ih fun other present => each other (List.mem_cons_of_mem _ present))

/-- A family in which a member may list one item, may raise one report, or both. -/
theorem accounts_filterMap {γ : Type*} {items : β → List α} {pair? : β → Option γ} {listed : γ → α}
    {report? : β → Option ε} {family : List β}
    (each : ∀ member ∈ family,
      Accounts holds (items member) ((pair? member).toList.map listed) (report? member).toList) :
    Accounts holds (family.flatMap items) ((family.filterMap pair?).map listed)
      (family.filterMap report?) := by
  rw [List.filterMap_eq_flatMap_toList, List.filterMap_eq_flatMap_toList, List.map_flatMap]
  exact accounts_flatMap each

private theorem flatMap_none (family : List β) : (family.flatMap fun _ => ([] : List α)) = [] :=
  List.flatMap_eq_nil_iff.mpr fun _ _ => rfl

/-- A family of reports that each stand for one item. -/
theorem accounts_map {item : β → α} {report : β → ε} {family : List β}
    (each : ∀ member ∈ family, holds (report member) [item member]) :
    Accounts holds (family.map item) [] (family.map report) := by
  have added := accounts_flatMap (fun member present => accounts_report (each member present))
  rwa [flatMap_none, ← List.map_eq_flatMap, ← List.map_eq_flatMap] at added

/-- Reports that stand for nothing. -/
theorem accounts_silent {reports : List ε} (each : ∀ report ∈ reports, holds report []) :
    Accounts holds [] [] reports := by
  have added := accounts_flatMap (fun report present => accounts_report (each report present))
  rwa [flatMap_none, List.flatMap_singleton'] at added

/-- The number of items is determined when each report determines its number. -/
theorem Accounts.length_eq (determined : ∀ report items items', holds report items →
      holds report items' → items.length = items'.length)
    {items items' listed : List α} {reports : List ε} (first : Accounts holds items listed reports)
    (second : Accounts holds items' listed reports) : items.length = items'.length := by
  obtain ⟨held, stands, split⟩ := first
  obtain ⟨held', stands', split'⟩ := second
  rw [split.length_eq, split'.length_eq, List.length_append, List.length_append]
  congr 1
  clear split split'
  induction stands generalizing held' with
  | nil =>
    cases stands'
    rfl
  | cons first _ ih =>
    cases stands' with
    | cons second rest =>
      rw [List.flatten_cons, List.flatten_cons, List.length_append, List.length_append,
        determined _ _ _ first second, ih _ rest]

/-- Related lists give every member of the first a partner in the second. -/
theorem exists_of_forall₂ {R : ε → β → Prop} {left : List ε} {right : List β}
    (related : List.Forall₂ R left right) {a : ε} (member : a ∈ left) : ∃ b ∈ right, R a b := by
  induction related with
  | nil => cases member
  | cons first _ ih =>
    rcases List.mem_cons.mp member with rfl | later
    · exact ⟨_, List.mem_cons_self, first⟩
    · obtain ⟨b, present, relates⟩ := ih later
      exact ⟨b, List.mem_cons_of_mem _ present, relates⟩

/-- Reports that stand for some of the items have disjoint items when no two items share a key. -/
theorem Accounts.pairwise_disjoint {κ : Type*} {key : α → κ} {items listed : List α} {reports : List ε}
    (account : Accounts holds items listed reports) (distinct : (items.map key).Nodup) :
    reports.Pairwise fun first second => ∃ left right, holds first left ∧ holds second right ∧
      ∀ item ∈ left, ∀ other ∈ right, key item ≠ key other := by
  obtain ⟨held, stands, split⟩ := account
  have unique : (held.flatten.map key).Nodup := by
    have all := (split.map key).nodup_iff.mp distinct
    rw [List.map_append] at all
    exact all.of_append_right
  clear split
  induction stands with
  | nil => exact .nil
  | @cons report stood reports held first rest ih =>
    rw [List.flatten_cons, List.map_append, List.nodup_append] at unique
    refine .cons (fun other member => ?_) (ih unique.2.1)
    obtain ⟨right, present, second⟩ := exists_of_forall₂ rest member
    refine ⟨stood, right, first, second, fun item inLeft row inRight same => ?_⟩
    have inFlat : key row ∈ held.flatten.map key :=
      List.mem_map_of_mem (List.mem_flatten_of_mem present inRight)
    exact unique.2.2 _ (List.mem_map_of_mem inLeft) _ inFlat same

/-- A relation to two lists in turn comes apart where they meet. -/
theorem split_of_forall₂ {R : ε → β → Prop} {first later : List ε} {right : List β}
    (related : List.Forall₂ R (first ++ later) right) :
    ∃ left rest, right = left ++ rest ∧ List.Forall₂ R first left ∧ List.Forall₂ R later rest := by
  induction first generalizing right with
  | nil => exact ⟨[], right, rfl, .nil, related⟩
  | cons head first ih =>
    obtain ⟨item, right, relates, tail, rfl⟩ := List.forall₂_cons_left_iff.mp related
    obtain ⟨left, rest, rfl, before, after⟩ := ih tail
    exact ⟨item :: left, rest, rfl, .cons relates before, after⟩

/-- A weight adds up over an account: what is listed, what the reports show, and what they hold beyond
that. The items beyond come from the groups that the reports stand for. -/
theorem Accounts.exists_sum {M : Type*} [AddCommMonoid M] {items listed : List α} {reports : List ε}
    (account : Accounts holds items listed reports) (weight : α → M) (shown : ε → M) (beyond : List α → List α)
    (each : ∀ report group, holds report group →
      (group.map weight).sum = shown report + ((beyond group).map weight).sum) :
    ∃ spare : List α, (∀ item ∈ spare, ∃ report ∈ reports, ∃ group, holds report group ∧ item ∈ beyond group ∧ group ⊆ items) ∧
      (items.map weight).sum = (listed.map weight).sum + (reports.map shown).sum + (spare.map weight).sum := by
  obtain ⟨held, stands, split⟩ := account
  have within : held.flatten ⊆ items := fun item member =>
    split.symm.subset (List.mem_append_right listed member)
  refine ⟨(held.map beyond).flatten, ?_, ?_⟩
  · intro item member
    obtain ⟨rest, listed, present⟩ := List.mem_flatten.mp member
    obtain ⟨group, inHeld, rfl⟩ := List.mem_map.mp listed
    obtain ⟨report, raised, stood⟩ := exists_of_forall₂ stands.flip inHeld
    exact ⟨report, raised, group, stood, present, fun other inGroup =>
      within (List.mem_flatten.mpr ⟨group, inHeld, inGroup⟩)⟩
  · rw [(split.map weight).sum_eq, List.map_append, List.sum_append, add_assoc]
    congr 1
    clear split within
    induction stands with
    | nil => simp
    | @cons report group reports held stood _ ih =>
      simp only [List.flatten_cons, List.map_append, List.sum_append, List.map_cons, List.sum_cons,
        each report group stood, ih]
      abel

/-- The sum of an account whose reports show the whole weight of what they hold. -/
theorem Accounts.sum_eq {M : Type*} [AddCommMonoid M] {items listed : List α} {reports : List ε}
    (account : Accounts holds items listed reports) (weight : α → M) (shown : ε → M)
    (each : ∀ report group, holds report group → (group.map weight).sum = shown report) :
    (items.map weight).sum = (listed.map weight).sum + (reports.map shown).sum := by
  obtain ⟨spare, beyond, total⟩ := account.exists_sum weight shown (fun _ => []) fun report group stands => by
    rw [each report group stands, List.map_nil, List.sum_nil, add_zero]
  have none : spare = [] := List.eq_nil_iff_forall_not_mem.mpr fun item member => by
    obtain ⟨-, -, -, -, present, -⟩ := beyond item member
    exact List.not_mem_nil present
  rw [total, none, List.map_nil, List.sum_nil, add_zero]

end Reports
