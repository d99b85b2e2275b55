import Mathlib

/-! # Sequential allocation of identified rows to requests

Requests are served one after another. A turn picks rows for its request knowing which row
identifiers earlier turns have spent, and then spends the identifiers of what it picked. Rows are
occurrences in a list and several rows may carry one identifier, so spending an identifier can
retire rows that no turn ever picked. Requests that never look at each other's rows are served
as if they were alone (`filter_turns`).

`turns` is the complete history. If a turn only picks rows whose identifier is unspent, different
turns never share an identifier. The rows still represented at the end, picked or unspent, form a
sub-multiset of the rows; they are all the rows exactly when every turn is closed under sharing an
identifier (`represented_perm_iff`).
-/

namespace Allocation

variable {α β ι : Type*} [DecidableEq ι]

/-- The identifiers of the rows of one turn. -/
def idents (ident : α → ι) (picked : List α) : Finset ι := (picked.map ident).toFinset

@[simp] theorem mem_idents {ident : α → ι} {picked : List α} {i : ι} :
    i ∈ idents ident picked ↔ ∃ row ∈ picked, ident row = i := by
  simp [idents]

variable (ident : α → ι) (pick : Finset ι → β → List α)

/-- Every request with the rows picked at its turn. -/
def turns : Finset ι → List β → List (β × List α)
  | _, [] => []
  | used, request :: rest =>
    (request, pick used request) :: turns (used ∪ idents ident (pick used request)) rest

/-- The identifiers spent once the requests are served. -/
def spent : Finset ι → List β → Finset ι
  | used, [] => used
  | used, request :: rest => spent (used ∪ idents ident (pick used request)) rest

/-- A condition on the spent identifiers and the request, at every turn. -/
def AtEveryTurn (condition : Finset ι → β → Prop) : Finset ι → List β → Prop
  | _, [] => True
  | used, request :: rest =>
    condition used request ∧ AtEveryTurn condition (used ∪ idents ident (pick used request)) rest

instance decidableAtEveryTurn (condition : Finset ι → β → Prop)
    [∀ used request, Decidable (condition used request)] :
    (used : Finset ι) → (requests : List β) → Decidable (AtEveryTurn ident pick condition used requests)
  | _, [] => isTrue trivial
  | used, request :: rest =>
    have := decidableAtEveryTurn condition (used ∪ idents ident (pick used request)) rest
    inferInstanceAs (Decidable (condition used request ∧ _))

@[simp] theorem map_fst_turns (used : Finset ι) (requests : List β) :
    (turns ident pick used requests).map Prod.fst = requests := by
  induction requests generalizing used with
  | nil => rfl
  | cons request rest ih => simp only [turns, List.map_cons, ih]

theorem turns_append (used : Finset ι) (first second : List β) :
    turns ident pick used (first ++ second) =
      turns ident pick used first ++ turns ident pick (spent ident pick used first) second := by
  induction first generalizing used with
  | nil => rfl
  | cons request rest ih => simp only [List.cons_append, turns, spent, ih]

theorem spent_append (used : Finset ι) (first second : List β) :
    spent ident pick used (first ++ second) = spent ident pick (spent ident pick used first) second := by
  induction first generalizing used with
  | nil => rfl
  | cons request rest ih => simp only [List.cons_append, spent, ih]

theorem mem_spent {used : Finset ι} {requests : List β} {i : ι} :
    i ∈ spent ident pick used requests ↔
      i ∈ used ∨ ∃ turn ∈ turns ident pick used requests, i ∈ idents ident turn.2 := by
  induction requests generalizing used with
  | nil => simp [spent, turns]
  | cons request rest ih =>
    rw [spent, ih, Finset.mem_union, turns, List.exists_mem_cons_iff, or_assoc]

/-- A turn is determined by the requests served before it. -/
theorem mem_turns_iff {used : Finset ι} {requests : List β} {turn : β × List α} :
    turn ∈ turns ident pick used requests ↔
      ∃ prior later, requests = prior ++ turn.1 :: later ∧
        turn.2 = pick (spent ident pick used prior) turn.1 := by
  constructor
  · intro member
    induction requests generalizing used with
    | nil => simp [turns] at member
    | cons request rest ih =>
      rcases List.mem_cons.mp member with rfl | member
      · exact ⟨[], rest, rfl, rfl⟩
      · obtain ⟨prior, later, rfl, picked⟩ := ih member
        exact ⟨request :: prior, later, rfl, picked⟩
  · rintro ⟨prior, later, rfl, picked⟩
    rw [turns_append, turns]
    refine List.mem_append_right _ (List.mem_cons.mpr (Or.inl ?_))
    rw [← picked]

/-- Where the history is cut at a turn, the requests are. -/
theorem turns_cut {used : Finset ι} {requests : List β} {before after : List (β × List α)} {request : β}
    {picked : List α} (cut : turns ident pick used requests = before ++ (request, picked) :: after) :
    ∃ prior later, requests = prior ++ request :: later ∧ before = turns ident pick used prior ∧
      picked = pick (spent ident pick used prior) request ∧
      after = turns ident pick (spent ident pick used prior ∪ idents ident picked) later := by
  induction before generalizing used requests with
  | nil =>
    cases requests with
    | nil => cases cut
    | cons first rest =>
      cases cut
      exact ⟨[], rest, rfl, rfl, rfl, rfl⟩
  | cons turn before ih =>
    cases requests with
    | nil => cases cut
    | cons first rest =>
      obtain ⟨rfl, tail⟩ := List.cons.inj cut
      obtain ⟨prior, later, rfl, rfl, served, rest⟩ := ih tail
      exact ⟨first :: prior, later, rfl, rfl, served, rest⟩

/-- What is spent stays spent. -/
theorem spent_subset_append (used : Finset ι) (first second : List β) :
    spent ident pick used first ⊆ spent ident pick used (first ++ second) := by
  intro i member
  rw [spent_append]
  exact (mem_spent ident pick).mpr (Or.inl member)

/-- A turn spends what it picks. -/
theorem mem_spent_of_picked {used : Finset ι} {prior later : List β} {request : β} {row : α}
    (picked : row ∈ pick (spent ident pick used prior) request) :
    ident row ∈ spent ident pick used (prior ++ request :: later) := by
  refine (mem_spent ident pick).mpr (Or.inr ⟨(request, pick (spent ident pick used prior) request), ?_, ?_⟩)
  · exact (mem_turns_iff ident pick).mpr ⟨prior, later, rfl, rfl⟩
  · exact mem_idents.mpr ⟨row, picked, rfl⟩

theorem atEveryTurn_iff {condition : Finset ι → β → Prop} {used : Finset ι} {requests : List β} :
    AtEveryTurn ident pick condition used requests ↔
      ∀ prior request later, requests = prior ++ request :: later →
        condition (spent ident pick used prior) request := by
  induction requests generalizing used with
  | nil => simp [AtEveryTurn]
  | cons request rest ih =>
    rw [AtEveryTurn, ih]
    constructor
    · rintro ⟨now, rest⟩ prior other later split
      cases prior with
      | nil =>
        obtain ⟨rfl, rfl⟩ := List.cons.inj split
        exact now
      | cons first prior =>
        obtain ⟨rfl, rfl⟩ := List.cons.inj split
        exact rest prior other later rfl
    · intro all
      refine ⟨all [] request rest rfl, ?_⟩
      rintro prior other later rfl
      exact all (request :: prior) other later rfl

section Fresh

variable {pick} (fresh : ∀ used request, ∀ row ∈ pick used request, ident row ∉ used)
include fresh

theorem turns_fresh {used : Finset ι} {requests : List β} {turn : β × List α}
    (member : turn ∈ turns ident pick used requests) : ∀ row ∈ turn.2, ident row ∉ used := by
  obtain ⟨prior, later, -, picked⟩ := (mem_turns_iff ident pick).mp member
  intro row present spentBefore
  rw [picked] at present
  exact fresh _ _ row present ((mem_spent ident pick).mpr (Or.inl spentBefore))

/-- No identifier is picked at two turns. -/
theorem turns_disjoint (used : Finset ι) (requests : List β) :
    (turns ident pick used requests).Pairwise fun first second =>
      ∀ row ∈ first.2, ∀ other ∈ second.2, ident row ≠ ident other := by
  induction requests generalizing used with
  | nil => exact List.Pairwise.nil
  | cons request rest ih =>
    refine List.Pairwise.cons ?_ (ih _)
    intro turn member row present other later same
    refine turns_fresh ident fresh member other later (Finset.mem_union_right _ ?_)
    exact (mem_idents).mpr ⟨row, present, same⟩

/-- A row is picked at one position only. -/
theorem prior_unique {used : Finset ι} {prior later prior' later' : List β} {request request' : β}
    (same : prior ++ request :: later = prior' ++ request' :: later') {row : α}
    (picked : row ∈ pick (spent ident pick used prior) request)
    (picked' : row ∈ pick (spent ident pick used prior') request') : prior = prior' := by
  have apart {first rest : List β} {between other : β}
      (early : row ∈ pick (spent ident pick used first) between)
      (late : row ∈ pick (spent ident pick used (first ++ between :: rest)) other) : False :=
    fresh _ _ row late (mem_spent_of_picked ident pick early)
  rcases List.append_eq_append_iff.mp same with ⟨mid, rfl, tail⟩ | ⟨mid, rfl, tail⟩ <;>
    cases mid with
    | nil => rw [List.append_nil]
    | cons between rest =>
      obtain ⟨rfl, -⟩ := List.cons.inj tail
      first | exact (apart picked picked').elim | exact (apart picked' picked).elim

end Fresh

/-! ## Accounting for every row -/

/-- Everything the allocation still shows: the rows picked at some turn and the unspent rows. -/
def represented (rows : List α) (used : Finset ι) (requests : List β) : List α :=
  (turns ident pick used requests).flatMap Prod.snd ++
    rows.filter (fun row => decide (ident row ∉ spent ident pick used requests))

theorem represented_cons (rows : List α) (used : Finset ι) (request : β) (rest : List β) :
    represented ident pick rows used (request :: rest) =
      pick used request ++ represented ident pick rows (used ∪ idents ident (pick used request)) rest := by
  rw [represented, turns, spent, List.flatMap_cons, List.append_assoc]
  rfl

/-- Every row sharing an identifier with a picked row is picked as well. -/
def Closed (rows : List α) (used : Finset ι) (request : β) : Prop :=
  ∀ row ∈ rows, ident row ∈ idents ident (pick used request) → row ∈ pick used request

section Accounting

variable {pick} {rows : List α}
  (fresh : ∀ used request, ∀ row ∈ pick used request, ident row ∉ used)
  (select : ∀ used request, ∃ wanted : α → Bool, pick used request = rows.filter wanted)

/-- The unspent rows whose identifier this turn spends. -/
private def retired (pick : Finset ι → β → List α) (rows : List α) (used : Finset ι) (request : β) : List α :=
  (rows.filter (fun row => decide (ident row ∉ used))).filter
    (fun row => decide (ident row ∈ idents ident (pick used request)))

private theorem unspent_perm (pick : Finset ι → β → List α) (rows : List α) (used : Finset ι)
    (request : β) :
    (retired ident pick rows used request ++
      rows.filter (fun row => decide (ident row ∉ used ∪ idents ident (pick used request)))).Perm
        (rows.filter (fun row => decide (ident row ∉ used))) := by
  have split := List.filter_append_perm (fun row => decide (ident row ∈ idents ident (pick used request)))
    (rows.filter (fun row => decide (ident row ∉ used)))
  refine (List.Perm.of_eq ?_).trans split
  congr 1
  rw [List.filter_filter]
  congr 1
  funext row
  simp only [Finset.mem_union, not_or, Bool.decide_and, decide_not]
  exact Bool.and_comm _ _

include fresh select

private theorem pick_sublist (used : Finset ι) (request : β) :
    (pick used request).Sublist (retired ident pick rows used request) := by
  obtain ⟨wanted, picked⟩ := select used request
  have kept : pick used request = (retired ident pick rows used request).filter wanted := by
    rw [retired, List.filter_filter, List.filter_filter]
    conv_lhs => rw [picked]
    refine List.filter_congr fun row member => ?_
    by_cases want : wanted row = true
    · have present : row ∈ pick used request := picked ▸ List.mem_filter.mpr ⟨member, want⟩
      have unspent := fresh used request row present
      have taken : ident row ∈ idents ident (pick used request) := mem_idents.mpr ⟨row, present, rfl⟩
      simp only [want, unspent, taken, not_false_eq_true, decide_true, Bool.and_self]
    · simp only [Bool.not_eq_true] at want
      simp only [want, Bool.false_and]
  exact kept ▸ List.filter_sublist

private theorem length_retired_iff (used : Finset ι) (request : β) :
    (retired ident pick rows used request).length = (pick used request).length ↔
      Closed ident pick rows used request := by
  have inRetired (row : α) : row ∈ retired ident pick rows used request ↔
      row ∈ rows ∧ ident row ∈ idents ident (pick used request) := by
    simp only [retired, List.mem_filter, decide_eq_true_eq]
    constructor
    · rintro ⟨⟨member, _⟩, taken⟩
      exact ⟨member, taken⟩
    · rintro ⟨member, taken⟩
      obtain ⟨other, present, same⟩ := mem_idents.mp taken
      exact ⟨⟨member, same ▸ fresh used request other present⟩, taken⟩
  constructor
  · intro same row member taken
    have all := (pick_sublist ident fresh select used request).eq_of_length same.symm
    rw [all]
    exact (inRetired row).mpr ⟨member, taken⟩
  · intro closed
    obtain ⟨wanted, picked⟩ := select used request
    congr 1
    conv_rhs => rw [picked]
    rw [retired, List.filter_filter]
    refine List.filter_congr fun row member => Bool.eq_iff_iff.mpr ?_
    have wantedIff : wanted row = true ↔ row ∈ pick used request := by
      rw [picked, List.mem_filter, and_iff_right member]
    rw [Bool.and_eq_true, decide_eq_true_eq, decide_eq_true_eq, wantedIff]
    constructor
    · rintro ⟨taken, _⟩
      exact closed row member taken
    · intro present
      exact ⟨mem_idents.mpr ⟨row, present, rfl⟩, fresh used request row present⟩

/-- Nothing is represented twice: the represented rows are among the unspent ones. -/
theorem represented_subperm (used : Finset ι) (requests : List β) :
    (represented ident pick rows used requests).Subperm
      (rows.filter (fun row => decide (ident row ∉ used))) := by
  induction requests generalizing used with
  | nil => exact List.Subperm.refl _
  | cons request rest ih =>
    refine List.Subperm.trans ?_ (unspent_perm ident pick rows used request).subperm
    rw [represented_cons]
    exact (pick_sublist ident fresh select used request).subperm.append (ih _)

/-- Every row stays represented exactly when every turn is closed under sharing an identifier. -/
theorem represented_perm_iff (used : Finset ι) (requests : List β) :
    (represented ident pick rows used requests).Perm
        (rows.filter (fun row => decide (ident row ∉ used))) ↔
      AtEveryTurn ident pick (Closed ident pick rows) used requests := by
  have byLength (used : Finset ι) (requests : List β) :
      (represented ident pick rows used requests).Perm
          (rows.filter (fun row => decide (ident row ∉ used))) ↔
        (rows.filter (fun row => decide (ident row ∉ used))).length ≤
          (represented ident pick rows used requests).length :=
    ⟨fun perm => perm.length_eq.ge,
      (represented_subperm ident fresh select used requests).perm_of_length_le⟩
  induction requests generalizing used with
  | nil => exact iff_of_true (List.Perm.refl _) trivial
  | cons request rest ih =>
    have picked := (pick_sublist ident fresh select used request).length_le
    have later := (represented_subperm ident fresh select
      (used ∪ idents ident (pick used request)) rest).length_le
    have total := (unspent_perm ident pick rows used request).length_eq
    rw [List.length_append] at total
    refine Iff.trans ?_ (and_congr (length_retired_iff ident fresh select used request) (ih _))
    rw [byLength, byLength, represented_cons, List.length_append]
    omega

end Accounting

/-- When every request picks its own row as long as that is unspent, and no two own rows share an
identifier, each turn picks exactly the own row. -/
theorem turns_of_owned {pairs : List (β × α)} {used : Finset ι}
    (owned : ∀ pair ∈ pairs, ∀ used, ident pair.2 ∉ used → pick used pair.1 = [pair.2])
    (distinct : (pairs.map fun pair => ident pair.2).Nodup) (unspent : ∀ pair ∈ pairs, ident pair.2 ∉ used) :
    turns ident pick used (pairs.map Prod.fst) = pairs.map fun pair => (pair.1, [pair.2]) := by
  induction pairs generalizing used with
  | nil => rfl
  | cons pair rest ih =>
    obtain ⟨ownsFirst, ownsRest⟩ := List.forall_mem_cons.mp owned
    obtain ⟨freeFirst, freeRest⟩ := List.forall_mem_cons.mp unspent
    rw [List.map_cons, List.nodup_cons] at distinct
    have picked := ownsFirst used freeFirst
    rw [List.map_cons, List.map_cons, turns, picked, ih ownsRest distinct.2]
    intro other member spent
    rcases Finset.mem_union.mp spent with before | now
    · exact freeRest other member before
    · obtain ⟨row, own, same⟩ := mem_idents.mp now
      rw [List.mem_singleton.mp own] at same
      exact distinct.1 (same ▸ List.mem_map_of_mem member)

section Agree

variable {pick} {other : Finset ι → β → List α} {requests : List β} {extra : Finset ι}
  (same : ∀ request ∈ requests, ∀ used, other (used ∪ extra) request = pick used request)
include same

/-- Requests whose picks do not see some further identifiers are served alike once these are spent. -/
theorem turns_of_agree (used : Finset ι) :
    turns ident other (used ∪ extra) requests = turns ident pick used requests := by
  induction requests generalizing used with
  | nil => rfl
  | cons request rest ih =>
    obtain ⟨first, later⟩ := List.forall_mem_cons.mp same
    rw [turns, turns, first, Finset.union_right_comm, ih later]

theorem spent_of_agree (used : Finset ι) :
    spent ident other (used ∪ extra) requests = spent ident pick used requests ∪ extra := by
  induction requests generalizing used with
  | nil => rfl
  | cons request rest ih =>
    obtain ⟨first, later⟩ := List.forall_mem_cons.mp same
    rw [spent, spent, first, Finset.union_right_comm, ih later]

end Agree

theorem turns_map {γ : Type*} (f : γ → β) (used : Finset ι) (requests : List γ) :
    (turns ident (fun used request => pick used (f request)) used requests).map (Prod.map f id) =
      turns ident pick used (requests.map f) := by
  induction requests generalizing used with
  | nil => rfl
  | cons request rest ih =>
    simp only [turns, List.map_cons, ih, Prod.map, id]

theorem spent_map {γ : Type*} (f : γ → β) (used : Finset ι) (requests : List γ) :
    spent ident (fun used request => pick used (f request)) used requests =
      spent ident pick used (requests.map f) := by
  induction requests generalizing used with
  | nil => rfl
  | cons request rest ih => simp only [spent, List.map_cons, ih]

/-! ## Rows in another order -/

theorem idents_perm {picked other : List α} (perm : picked.Perm other) :
    idents ident picked = idents ident other := by
  ext i
  simp only [mem_idents, perm.mem_iff]

section Reordered

variable {pick} {other : Finset ι → β → List α}
  (reordered : ∀ used request, (pick used request).Perm (other used request))
include reordered

/-- Picking the same rows in another order spends the same identifiers. -/
theorem spent_reordered (used : Finset ι) (requests : List β) :
    spent ident pick used requests = spent ident other used requests := by
  induction requests generalizing used with
  | nil => rfl
  | cons request rest ih => rw [spent, spent, idents_perm ident (reordered used request), ih]

/-- Picking the same rows in another order serves every request with the same rows. -/
theorem turns_reordered (used : Finset ι) (requests : List β) :
    List.Forall₂ (fun first second => first.1 = second.1 ∧ first.2.Perm second.2)
      (turns ident pick used requests) (turns ident other used requests) := by
  induction requests generalizing used with
  | nil => exact .nil
  | cons request rest ih =>
    rw [turns, turns, idents_perm ident (reordered used request)]
    exact .cons ⟨rfl, reordered used request⟩ (ih _)

end Reordered

/-- The two sets hold the same ones of some identifiers. -/
def AgreeOn (own : ι → Prop) (used other : Finset ι) : Prop := ∀ i, own i → (i ∈ used ↔ i ∈ other)

theorem AgreeOn.union_left {own : ι → Prop} {used other more : Finset ι} (agree : AgreeOn own used other)
    (foreign : ∀ i ∈ more, ¬ own i) : AgreeOn own (used ∪ more) other := by
  intro i owned
  rw [Finset.mem_union, agree i owned]
  constructor
  · rintro (spentBefore | added)
    · exact spentBefore
    · exact absurd owned (foreign i added)
  · exact Or.inl

theorem AgreeOn.union {own : ι → Prop} {used other more : Finset ι} (agree : AgreeOn own used other) :
    AgreeOn own (used ∪ more) (other ∪ more) := by
  intro i owned
  rw [Finset.mem_union, Finset.mem_union, agree i owned]

/-- A request of the batch picks what it would pick if the batch were alone; any other request leaves
the batch's identifiers alone. -/
structure Independent (alone : Finset ι → β → List α) (mine : β → Prop) (own : ι → Prop)
    (request : β) : Prop where
  same : mine request → ∀ used other, AgreeOn own used other → pick used request = alone other request
  foreign : ¬ mine request → ∀ used, ∀ row ∈ pick used request, ¬ own (ident row)

section Batches

variable {pick} {alone : Finset ι → β → List α} {mine : β → Prop} [DecidablePred mine] {own : ι → Prop}
  {requests : List β} (independent : ∀ request ∈ requests, Independent ident pick alone mine own request)
include independent

/-- The turns of a batch are its turns when it is served alone. -/
theorem filter_turns {used other : Finset ι} (agree : AgreeOn own used other) :
    (turns ident pick used requests).filter (fun turn => decide (mine turn.1)) =
      turns ident alone other (requests.filter fun request => decide (mine request)) := by
  induction requests generalizing used other with
  | nil => rfl
  | cons request rest ih =>
    obtain ⟨now, later⟩ := List.forall_mem_cons.mp independent
    by_cases batch : mine request
    · simp only [turns, List.filter_cons, batch, decide_true, if_true]
      rw [now.same batch used other agree, ih later agree.union]
    · simp only [turns, List.filter_cons, batch, decide_false]
      refine ih later (agree.union_left fun i taken => ?_)
      obtain ⟨row, picked, rfl⟩ := mem_idents.mp taken
      exact now.foreign batch used row picked

/-- The batch spends what it spends when it is served alone. -/
theorem agreeOn_spent {used other : Finset ι} (agree : AgreeOn own used other) :
    AgreeOn own (spent ident pick used requests)
      (spent ident alone other (requests.filter fun request => decide (mine request))) := by
  induction requests generalizing used other with
  | nil => exact agree
  | cons request rest ih =>
    obtain ⟨now, later⟩ := List.forall_mem_cons.mp independent
    by_cases batch : mine request
    · simp only [spent, List.filter_cons, batch, decide_true, if_true]
      rw [now.same batch used other agree]
      exact ih later agree.union
    · simp only [spent, List.filter_cons, batch, decide_false]
      refine ih later (agree.union_left fun i taken => ?_)
      obtain ⟨row, picked, rfl⟩ := mem_idents.mp taken
      exact now.foreign batch used row picked

end Batches

section Groups

variable {κ : Type*} [DecidableEq κ] (group : β → κ)

/-- The turns of one group, in order. -/
def groupTurns (k : κ) (served : List (β × List α)) : List (β × List α) :=
  served.filter fun turn => decide (group turn.1 = k)

theorem map_fst_groupTurns (k : κ) (used : Finset ι) (requests : List β) :
    (groupTurns group k (turns ident pick used requests)).map Prod.fst =
      requests.filter fun request => decide (group request = k) := by
  conv_rhs => rw [← map_fst_turns ident pick used requests]
  rw [groupTurns, List.filter_map]
  rfl

theorem length_groupTurns (k : κ) (used : Finset ι) (requests : List β) :
    (groupTurns group k (turns ident pick used requests)).length =
      (requests.filter fun request => decide (group request = k)).length := by
  rw [← map_fst_groupTurns ident pick group k used requests, List.length_map]

/-- Lists with the same items under every key are the same up to their order. -/
theorem perm_of_parts {γ : Type*} (key : γ → κ) {first second : List γ}
    (alike : ∀ k, first.filter (fun item => decide (key item = k)) =
      second.filter fun item => decide (key item = k)) : first.Perm second := by
  classical
  refine List.perm_iff_count.mpr fun item => ?_
  have own : decide (key item = key item) = true := decide_eq_true rfl
  have counted (items : List γ) :
      items.count item = (items.filter fun other => decide (key other = key item)).count item :=
    (List.count_filter (p := fun other : γ => decide (key other = key item)) own).symm
  rw [counted first, counted second, alike]

/-- A turn of the second list that stands, within its group, where the next request of the first list
stands, picks nothing that was spent before that request, if the turns before it are alike. -/
theorem picked_unspent {pick : Finset ι → β → List α}
    (fresh : ∀ used request, ∀ row ∈ pick used request, ident row ∉ used) {prior second : List β}
    (alike : ∀ k, groupTurns group k (turns ident pick ∅ prior) <+:
      groupTurns group k (turns ident pick ∅ second))
    {before after : List (β × List α)} {turn : β × List α}
    (split : turns ident pick ∅ second = before ++ turn :: after)
    (here : groupTurns group (group turn.1) before =
      groupTurns group (group turn.1) (turns ident pick ∅ prior)) :
    ∀ row ∈ turn.2, ident row ∉ spent ident pick ∅ prior := by
  intro row picked taken
  rcases (mem_spent ident pick).mp taken with none | ⟨earlier, served, shares⟩
  · exact (Finset.notMem_empty _ none).elim
  obtain ⟨other, picked', same⟩ := mem_idents.mp shares
  have apart := turns_disjoint ident fresh ∅ second
  rw [split, List.pairwise_append, List.pairwise_cons] at apart
  obtain ⟨-, ⟨behind, -⟩, front⟩ := apart
  by_cases own : group earlier.1 = group turn.1
  · -- The earlier turn stands before this one in both lists.
    have listed : earlier ∈ groupTurns group (group turn.1) before := by
      rw [here]
      exact List.mem_filter.mpr ⟨served, decide_eq_true own⟩
    exact front earlier (List.mem_of_mem_filter listed) turn List.mem_cons_self other picked' row picked same
  · have listed : earlier ∈ before ++ turn :: after := by
      rw [← split]
      refine List.mem_of_mem_filter ((alike (group earlier.1)).subset ?_)
      exact List.mem_filter.mpr ⟨served, decide_eq_true rfl⟩
    rcases List.mem_append.mp listed with early | late
    · exact front earlier early turn List.mem_cons_self other picked' row picked same
    · rcases List.mem_cons.mp late with rfl | later
      · exact own rfl
      · exact behind earlier later row picked other picked' same.symm

/-- In a list whose groups are ranked, a turn of a lower rank than the next request was served before it. -/
theorem mem_turns_of_rank (rank : κ → ℕ) {first second prior later : List β} {request : β}
    (sameGroups : ∀ k, first.filter (fun request => decide (group request = k)) =
      second.filter fun request => decide (group request = k))
    (split : first = prior ++ request :: later)
    (ranked : first.Pairwise fun early late => rank (group early) ≤ rank (group late))
    (alike : ∀ k, groupTurns group k (turns ident pick ∅ prior) <+:
      groupTurns group k (turns ident pick ∅ second)) {turn : β × List α}
    (served : turn ∈ turns ident pick ∅ second) (lower : rank (group turn.1) < rank (group request)) :
    turn ∈ turns ident pick ∅ prior := by
  have none : (request :: later).filter (fun other => decide (group other = group turn.1)) = [] := by
    rw [split, List.pairwise_append, List.pairwise_cons] at ranked
    refine List.filter_eq_nil_iff.mpr fun other member same => ?_
    rw [← of_decide_eq_true same] at lower
    rcases List.mem_cons.mp member with rfl | behind
    · exact lt_irrefl _ lower
    · exact lower.not_ge (ranked.2.1.1 other behind)
  have whole : (groupTurns group (group turn.1) (turns ident pick ∅ prior)).length =
      (groupTurns group (group turn.1) (turns ident pick ∅ second)).length := by
    rw [length_groupTurns, length_groupTurns, ← sameGroups, split, List.filter_append, none, List.append_nil]
  refine List.mem_of_mem_filter (p := fun other => decide (group other.1 = group turn.1)) ?_
  have same := (alike (group turn.1)).eq_of_length whole
  unfold groupTurns at same
  rw [same]
  exact List.mem_filter.mpr ⟨served, decide_eq_true rfl⟩

/-- Where the turns so far are alike, the next request of the first list has its turn in the second one as
the next turn of its group. -/
theorem exists_next_turn {first second prior later : List β} {request : β}
    (sameGroups : ∀ k, first.filter (fun request => decide (group request = k)) =
      second.filter fun request => decide (group request = k))
    (split : first = prior ++ request :: later)
    (alike : groupTurns group (group request) (turns ident pick ∅ prior) <+:
      groupTurns group (group request) (turns ident pick ∅ second)) :
    ∃ before picked after, turns ident pick ∅ second = before ++ (request, picked) :: after ∧
      groupTurns group (group request) before = groupTurns group (group request) (turns ident pick ∅ prior) ∧
      groupTurns group (group request) (turns ident pick ∅ prior) ++ [(request, picked)] <+:
        groupTurns group (group request) (turns ident pick ∅ second) := by
  obtain ⟨rest, whole⟩ := alike
  have listed := congrArg (List.map Prod.fst) whole
  rw [List.map_append, map_fst_groupTurns, map_fst_groupTurns, ← sameGroups, split, List.filter_append,
    List.filter_cons, if_pos (decide_eq_true rfl)] at listed
  obtain ⟨⟨named, picked⟩, others, rfl, same, -⟩ := List.map_eq_cons_iff.mp (List.append_cancel_left listed)
  obtain rfl : request = named := same.symm
  obtain ⟨early, late, parts, front, back⟩ := List.filter_eq_append_iff.mp whole.symm
  obtain ⟨between, after, rfl, foreign, -, -⟩ := List.filter_eq_cons_iff.mp back
  refine ⟨early ++ between, picked, after, by rw [parts, List.append_assoc], ?_, others, ?_⟩
  · rw [groupTurns, List.filter_append, front, List.filter_eq_nil_iff.mpr foreign, List.append_nil]
  · rw [← whole, List.append_assoc, List.singleton_append]

/-- If the next turn of the first list is always that of the second, then all turns are alike. -/
theorem groupTurns_eq_of_step {first second : List β}
    (sameGroups : ∀ k, first.filter (fun request => decide (group request = k)) =
      second.filter fun request => decide (group request = k))
    (step : ∀ prior request later before after picked, first = prior ++ request :: later →
      (∀ k, groupTurns group k (turns ident pick ∅ prior) <+: groupTurns group k (turns ident pick ∅ second)) →
      turns ident pick ∅ second = before ++ (request, picked) :: after →
      groupTurns group (group request) before = groupTurns group (group request) (turns ident pick ∅ prior) →
      pick (spent ident pick ∅ prior) request = picked) :
    ∀ k, groupTurns group k (turns ident pick ∅ first) = groupTurns group k (turns ident pick ∅ second) := by
  have prefixes : ∀ prior later, first = prior ++ later → ∀ k,
      groupTurns group k (turns ident pick ∅ prior) <+: groupTurns group k (turns ident pick ∅ second) := by
    intro prior
    induction prior using List.reverseRecOn with
    | nil => exact fun _ _ _ => List.nil_prefix
    | append_singleton prior request ih =>
      intro later split k
      rw [List.append_assoc, List.singleton_append] at split
      have alike := ih (request :: later) split
      obtain ⟨before, picked, after, cut, here, next⟩ :=
        exists_next_turn ident pick group sameGroups split (alike (group request))
      have now := step prior request later before after picked split alike cut here
      rw [turns_append, groupTurns, List.filter_append]
      by_cases own : group request = k
      · subst own
        simpa [groupTurns, turns, now] using next
      · simpa [groupTurns, turns, own] using alike k
  intro k
  refine (prefixes first [] (List.append_nil _).symm k).eq_of_length ?_
  rw [length_groupTurns, length_groupTurns, sameGroups]

end Groups

section Tagged

variable {τ γ : Type*} [DecidableEq τ]

/-- The items of one batch, in order. -/
def ofBatch (batch : τ) (tagged : List (τ × α)) : List α :=
  (tagged.filter fun row => decide (row.1 = batch)).map Prod.snd

theorem mem_ofBatch {batch : τ} {tagged : List (τ × α)} {item : α} :
    item ∈ ofBatch batch tagged ↔ (batch, item) ∈ tagged := by
  simp [ofBatch]

/-- The list is an interleaving of the parts. -/
def WovenFrom (parts : τ → List α) (whole : List α) : Prop :=
  ∃ tagged : List (τ × α), tagged.map Prod.snd = whole ∧ ∀ batch, ofBatch batch tagged = parts batch

/-- What tagged items contribute to a list is woven from what each batch contributes. -/
theorem wovenFrom_filterMap (tag : γ → τ) (f : γ → Option α) (items : List γ) :
    WovenFrom (fun batch => (items.filter fun item => decide (tag item = batch)).filterMap f)
      (items.filterMap f) := by
  refine ⟨items.filterMap fun item => (f item).map (Prod.mk (tag item)), ?_, fun batch => ?_⟩
  · rw [List.map_filterMap]
    simp only [Option.map_map, Function.comp_def, Option.map_id']
  · dsimp only
    rw [ofBatch, List.filter_filterMap, List.map_filterMap, List.filterMap_filter]
    congr 1
    funext item
    by_cases same : tag item = batch <;> cases value : f item <;> simp [same]

end Tagged

end Allocation
