import Mathlib

/-! # Greedy one-to-one matching

Items that join a left and a right end are looked at one after another. An item is taken when both of
its ends are free, and its ends are not free from then on; an item without ends is passed over. The
items that are taken have distinct ends on both sides, and one that was passed over although its ends
were free at the start shares an end with an item that was taken before it.
-/

namespace GreedyMatching

variable {α ι κ : Type*} [DecidableEq ι] [DecidableEq κ]

/-- The ends that no item has taken. -/
structure Free (ι κ : Type*) where
  left : Finset ι
  right : Finset κ

namespace Free

/-- Both ends are free. -/
def Joins (free : Free ι κ) (pair : ι × κ) : Prop := pair.1 ∈ free.left ∧ pair.2 ∈ free.right

instance (free : Free ι κ) (pair : ι × κ) : Decidable (free.Joins pair) :=
  inferInstanceAs (Decidable (_ ∧ _))

/-- What is free once a turn took its ends, if it took any. -/
def after (free : Free ι κ) : Option (ι × κ) → Free ι κ
  | none => free
  | some pair => ⟨free.left.erase pair.1, free.right.erase pair.2⟩

theorem joins_after_some {free : Free ι κ} {taken pair : ι × κ} :
    (free.after (some taken)).Joins pair ↔
      (pair.1 ≠ taken.1 ∧ pair.2 ≠ taken.2) ∧ free.Joins pair := by
  simp only [Joins, after, Finset.mem_erase]
  tauto

theorem Joins.of_after {free : Free ι κ} {pair : ι × κ} {turn : Option (ι × κ)}
    (joins : (free.after turn).Joins pair) : free.Joins pair := by
  cases turn with
  | none => exact joins
  | some taken => exact (joins_after_some.mp joins).2

end Free

/-- The ends are different on both sides. -/
def Apart (first second : ι × κ) : Prop := first.1 ≠ second.1 ∧ first.2 ≠ second.2

variable (ends : α → Option (ι × κ))

/-- The ends an item takes at its turn. -/
def taken (free : Free ι κ) (item : α) : Option (ι × κ) :=
  (ends item).filter fun pair => decide (free.Joins pair)

/-- Every item with the ends it took. -/
def turns : Free ι κ → List α → List (α × Option (ι × κ))
  | _, [] => []
  | free, item :: rest => (item, taken ends free item) :: turns (free.after (taken ends free item)) rest

/-- What is free once all items had their turn. -/
def remaining (free : Free ι κ) (items : List α) : Free ι κ :=
  items.foldl (fun free item => free.after (taken ends free item)) free

variable {ends} {free : Free ι κ} {items : List α} {item : α} {pair : ι × κ}

theorem taken_eq_some_iff : taken ends free item = some pair ↔ ends item = some pair ∧ free.Joins pair := by
  simp [taken, Option.filter_eq_some_iff]

@[simp] theorem map_fst_turns : (turns ends free items).map Prod.fst = items := by
  induction items generalizing free with
  | nil => rfl
  | cons item rest ih => simp only [turns, List.map_cons, ih]

/-- What is taken was asked for, and free at the start. -/
theorem ends_of_mem_turns (member : (item, some pair) ∈ turns ends free items) :
    ends item = some pair ∧ free.Joins pair := by
  induction items generalizing free with
  | nil => cases member
  | cons head rest ih =>
    rcases List.mem_cons.mp member with now | later
    · obtain ⟨rfl, took⟩ := Prod.mk.inj now
      exact taken_eq_some_iff.mp took.symm
    · obtain ⟨asked, joins⟩ := ih later
      exact ⟨asked, joins.of_after⟩

/-- No end is taken twice. -/
theorem turns_pairwise : (turns ends free items).Pairwise fun first second =>
    ∀ pair ∈ first.2, ∀ other ∈ second.2, Apart pair other := by
  induction items generalizing free with
  | nil => exact .nil
  | cons item rest ih =>
    rw [turns, List.pairwise_cons]
    refine ⟨?_, ih⟩
    rintro ⟨later, _⟩ member pair (took : taken ends free item = some pair) other rfl
    rw [took] at member
    obtain ⟨left, right⟩ := (Free.joins_after_some.mp (ends_of_mem_turns member).2).1
    exact ⟨left.symm, right.symm⟩

/-- An item is passed over because its ends are not free, or because an earlier item took one. -/
theorem passed_over {before later : List (α × Option (ι × κ))}
    (split : turns ends free items = before ++ (item, none) :: later) (asked : ends item = some pair)
    (joins : free.Joins pair) :
    ∃ earlier ∈ before, ∃ taken ∈ earlier.2, ¬ Apart taken pair := by
  induction items generalizing free before with
  | nil => simp [turns] at split
  | cons head rest ih =>
    cases before with
    | nil =>
      obtain ⟨now, -⟩ := List.cons.inj split
      obtain ⟨rfl, idle⟩ := Prod.mk.inj now
      rw [taken_eq_some_iff.mpr ⟨asked, joins⟩] at idle
      cases idle
    | cons first before =>
      obtain ⟨now, next⟩ := List.cons.inj split
      by_cases still : (free.after (taken ends free head)).Joins pair
      · obtain ⟨earlier, member, blocks⟩ := ih next still
        exact ⟨earlier, List.mem_cons_of_mem _ member, blocks⟩
      · refine ⟨first, List.mem_cons_self, ?_⟩
        rw [← now]
        cases took : taken ends free head with
        | none =>
          rw [took] at still
          exact (still joins).elim
        | some taken =>
          rw [took, Free.joins_after_some] at still
          exact ⟨taken, rfl, fun apart => still ⟨⟨apart.1.symm, apart.2.symm⟩, joins⟩⟩

/-- In a sorted list an item is passed over in favour of one that is sorted before it. -/
theorem passed_over_of_sorted {precedes : α → α → Prop} (sorted : items.Pairwise precedes)
    (idle : (item, none) ∈ turns ends free items) (asked : ends item = some pair) (joins : free.Joins pair) :
    ∃ other taken, (other, some taken) ∈ turns ends free items ∧ precedes other item ∧
      ¬ Apart taken pair := by
  obtain ⟨before, later, split⟩ := List.append_of_mem idle
  obtain ⟨⟨other, _⟩, member, taken, rfl, blocks⟩ := passed_over split asked joins
  refine ⟨other, taken, ?_, ?_, blocks⟩
  · rw [split]
    exact List.mem_append_left _ member
  · have looked := congrArg (List.map Prod.fst) split
    rw [map_fst_turns, List.map_append] at looked
    rw [looked, List.pairwise_append] at sorted
    exact sorted.2.2 other (List.mem_map_of_mem (f := Prod.fst) member) item List.mem_cons_self

/-- What is free at the end is what was free at the start and no turn took. -/
theorem joins_remaining_iff : (remaining ends free items).Joins pair ↔
    free.Joins pair ∧ ∀ turn ∈ turns ends free items, ∀ taken ∈ turn.2, Apart taken pair := by
  induction items generalizing free with
  | nil => simp [remaining, turns]
  | cons item rest ih =>
    rw [turns, List.forall_mem_cons, remaining, List.foldl_cons, ← remaining, ih]
    cases took : taken ends free item with
    | none => simp [Free.after]
    | some taken =>
      simp only [Free.joins_after_some, Option.mem_some_iff, forall_eq', Apart, ne_comm]
      tauto

/-- No two items ask for one right end. -/
def RightsDistinct (ends : α → Option (ι × κ)) (items : List α) : Prop :=
  items.Pairwise fun first second => ∀ pair ∈ ends first, ∀ other ∈ ends second, pair.2 ≠ other.2

/-- Without competition for right ends, a left end that was asked for and free has been taken. -/
theorem exists_taken_left (rights : RightsDistinct ends items) (member : item ∈ items)
    (asked : ends item = some pair) (joins : free.Joins pair) :
    ∃ turn ∈ turns ends free items, ∃ taken ∈ turn.2, taken.1 = pair.1 := by
  have looked : (turns ends free items).map Prod.fst = items := map_fst_turns
  rw [← looked] at member
  obtain ⟨⟨_, turn⟩, present, rfl⟩ := List.mem_map.mp member
  cases turn with
  | some taken =>
    have same := (ends_of_mem_turns present).1.symm.trans asked
    exact ⟨_, present, taken, rfl, congrArg Prod.fst (Option.some.inj same)⟩
  | none =>
    obtain ⟨before, later, split⟩ := List.append_of_mem present
    obtain ⟨⟨earlier, _⟩, first, taken, rfl, meets⟩ := passed_over split asked joins
    have listed : (earlier, some taken) ∈ turns ends free items := split ▸ List.mem_append_left _ first
    rw [split, List.map_append, List.map_cons] at looked
    rw [RightsDistinct, ← looked, List.pairwise_append] at rights
    have apart := rights.2.2 earlier (List.mem_map_of_mem (f := Prod.fst) first) _ List.mem_cons_self taken
      (ends_of_mem_turns listed).1 pair asked
    exact ⟨_, listed, taken, rfl, by_contra fun left => meets ⟨left, apart⟩⟩

/-- Where every item asks for free ends and no two for one right end, an item is taken exactly when it
is the first to ask for its left end. -/
theorem taken_remaining_iff {prior : List α} (rights : RightsDistinct ends (prior ++ [item]))
    (offered : ∀ asker ∈ prior ++ [item], ∀ pair ∈ ends asker, free.Joins pair) :
    taken ends (remaining ends free prior) item = some pair ↔
      ends item = some pair ∧ ∀ earlier ∈ prior, ∀ other ∈ ends earlier, other.1 ≠ pair.1 := by
  rw [taken_eq_some_iff, joins_remaining_iff]
  obtain ⟨early, -, last⟩ := List.pairwise_append.mp rights
  constructor
  · rintro ⟨asked, -, apart⟩
    refine ⟨asked, fun earlier member other wanted same => ?_⟩
    obtain ⟨turn, present, taken, took, left⟩ := exists_taken_left early member wanted
      (offered earlier (List.mem_append_left _ member) other wanted)
    exact (apart turn present taken took).1 (left.trans same)
  · rintro ⟨asked, leads⟩
    refine ⟨asked, offered item (List.mem_append_right _ List.mem_cons_self) pair asked, ?_⟩
    rintro ⟨earlier, turn⟩ present taken rfl
    have wanted := (ends_of_mem_turns present).1
    have member : earlier ∈ prior := by
      have listed := List.mem_map_of_mem (f := Prod.fst) present
      rwa [map_fst_turns] at listed
    exact ⟨leads earlier member taken wanted,
      last earlier member item List.mem_cons_self taken wanted pair asked⟩

end GreedyMatching
