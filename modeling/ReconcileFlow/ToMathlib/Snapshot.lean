import Mathlib

/-! # Recording a snapshot over a keyed view

A view assigns each key at most one value. Recording a snapshot overwrites the keys of its entries,
the last entry of a key winning; closing then applies `close` to every key the snapshot does not
mention. When `close` is idempotent, so is recording and closing one snapshot
(`closeAbsent_record_idem`), and a second recording finds every other key closed already.
-/

namespace Snapshot

variable {κ σ : Type*} [DecidableEq κ]

/-- Overwrite the keys of the entries, in order. -/
def record (entries : List (κ × σ)) (view : κ → Option σ) : κ → Option σ :=
  entries.foldl (fun view entry => Function.update view entry.1 (some entry.2)) view

/-- Close every key that is not present. -/
def closeAbsent (close : σ → σ) (present : List κ) (view : κ → Option σ) : κ → Option σ :=
  fun key => if key ∈ present then view key else (view key).map close

theorem closeAbsent_of_mem {close : σ → σ} {present : List κ} {view : κ → Option σ} {key : κ}
    (mentioned : key ∈ present) : closeAbsent close present view key = view key := if_pos mentioned

theorem closeAbsent_of_notMem {close : σ → σ} {present : List κ} {view : κ → Option σ} {key : κ}
    (absent : key ∉ present) : closeAbsent close present view key = (view key).map close := if_neg absent

theorem record_append (first second : List (κ × σ)) (view : κ → Option σ) :
    record (first ++ second) view = record second (record first view) := List.foldl_append

/-- The last value recorded for a key. -/
def lastValue (entries : List (κ × σ)) (key : κ) : Option σ := entries.reverse.lookup key

theorem lastValue_eq_none_iff {entries : List (κ × σ)} {key : κ} :
    lastValue entries key = none ↔ key ∉ entries.map Prod.fst := by
  unfold lastValue
  rw [List.lookup_eq_none_iff]
  simp only [List.mem_reverse, bne_iff_ne, List.mem_map, not_exists, not_and]
  exact forall₂_congr fun entry member => ne_comm

theorem mem_of_lastValue {entries : List (κ × σ)} {key : κ} {value : σ}
    (last : lastValue entries key = some value) : (key, value) ∈ entries := by
  obtain ⟨before, after, same, -⟩ := List.lookup_eq_some_iff.mp last
  rw [← List.mem_reverse, same]
  exact List.mem_append_right _ List.mem_cons_self

/-- A recorded key reads as its last entry, any other key as before. -/
theorem record_apply (entries : List (κ × σ)) (view : κ → Option σ) (key : κ) :
    record entries view key = (lastValue entries key).or (view key) := by
  induction entries using List.reverseRecOn with
  | nil => rfl
  | append_singleton entries last ih =>
    rw [record_append]
    unfold lastValue at ih ⊢
    rw [List.reverse_append, List.reverse_singleton, List.singleton_append, List.lookup_cons]
    change Function.update _ last.1 _ key = _
    by_cases same : key = last.1
    · rw [same, Function.update_self, beq_self_eq_true]
      rfl
    · rw [Function.update_of_ne same, ih, beq_eq_false_iff_ne.mpr same]

theorem record_of_notMem {entries : List (κ × σ)} {key : κ} (absent : key ∉ entries.map Prod.fst)
    (view : κ → Option σ) : record entries view key = view key := by
  rw [record_apply, lastValue_eq_none_iff.mpr absent, Option.none_or]

/-- A recorded key reads as its last entry, whatever the view before. -/
theorem record_of_lastValue {entries : List (κ × σ)} {key : κ} {value : σ}
    (last : lastValue entries key = some value) (view : κ → Option σ) :
    record entries view key = some value := by
  rw [record_apply, last, Option.some_or]

/-- Every mentioned key has a last entry. -/
theorem exists_lastValue {entries : List (κ × σ)} {key : κ} (present : key ∈ entries.map Prod.fst) :
    ∃ value, lastValue entries key = some value := by
  rw [← Option.isSome_iff_exists, Option.isSome_iff_ne_none]
  exact fun none => lastValue_eq_none_iff.mp none present

/-- A recorded key no longer depends on the view before. -/
theorem record_of_mem {entries : List (κ × σ)} {key : κ} (present : key ∈ entries.map Prod.fst)
    (view other : κ → Option σ) : record entries view key = record entries other key := by
  obtain ⟨value, last⟩ := exists_lastValue present
  rw [record_of_lastValue last, record_of_lastValue last]

/-- Record a snapshot and close the keys it does not mention. -/
def sync (close : σ → σ) (entries : List (κ × σ)) (view : κ → Option σ) : κ → Option σ :=
  closeAbsent close (entries.map Prod.fst) (record entries view)

theorem sync_of_lastValue {close : σ → σ} {entries : List (κ × σ)} {key : κ} {value : σ}
    (last : lastValue entries key = some value) (view : κ → Option σ) :
    sync close entries view key = some value := by
  have mentioned : key ∈ entries.map Prod.fst := List.mem_map_of_mem (mem_of_lastValue last)
  unfold sync
  rw [closeAbsent_of_mem mentioned, record_of_lastValue last]

theorem sync_of_notMem {close : σ → σ} {entries : List (κ × σ)} {key : κ}
    (absent : key ∉ entries.map Prod.fst) (view : κ → Option σ) :
    sync close entries view key = (view key).map close := by
  unfold sync
  rw [closeAbsent_of_notMem absent, record_of_notMem absent]

/-- After a snapshot of open values the open keys are exactly the mentioned ones. -/
theorem sync_open_iff {close : σ → σ} {Open : σ → Prop} (closes : ∀ value, ¬Open (close value))
    {entries : List (κ × σ)} (opens : ∀ entry ∈ entries, Open entry.2) (view : κ → Option σ) (key : κ) :
    (∃ value, sync close entries view key = some value ∧ Open value) ↔ key ∈ entries.map Prod.fst := by
  constructor
  · rintro ⟨value, stored, isOpen⟩
    by_contra absent
    rw [sync_of_notMem absent, Option.map_eq_some_iff] at stored
    obtain ⟨old, -, rfl⟩ := stored
    exact closes old isOpen
  · intro mentioned
    obtain ⟨value, last⟩ := exists_lastValue mentioned
    exact ⟨value, sync_of_lastValue last view, opens _ (mem_of_lastValue last)⟩

/-- The view already says what the snapshot records, and everything else is closed. -/
structure Reflects (close : σ → σ) (entries : List (κ × σ)) (view : κ → Option σ) : Prop where
  recorded : ∀ key value, lastValue entries key = some value → view key = some value
  closed : ∀ key value, key ∉ entries.map Prod.fst → view key = some value → close value = value

/-- A snapshot changes nothing exactly when the view reflects it. -/
theorem sync_eq_self_iff {close : σ → σ} {entries : List (κ × σ)} {view : κ → Option σ} :
    sync close entries view = view ↔ Reflects close entries view := by
  constructor
  · intro same
    refine ⟨fun key value last => ?_, fun key value absent stored => ?_⟩
    · rw [← same, sync_of_lastValue last]
    · have here := congrFun same key
      rw [sync_of_notMem absent, stored, Option.map_some, Option.some.injEq] at here
      exact here
  · intro reflects
    funext key
    by_cases mentioned : key ∈ entries.map Prod.fst
    · obtain ⟨value, last⟩ := exists_lastValue mentioned
      rw [sync_of_lastValue last, reflects.recorded key value last]
    · rw [sync_of_notMem mentioned]
      cases stored : view key with
      | none => rfl
      | some value => rw [Option.map_some, reflects.closed key value mentioned stored]

/-- Recording and closing the same snapshot a second time changes nothing. -/
theorem closeAbsent_record_idem {close : σ → σ} (idem : ∀ value, close (close value) = close value)
    (entries : List (κ × σ)) (view : κ → Option σ) :
    let sync := fun view => closeAbsent close (entries.map Prod.fst) (record entries view)
    sync (sync view) = sync view := by
  intro sync
  funext key
  dsimp only [sync]
  rcases em (key ∈ entries.map Prod.fst) with present | absent
  · rw [closeAbsent_of_mem present, closeAbsent_of_mem present]
    exact record_of_mem present _ _
  · rw [closeAbsent_of_notMem absent, record_of_notMem absent, closeAbsent_of_notMem absent,
      Option.map_map, show close ∘ close = close from funext idem]

/-- Before the second closing, every absent key is closed. -/
theorem record_closeAbsent_of_notMem {close : σ → σ} (idem : ∀ value, close (close value) = close value)
    {entries : List (κ × σ)} {view : κ → Option σ} {key : κ} (absent : key ∉ entries.map Prod.fst)
    {value : σ} (stored : record entries (closeAbsent close (entries.map Prod.fst) view) key = some value) :
    close value = value := by
  rw [record_of_notMem absent, closeAbsent_of_notMem absent, Option.map_eq_some_iff] at stored
  obtain ⟨old, -, rfl⟩ := stored
  exact idem old

theorem lastValue_append (first second : List (κ × σ)) (key : κ) :
    lastValue (first ++ second) key = (lastValue second key).or (lastValue first key) := by
  unfold lastValue
  rw [List.reverse_append, List.lookup_append]

/-- Entries under other keys do not matter. -/
theorem lastValue_without {first gone later : List (κ × σ)} {key : κ} (absent : key ∉ gone.map Prod.fst) :
    lastValue (first ++ gone ++ later) key = lastValue (first ++ later) key := by
  rw [lastValue_append, lastValue_append, lastValue_append, lastValue_eq_none_iff.mpr absent, Option.none_or]

/-- When the next snapshot leaves some entries out, a key outside these stays as it is. -/
theorem sync_without_of_notMem {close : σ → σ} (idem : ∀ value, close (close value) = close value)
    {first gone later : List (κ × σ)} {key : κ} (absent : key ∉ gone.map Prod.fst) (view : κ → Option σ) :
    sync close (first ++ later) (sync close (first ++ gone ++ later) view) key =
      sync close (first ++ gone ++ later) view key := by
  by_cases mentioned : key ∈ (first ++ later).map Prod.fst
  · obtain ⟨value, last⟩ := exists_lastValue mentioned
    rw [sync_of_lastValue last, sync_of_lastValue ((lastValue_without absent).trans last)]
  · have before : key ∉ (first ++ gone ++ later).map Prod.fst := by
      rwa [← lastValue_eq_none_iff, lastValue_without absent, lastValue_eq_none_iff]
    rw [sync_of_notMem mentioned, sync_of_notMem before, Option.map_map, show close ∘ close = close from funext idem]

/-- A key that only the left-out entries mentioned is closed. -/
theorem sync_without_of_mem (close : σ → σ) {first gone later : List (κ × σ)} {key : κ}
    (present : key ∈ gone.map Prod.fst) (absent : key ∉ (first ++ later).map Prod.fst) (view : κ → Option σ) :
    ∃ entry ∈ gone, entry.1 = key ∧
      sync close (first ++ later) (sync close (first ++ gone ++ later) view) key = some (close entry.2) := by
  obtain ⟨value, last⟩ := exists_lastValue present
  have only : lastValue (first ++ gone ++ later) key = some value := by
    rw [List.map_append, List.mem_append, not_or] at absent
    rw [lastValue_append, lastValue_append, lastValue_eq_none_iff.mpr absent.2, Option.none_or, last, Option.some_or]
  refine ⟨(key, value), mem_of_lastValue last, rfl, ?_⟩
  rw [sync_of_notMem absent, sync_of_lastValue only, Option.map_some]

theorem closeAbsent_comm (close : σ → σ) (present other : List κ) (view : κ → Option σ) :
    closeAbsent close present (closeAbsent close other view) =
      closeAbsent close other (closeAbsent close present view) := by
  funext key
  unfold closeAbsent
  split_ifs <;> rfl

/-- Both snapshots are recorded, one after the other, before either closes what it does not mention. -/
def overlap (close : σ → σ) (first second : List (κ × σ)) (view : κ → Option σ) : κ → Option σ :=
  closeAbsent close (second.map Prod.fst)
    (closeAbsent close (first.map Prod.fst) (record second (record first view)))

/-- Outside the second snapshot the overlap does what the two snapshots do in turn. -/
theorem overlap_of_notMem {close : σ → σ} {first second : List (κ × σ)} {key : κ}
    (absent : key ∉ second.map Prod.fst) (view : κ → Option σ) :
    overlap close first second view key = sync close second (sync close first view) key := by
  rw [sync_of_notMem absent]
  unfold overlap sync
  rw [closeAbsent_of_notMem absent]
  unfold closeAbsent
  rw [record_of_notMem absent]

section Overlap

variable {close : σ → σ} {Open : σ → Prop} (closes : ∀ value, ¬Open (close value))
  {first second : List (κ × σ)}
include closes

/-- The overlap is first and then second exactly when the second snapshot mentions no key of its own. -/
theorem overlap_eq_sync_iff (opens : ∀ entry ∈ second, Open entry.2) (view : κ → Option σ) :
    overlap close first second view = sync close second (sync close first view) ↔
      second.map Prod.fst ⊆ first.map Prod.fst := by
  have mentioned {key : κ} {value : σ} (last : lastValue second key = some value) :
      overlap close first second view key =
        if key ∈ first.map Prod.fst then some value else some (close value) := by
    unfold overlap
    rw [closeAbsent_of_mem (List.mem_map_of_mem (mem_of_lastValue last)), closeAbsent,
      record_of_lastValue last]
    rfl
  constructor
  · intro same key present
    obtain ⟨value, last⟩ := exists_lastValue present
    by_contra absent
    have closed := congrFun same key
    rw [mentioned last, if_neg absent, sync_of_lastValue last, Option.some.injEq] at closed
    have isOpen : Open value := opens _ (mem_of_lastValue last)
    rw [← closed] at isOpen
    exact closes value isOpen
  · intro subset
    funext key
    by_cases present : key ∈ second.map Prod.fst
    · obtain ⟨value, last⟩ := exists_lastValue present
      rw [mentioned last, if_pos (subset present), sync_of_lastValue last]
    · exact overlap_of_notMem present view

/-- The overlap is second and then first exactly when the second snapshot says the same as the first
about every key of the first. -/
theorem overlap_eq_swapped_iff (opens : ∀ entry ∈ first, Open entry.2) (view : κ → Option σ) :
    overlap close first second view = sync close first (sync close second view) ↔
      ∀ key ∈ first.map Prod.fst, lastValue second key = lastValue first key := by
  have elsewhere {key : κ} (absent : key ∉ first.map Prod.fst) :
      overlap close first second view key = sync close first (sync close second view) key := by
    rw [sync_of_notMem absent]
    unfold overlap sync closeAbsent
    rw [if_neg absent, record_apply second, record_of_notMem absent, ← record_apply]
    split_ifs <;> rfl
  have mentioned {key : κ} (present : key ∈ first.map Prod.fst) :
      overlap close first second view key =
        if key ∈ second.map Prod.fst then lastValue second key else (lastValue first key).map close := by
    obtain ⟨value, last⟩ := exists_lastValue present
    unfold overlap
    by_cases again : key ∈ second.map Prod.fst
    · obtain ⟨other, lastOther⟩ := exists_lastValue again
      rw [if_pos again, closeAbsent_of_mem again, closeAbsent_of_mem present, record_of_lastValue lastOther,
        lastOther]
    · rw [if_neg again, closeAbsent_of_notMem again, closeAbsent_of_mem present, record_of_notMem again,
        record_of_lastValue last, last]
  constructor
  · intro same key present
    obtain ⟨value, last⟩ := exists_lastValue present
    have equal := congrFun same key
    rw [mentioned present, sync_of_lastValue last] at equal
    split_ifs at equal with again
    · rw [equal, last]
    · rw [last, Option.map_some, Option.some.injEq] at equal
      have isOpen : Open value := opens _ (mem_of_lastValue last)
      rw [← equal] at isOpen
      exact (closes value isOpen).elim
  · intro agree
    funext key
    by_cases present : key ∈ first.map Prod.fst
    · obtain ⟨value, last⟩ := exists_lastValue present
      have again : key ∈ second.map Prod.fst := by
        by_contra absent
        rw [← agree key present, lastValue_eq_none_iff.mpr absent] at last
        cases last
      rw [mentioned present, if_pos again, agree key present, last, sync_of_lastValue last]
    · exact elsewhere present

end Overlap

end Snapshot
