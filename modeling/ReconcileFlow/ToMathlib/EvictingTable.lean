import ReconcileFlow.ToMathlib.KeyedTable

/-! # Keyed tables in order of recency

Two operations that turn an insertion-ordered dictionary into a cache: `moveToEnd` makes a stored
key the most recent one, and `evict` drops the oldest rows until a bound is met. Moving keeps the
rows, evicting keeps the newest ones, and the number of rows after each operation is known exactly.

`NewerWithin` bounds the keys of the rows newer than a given one. Writing another key adds that key at
most, and a row with fewer newer keys than the bound survives every eviction.
-/

namespace KeyedTable

variable {ρ κ : Type*} {key : ρ → κ}

/-- Drop rows from the front while there are more than `bound`. -/
def evictRows (bound : ℕ) : List ρ → List ρ
  | [] => []
  | head :: rest => if bound < (head :: rest).length then evictRows bound rest else head :: rest

theorem evictRows_eq_drop (bound : ℕ) (rows : List ρ) :
    evictRows bound rows = rows.drop (rows.length - bound) := by
  induction rows with
  | nil => simp [evictRows]
  | cons head rest ih =>
    unfold evictRows
    split
    · next above =>
      rw [List.length_cons] at above
      rw [ih, List.length_cons, Nat.succ_sub (by omega), List.drop_succ_cons]
    · next within => rw [Nat.sub_eq_zero_of_le (by omega), List.drop_zero]

/-- Keep the newest `bound` rows. -/
def evict (table : KeyedTable key) (bound : ℕ) : KeyedTable key where
  rows := evictRows bound table.rows
  unique := by
    rw [evictRows_eq_drop]
    exact table.unique.sublist ((List.drop_sublist ..).map key)

theorem rows_evict (table : KeyedTable key) (bound : ℕ) :
    (table.evict bound).rows = table.rows.drop (table.rows.length - bound) :=
  evictRows_eq_drop bound table.rows

theorem length_evict (table : KeyedTable key) (bound : ℕ) :
    (table.evict bound).rows.length = min table.rows.length bound := by
  rw [rows_evict, List.length_drop]
  omega

variable [DecidableEq κ]

/-- Put the row of a key behind all others; an absent key moves nothing. -/
def moveToEnd (table : KeyedTable key) (k : κ) : KeyedTable key where
  rows := (table.erase k).rows ++ (table.find? k).toList
  unique := by
    rw [List.map_append, List.nodup_append]
    refine ⟨(table.erase k).unique, ?_, ?_⟩
    · cases table.find? k <;> simp
    · rintro _ kept _ moved rfl
      obtain ⟨row, present, rfl⟩ := List.mem_map.mp moved
      obtain ⟨-, found⟩ := find?_eq_some_iff.mp (Option.mem_toList.mp present)
      obtain ⟨other, stored, same⟩ := List.mem_map.mp kept
      exact (mem_erase.mp stored).2 (same.trans found)

/-- Moving reorders the rows and does nothing else. -/
theorem moveToEnd_perm (table : KeyedTable key) (k : κ) : (table.moveToEnd k).rows.Perm table.rows := by
  change ((table.erase k).rows ++ (table.find? k).toList).Perm table.rows
  cases found : table.find? k with
  | some row =>
    exact List.perm_append_comm.trans (perm_cons_erase found).symm
  | none =>
    have same : (table.erase k).rows = table.rows :=
      List.filter_eq_self.mpr fun row member => by simpa using find?_eq_none_iff.mp found row member
    rw [same, Option.toList_none, List.append_nil]

@[simp] theorem length_moveToEnd (table : KeyedTable key) (k : κ) :
    (table.moveToEnd k).rows.length = table.rows.length := (table.moveToEnd_perm k).length_eq

/-- Only a new key makes the table longer. -/
theorem length_put (table : KeyedTable key) (row : ρ) :
    (table.put row).rows.length =
      if key row ∈ table.rows.map key then table.rows.length else table.rows.length + 1 := by
  have keys := congrArg List.length (@map_key_putRows _ _ key _ row table.rows)
  rw [List.length_map] at keys
  rw [put, keys]
  split <;> simp

/-- The row is stored, and the rows newer than it have keys among `newer`. -/
def NewerWithin (table : KeyedTable key) (row : ρ) (newer : Finset κ) : Prop :=
  ∃ older rest, table.rows = older ++ row :: rest ∧ ∀ other ∈ rest, key other ∈ newer

theorem find?_moveToEnd (table : KeyedTable key) (k other : κ) :
    (table.moveToEnd k).find? other = table.find? other := by
  refine Option.ext fun row => ?_
  rw [find?_eq_some_iff, find?_eq_some_iff, (table.moveToEnd_perm k).mem_iff]

theorem find?_evict_of_some {table : KeyedTable key} {bound : ℕ} {k : κ} {row : ρ}
    (found : (table.evict bound).find? k = some row) : table.find? k = some row := by
  rw [find?_eq_some_iff, rows_evict] at found
  exact find?_eq_some_iff.mpr ⟨List.mem_of_mem_drop found.1, found.2⟩

theorem mem_putRows {row other : ρ} {rows : List ρ} (member : other ∈ putRows key row rows) :
    other = row ∨ other ∈ rows := by
  induction rows with
  | nil => exact .inl (List.mem_singleton.mp member)
  | cons head rest ih =>
    unfold putRows at member
    split at member
    · exact (List.mem_cons.mp member).imp_right (List.mem_cons_of_mem head)
    · rcases List.mem_cons.mp member with rfl | later
      · exact .inr List.mem_cons_self
      · exact (ih later).imp_right (List.mem_cons_of_mem head)

namespace NewerWithin

variable {table : KeyedTable key} {row : ρ} {newer : Finset κ}

theorem find? (within : table.NewerWithin row newer) : table.find? (key row) = some row := by
  obtain ⟨older, rest, rows, -⟩ := within
  refine find?_eq_some_iff.mpr ⟨?_, rfl⟩
  rw [rows]
  exact List.mem_append_right older List.mem_cons_self

/-- A row that was just written and moved is the newest one. -/
theorem of_put_moveToEnd (table : KeyedTable key) (row : ρ) :
    ((table.put row).moveToEnd (key row)).NewerWithin row ∅ := by
  refine ⟨((table.put row).erase (key row)).rows, [], ?_, fun _ none => (List.not_mem_nil none).elim⟩
  change _ ++ ((table.put row).find? (key row)).toList = _
  rw [find?_put, if_pos rfl, Option.toList_some]

theorem put (within : table.NewerWithin row newer) {other : ρ} (different : key other ≠ key row) :
    (table.put other).NewerWithin row (insert (key other) newer) := by
  obtain ⟨older, rest, rows, among⟩ := within
  change ∃ before after, putRows key other table.rows = before ++ row :: after ∧ _
  rw [rows]
  clear rows
  induction older with
  | nil =>
    refine ⟨[], putRows key other rest, ?_, fun next member => ?_⟩
    · rw [List.nil_append, putRows, if_neg (Ne.symm different), List.nil_append]
    · rcases mem_putRows member with rfl | later
      · exact Finset.mem_insert_self _ _
      · exact Finset.mem_insert_of_mem (among next later)
  | cons head older ih =>
    obtain ⟨before, after, written, among'⟩ := ih
    rw [List.cons_append, putRows]
    split
    · exact ⟨other :: older, rest, rfl, fun next member => Finset.mem_insert_of_mem (among next member)⟩
    · exact ⟨head :: before, after, by rw [written, List.cons_append], among'⟩

theorem moveToEnd (within : table.NewerWithin row newer) {k : κ} (different : key row ≠ k) :
    (table.moveToEnd k).NewerWithin row (insert k newer) := by
  obtain ⟨older, rest, rows, among⟩ := within
  let kept : ρ → Bool := fun other => decide (key other ≠ k)
  have stays : kept row = true := decide_eq_true different
  refine ⟨older.filter kept, rest.filter kept ++ (table.find? k).toList, ?_, fun next member => ?_⟩
  · change table.rows.filter kept ++ (table.find? k).toList = _
    rw [rows, List.filter_append, List.filter_cons_of_pos stays, List.append_assoc]
    rfl
  · rcases List.mem_append.mp member with stayed | moved
    · exact Finset.mem_insert_of_mem (among next (List.mem_of_mem_filter stayed))
    · rw [(find?_eq_some_iff.mp (Option.mem_toList.mp moved)).2]
      exact Finset.mem_insert_self _ _

/-- Fewer newer keys than the bound: the row survives. -/
theorem evict (within : table.NewerWithin row newer) {bound : ℕ} (few : newer.card < bound) :
    (table.evict bound).NewerWithin row newer := by
  obtain ⟨older, rest, rows, among⟩ := within
  have distinct : (rest.map key).Nodup := by
    have all := table.unique
    rw [rows, List.map_append, List.map_cons] at all
    exact (List.nodup_cons.mp (List.nodup_append.mp all).2.1).2
  have short : rest.length ≤ newer.card := by
    rw [← List.length_map key, ← List.toFinset_card_of_nodup distinct]
    refine Finset.card_le_card fun k member => ?_
    obtain ⟨other, present, rfl⟩ := List.mem_map.mp (List.mem_toFinset.mp member)
    exact among other present
  refine ⟨older.drop (table.rows.length - bound), rest, ?_, among⟩
  rw [rows_evict, rows, List.drop_append_of_le_length]
  rw [List.length_append, List.length_cons]
  omega

end NewerWithin

end KeyedTable
