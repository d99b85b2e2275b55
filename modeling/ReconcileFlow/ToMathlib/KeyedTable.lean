import Mathlib

/-! # Insertion-ordered tables with a unique key

A `KeyedTable key` is a finite list of rows in which no two rows share a key. It is at once an
insertion-ordered dictionary (the row is the value, or the pair of key and value) and a database
table with a unique index. `put` replaces the row of an existing key in place and appends a row
whose key is new; `erase` deletes by key. The uniqueness proof travels with the rows, so no
operation can build a table that violates its index.

`ofList` is the table after successive `put`s, and `group` collects the members of each class of a
list in order. Their lookups are filters of the source list.
-/

/-- Rows in insertion order, at most one for each key. -/
@[ext] structure KeyedTable {ρ κ : Type*} (key : ρ → κ) where
  rows : List ρ
  unique : (rows.map key).Nodup

namespace KeyedTable

variable {ρ κ : Type*} {key : ρ → κ}

instance : EmptyCollection (KeyedTable key) := ⟨⟨[], List.nodup_nil⟩⟩

instance [DecidableEq ρ] : DecidableEq (KeyedTable key) := fun left right =>
  decidable_of_iff (left.rows = right.rows) KeyedTable.ext_iff.symm

@[simp] theorem rows_empty : (∅ : KeyedTable key).rows = [] := rfl

theorem rows_nodup (table : KeyedTable key) : table.rows.Nodup := table.unique.of_map key

/-- Two stored rows with one key are the same row. -/
theorem eq_of_key_eq (table : KeyedTable key) {left right : ρ} (hl : left ∈ table.rows)
    (hr : right ∈ table.rows) (same : key left = key right) : left = right :=
  List.inj_on_of_nodup_map table.unique hl hr same

/-- Rewrite every row without touching its key. -/
def mapRows (table : KeyedTable key) (update : ρ → ρ) (keeps : ∀ row, key (update row) = key row) :
    KeyedTable key where
  rows := table.rows.map update
  unique := by
    rw [List.map_map, show key ∘ update = key from funext keeps]
    exact table.unique

variable [DecidableEq κ]

/-- The row stored under a key. -/
def find? (table : KeyedTable key) (k : κ) : Option ρ :=
  table.rows.find? (fun row => decide (key row = k))

/-- Replace the row with `row`'s key in place, or append `row`. -/
def putRows (key : ρ → κ) (row : ρ) : List ρ → List ρ
  | [] => [row]
  | head :: rest => if key head = key row then row :: rest else head :: putRows key row rest

theorem map_key_putRows (row : ρ) (rows : List ρ) :
    (putRows key row rows).map key =
      if key row ∈ rows.map key then rows.map key else rows.map key ++ [key row] := by
  induction rows with
  | nil => simp [putRows]
  | cons head rest ih =>
    by_cases same : key head = key row
    · simp [putRows, same]
    · have other : key row ≠ key head := Ne.symm same
      simp only [putRows, same, ↓reduceIte, List.map_cons, ih, List.mem_cons, other, false_or]
      split <;> simp

/-- Insert or overwrite: the dictionary assignment, and the upsert on the table's key. -/
def put (table : KeyedTable key) (row : ρ) : KeyedTable key where
  rows := putRows key row table.rows
  unique := by
    rw [map_key_putRows]
    split
    · exact table.unique
    · next absent => exact List.nodup_append.mpr ⟨table.unique, List.nodup_singleton _,
        fun k present _ single => by rw [List.mem_singleton.mp single]; rintro rfl; exact absent present⟩

/-- Delete the row stored under a key, if any. -/
def erase (table : KeyedTable key) (k : κ) : KeyedTable key where
  rows := table.rows.filter (fun row => decide (key row ≠ k))
  unique := table.unique.sublist (List.filter_sublist.map key)

/-- The table after putting the rows one after another. -/
def ofList (key : ρ → κ) (rows : List ρ) : KeyedTable key := rows.foldl put ∅

theorem find?_eq_some_iff {table : KeyedTable key} {k : κ} {row : ρ} :
    table.find? k = some row ↔ row ∈ table.rows ∧ key row = k := by
  constructor
  · intro found
    exact ⟨List.mem_of_find?_eq_some found, by simpa using List.find?_some found⟩
  · rintro ⟨member, rfl⟩
    cases found : table.find? (key row) with
    | none => simpa using List.find?_eq_none.mp found row member
    | some other =>
      have same : key other = key row := by simpa using List.find?_some found
      rw [table.eq_of_key_eq (List.mem_of_find?_eq_some found) member same]

theorem find?_eq_none_iff {table : KeyedTable key} {k : κ} :
    table.find? k = none ↔ ∀ row ∈ table.rows, key row ≠ k := by
  simp [find?]

theorem isSome_find?_iff {table : KeyedTable key} {k : κ} :
    (table.find? k).isSome = true ↔ k ∈ table.rows.map key := by
  simp [find?]

@[simp] theorem find?_empty (k : κ) : (∅ : KeyedTable key).find? k = none := rfl

theorem find?_putRows (row : ρ) (rows : List ρ) (k : κ) :
    (putRows key row rows).find? (fun other => decide (key other = k)) =
      if key row = k then some row else rows.find? (fun other => decide (key other = k)) := by
  induction rows with
  | nil => by_cases same : key row = k <;> simp [putRows, same]
  | cons head rest ih =>
    by_cases replaced : key head = key row
    · by_cases same : key row = k <;> simp [putRows, replaced, same]
    · by_cases same : key head = k
      · have other : key row ≠ k := fun equal => replaced (same.trans equal.symm)
        rw [putRows, if_neg replaced, if_neg other]
        simp [same]
      · simp [putRows, replaced, same, ih]

/-- Only the written key reads differently after a `put`. -/
@[simp] theorem find?_put (table : KeyedTable key) (row : ρ) (k : κ) :
    (table.put row).find? k = if key row = k then some row else table.find? k :=
  find?_putRows row table.rows k

theorem find?_mapRows (table : KeyedTable key) (update : ρ → ρ)
    (keeps : ∀ row, key (update row) = key row) (k : κ) :
    (table.mapRows update keeps).find? k = (table.find? k).map update := by
  simp only [find?, mapRows, List.find?_map, Function.comp_def, keeps]

theorem mem_put {table : KeyedTable key} {row other : ρ} :
    other ∈ (table.put row).rows ↔ other = row ∨ (other ∈ table.rows ∧ key other ≠ key row) := by
  have read : other ∈ (table.put row).rows ↔ (table.put row).find? (key other) = some other := by
    rw [find?_eq_some_iff, and_iff_left rfl]
  rw [read, find?_put]
  by_cases same : key row = key other
  · simp only [same, ↓reduceIte, Option.some.injEq, ne_eq, not_true_eq_false, and_false, or_false]
    exact eq_comm
  · simp only [same, ↓reduceIte, find?_eq_some_iff, and_true, Ne.symm same, ne_eq, not_false_eq_true]
    constructor
    · exact Or.inr
    · rintro (rfl | member)
      · exact absurd rfl same
      · exact member

theorem mem_erase {table : KeyedTable key} {k : κ} {row : ρ} :
    row ∈ (table.erase k).rows ↔ row ∈ table.rows ∧ key row ≠ k := by
  simp [erase]

/-- The keys of a table after a deletion. -/
theorem keys_erase (table : KeyedTable key) (k : κ) :
    ((table.erase k).rows.map key).toFinset = (table.rows.map key).toFinset.erase k := by
  ext other
  simp only [List.mem_toFinset, List.mem_map, mem_erase, Finset.mem_erase]
  constructor
  · rintro ⟨row, ⟨member, different⟩, rfl⟩
    exact ⟨different, row, member, rfl⟩
  · rintro ⟨different, row, member, rfl⟩
    exact ⟨row, ⟨member, different⟩, rfl⟩

theorem erase_sublist (table : KeyedTable key) (k : κ) :
    (table.erase k).rows.Sublist table.rows := List.filter_sublist

/-- Deleting a stored row removes exactly that row. -/
theorem perm_cons_erase {table : KeyedTable key} {k : κ} {row : ρ}
    (found : table.find? k = some row) : table.rows.Perm (row :: (table.erase k).rows) := by
  classical
  obtain ⟨member, rfl⟩ := find?_eq_some_iff.mp found
  refine (List.perm_ext_iff_of_nodup table.rows_nodup ?_).mpr ?_
  · refine List.nodup_cons.mpr ⟨fun present => (mem_erase.mp present).2 rfl, ?_⟩
    exact (table.erase (key row)).rows_nodup
  · intro other
    rw [List.mem_cons, mem_erase]
    constructor
    · intro present
      by_cases same : key other = key row
      · exact Or.inl (table.eq_of_key_eq present member same)
      · exact Or.inr ⟨present, same⟩
    · rintro (rfl | ⟨present, _⟩)
      · exact member
      · exact present

theorem rows_put_of_fresh {table : KeyedTable key} {row : ρ}
    (fresh : ∀ other ∈ table.rows, key other ≠ key row) : (table.put row).rows = table.rows ++ [row] := by
  change putRows key row table.rows = table.rows ++ [row]
  generalize table.rows = rows at fresh ⊢
  induction rows with
  | nil => rfl
  | cons head rest ih =>
    rw [putRows, if_neg (fresh head (List.mem_cons_self ..)),
      ih (fun other member => fresh other (List.mem_cons_of_mem _ member)), List.cons_append]

/-- A `put` outside a selection takes at most the replaced row out of it. -/
theorem filter_put_sublist {table : KeyedTable key} {row : ρ} {select : ρ → Bool}
    (outside : select row = false) : ((table.put row).rows.filter select).Sublist (table.rows.filter select) := by
  change ((putRows key row table.rows).filter select).Sublist (table.rows.filter select)
  generalize table.rows = rows
  induction rows with
  | nil => simp [putRows, outside]
  | cons head rest ih =>
    unfold putRows
    split
    · rw [List.filter_cons_of_neg (Bool.eq_false_iff.mp outside)]
      exact (List.sublist_cons_self head rest).filter select
    · cases selected : select head with
      | true =>
        rw [List.filter_cons_of_pos selected, List.filter_cons_of_pos selected]
        exact ih.cons_cons head
      | false =>
        rw [List.filter_cons_of_neg (Bool.eq_false_iff.mp selected),
          List.filter_cons_of_neg (Bool.eq_false_iff.mp selected)]
        exact ih

theorem ofList_append_singleton (rows : List ρ) (row : ρ) :
    ofList key (rows ++ [row]) = (ofList key rows).put row := by
  simp [ofList]

/-- The last row put under a key is the one stored. -/
theorem mem_ofList {rows : List ρ} {row : ρ} (member : row ∈ (ofList key rows).rows) : row ∈ rows := by
  induction rows using List.reverseRecOn with
  | nil => simp [ofList] at member
  | append_singleton rows last ih =>
    rw [ofList_append_singleton, mem_put] at member
    rcases member with rfl | ⟨earlier, _⟩
    · exact List.mem_append_right _ (List.mem_singleton_self _)
    · exact List.mem_append_left _ (ih earlier)

theorem mem_keys_ofList {rows : List ρ} {k : κ} :
    k ∈ (ofList key rows).rows.map key ↔ k ∈ rows.map key := by
  induction rows using List.reverseRecOn with
  | nil => simp [ofList]
  | append_singleton rows last ih =>
    rw [ofList_append_singleton, put, map_key_putRows]
    by_cases present : key last ∈ (ofList key rows).rows.map key
    · rw [if_pos present, ih, List.map_append, List.mem_append]
      constructor
      · exact Or.inl
      · rintro (earlier | single)
        · exact earlier
        · rw [List.map_singleton, List.mem_singleton] at single
          exact single ▸ ih.mp (by simpa [single] using present)
    · rw [if_neg present, List.mem_append, ih, List.map_append, List.mem_append]
      rfl

/-- A repeated key keeps its last row. -/
theorem find?_ofList (rows : List ρ) (k : κ) :
    (ofList key rows).find? k = rows.reverse.find? fun row => decide (key row = k) := by
  induction rows using List.reverseRecOn with
  | nil => rfl
  | append_singleton rows last ih =>
    rw [ofList_append_singleton, find?_put, ih, List.reverse_append, List.reverse_singleton,
      List.singleton_append, List.find?_cons]
    by_cases same : key last = k <;> simp [same]

/-- A list without repeated keys is its own table. -/
theorem rows_ofList_of_nodup {rows : List ρ} (distinct : (rows.map key).Nodup) :
    (ofList key rows).rows = rows := by
  induction rows using List.reverseRecOn with
  | nil => rfl
  | append_singleton rows last ih =>
    rw [List.map_append, List.nodup_append] at distinct
    rw [ofList_append_singleton, rows_put_of_fresh, ih distinct.1]
    intro other member
    rw [ih distinct.1] at member
    exact distinct.2.2 _ (List.mem_map_of_mem member) _ (List.mem_singleton_self _)

/-- A table holds one row for each distinct key of its source. -/
theorem length_ofList (rows : List ρ) :
    (ofList key rows).rows.length = (rows.map key).toFinset.card := by
  rw [← List.length_map (f := key), ← List.toFinset_card_of_nodup (ofList key rows).unique]
  congr 1
  ext k
  simp only [List.mem_toFinset, mem_keys_ofList]

/-- A table is never longer than its source. -/
theorem length_ofList_le (key : ρ → κ) (rows : List ρ) : (ofList key rows).rows.length ≤ rows.length := by
  rw [length_ofList, List.card_toFinset, ← List.length_map (f := key)]
  exact (List.dedup_sublist _).length_le

/-- Repeated keys make the table strictly shorter than its source. -/
theorem length_ofList_lt {rows : List ρ} (repeated : ¬ (rows.map key).Nodup) :
    (ofList key rows).rows.length < rows.length := by
  refine lt_of_le_of_ne (length_ofList_le key rows) fun same => repeated ?_
  rw [length_ofList, List.card_toFinset, ← List.length_map (f := key)] at same
  exact List.dedup_eq_self.mp ((List.dedup_sublist _).eq_of_length same)

theorem putRows_map {update : ρ → ρ} (keeps : ∀ row, key (update row) = key row) (row : ρ) (rows : List ρ) :
    putRows key (update row) (rows.map update) = (putRows key row rows).map update := by
  induction rows with
  | nil => rfl
  | cons head rest ih =>
    rw [List.map_cons, putRows, putRows, keeps, keeps, ih]
    split <;> rfl

theorem put_mapRows (table : KeyedTable key) {update : ρ → ρ} (keeps : ∀ row, key (update row) = key row) (row : ρ) :
    (table.mapRows update keeps).put (update row) = (table.put row).mapRows update keeps :=
  KeyedTable.ext (putRows_map keeps row table.rows)

theorem erase_mapRows (table : KeyedTable key) {update : ρ → ρ} (keeps : ∀ row, key (update row) = key row) (k : κ) :
    (table.mapRows update keeps).erase k = (table.erase k).mapRows update keeps := by
  refine KeyedTable.ext ?_
  change (table.rows.map update).filter _ = (table.rows.filter _).map update
  rw [List.filter_map]
  congr 1
  refine List.filter_congr fun row _ => ?_
  rw [Function.comp_apply, keeps]

theorem ofList_map {update : ρ → ρ} (keeps : ∀ row, key (update row) = key row) (rows : List ρ) :
    ofList key (rows.map update) = (ofList key rows).mapRows update keeps := by
  induction rows using List.reverseRecOn with
  | nil => rfl
  | append_singleton rows row ih =>
    rw [List.map_append, List.map_singleton, ofList_append_singleton, ofList_append_singleton, ih, put_mapRows]

variable {α : Type*}

/-- The list stored under a key, empty when the key is absent. -/
def members (table : KeyedTable (Prod.fst : κ × List α → κ)) (k : κ) : List α :=
  ((table.find? k).map Prod.snd).getD []

/-- Append one item to the list stored under its class; items without a class are skipped. -/
def append (classify : α → Option κ) (table : KeyedTable (Prod.fst : κ × List α → κ)) (item : α) :
    KeyedTable (Prod.fst : κ × List α → κ) :=
  match classify item with
  | some k => table.put (k, table.members k ++ [item])
  | none => table

/-- Collect the items of each class, classes in the order of their first item. -/
def group (classify : α → Option κ) (items : List α) : KeyedTable (Prod.fst : κ × List α → κ) :=
  items.foldl (append classify) ∅

theorem members_append (classify : α → Option κ) (table : KeyedTable (Prod.fst : κ × List α → κ))
    (item : α) (k : κ) : (append classify table item).members k =
      if classify item = some k then table.members k ++ [item] else table.members k := by
  unfold append
  cases class_ : classify item with
  | none => simp
  | some c =>
    by_cases same : c = k
    · subst same
      simp [members]
    · simp [members, same]

/-- Looking up a class returns exactly its items, in order. -/
@[simp] theorem members_group (classify : α → Option κ) (items : List α) (k : κ) :
    (group classify items).members k = items.filter (fun item => decide (classify item = some k)) := by
  induction items using List.reverseRecOn with
  | nil => rfl
  | append_singleton items last ih =>
    rw [group, List.foldl_append, List.foldl_cons, List.foldl_nil, members_append, ← group, ih,
      List.filter_append]
    by_cases same : classify last = some k <;> simp [same]

/-- Every stored class is the class of an item. -/
theorem exists_of_mem_group {classify : α → Option κ} {items : List α} {entry : κ × List α}
    (member : entry ∈ (group classify items).rows) : ∃ item ∈ items, classify item = some entry.1 := by
  induction items using List.reverseRecOn generalizing entry with
  | nil => cases member
  | append_singleton items last ih =>
    have earlier (stored : entry ∈ (group classify items).rows) :
        ∃ item ∈ items ++ [last], classify item = some entry.1 := by
      obtain ⟨item, present, classified⟩ := ih stored
      exact ⟨item, List.mem_append_left _ present, classified⟩
    rw [group, List.foldl_append, List.foldl_cons, List.foldl_nil, ← group] at member
    unfold append at member
    split at member
    · next k classified =>
      rcases mem_put.mp member with rfl | ⟨stored, -⟩
      · exact ⟨last, List.mem_append_right _ (List.mem_singleton_self _), classified⟩
      · exact earlier stored
    · exact earlier member

/-- The classes are stored in the order in which they are first seen. -/
theorem keys_group (classify : α → Option κ) (items : List α) :
    (group classify items).rows.map Prod.fst = (items.filterMap classify).eraseDups := by
  induction items using List.reverseRecOn with
  | nil => rfl
  | append_singleton items last ih =>
    rw [group, List.foldl_append, List.foldl_cons, List.foldl_nil, ← group, append, List.filterMap_append,
      List.eraseDups_append]
    cases classified : classify last with
    | none => simp [classified, ih]
    | some k =>
      change (putRows Prod.fst _ _).map Prod.fst = _
      rw [map_key_putRows, ih, List.filterMap_cons_some classified, List.filterMap_nil]
      generalize items.filterMap classify = keys
      by_cases seen : k ∈ keys <;> simp [List.removeAll, seen, List.eraseDups_cons]

/-- Every class holds its items, in order. -/
theorem rows_group (classify : α → Option κ) (items : List α) :
    (group classify items).rows = (items.filterMap classify).eraseDups.map fun k =>
      (k, items.filter fun item => decide (classify item = some k)) := by
  rw [← keys_group, List.map_map]
  refine (List.map_id _).symm.trans (List.map_congr_left fun entry member => ?_)
  have found := find?_eq_some_iff.mpr ⟨member, rfl⟩
  have stored := members_group classify items entry.1
  rw [members, found] at stored
  exact Prod.ext rfl stored

/-- Rewriting the items without touching their classes rewrites the stored lists. -/
theorem rows_group_map {classify : α → Option κ} {update : α → α} (keeps : ∀ item, classify (update item) = classify item)
    (items : List α) : (group classify (items.map update)).rows =
      (group classify items).rows.map fun entry => (entry.1, entry.2.map update) := by
  rw [rows_group, rows_group, List.filterMap_map, List.map_map, show classify ∘ update = classify from funext keeps]
  refine List.map_congr_left fun k _ => ?_
  rw [List.filter_map]
  dsimp only [Function.comp_def]
  simp only [keeps]

/-- Appending a classified item adds exactly that item to the stored ones. -/
theorem flatMap_append_perm (classify : α → Option κ) (table : KeyedTable (Prod.fst : κ × List α → κ))
    {item : α} {k : κ} (classified : classify item = some k) :
    ((append classify table item).rows.flatMap Prod.snd).Perm (table.rows.flatMap Prod.snd ++ [item]) := by
  unfold append members
  rw [classified]
  dsimp only
  change ((putRows Prod.fst _ table.rows).flatMap Prod.snd).Perm _
  unfold find?
  generalize table.rows = rows
  induction rows with
  | nil => exact List.Perm.refl _
  | cons head rest ih =>
    by_cases same : head.1 = k
    · rw [List.find?_cons_of_pos (by simpa using same), putRows, if_pos same]
      simp only [Option.map_some, Option.getD_some, List.flatMap_cons, List.append_assoc]
      exact List.perm_append_comm.append_left _
    · rw [List.find?_cons_of_neg (by simpa using same), putRows, if_neg same]
      simp only [List.flatMap_cons, List.append_assoc]
      exact ih.append_left _

/-- Grouping items that all have a class loses and repeats none of them. -/
theorem flatMap_group_perm {classify : α → Option κ} (total : ∀ item, (classify item).isSome)
    (items : List α) : ((group classify items).rows.flatMap Prod.snd).Perm items := by
  induction items using List.reverseRecOn with
  | nil => exact List.Perm.refl _
  | append_singleton items last ih =>
    obtain ⟨k, classified⟩ := Option.isSome_iff_exists.mp (total last)
    rw [group, List.foldl_append, List.foldl_cons, List.foldl_nil, ← group]
    exact (flatMap_append_perm classify _ classified).trans (ih.append_right _)

end KeyedTable
