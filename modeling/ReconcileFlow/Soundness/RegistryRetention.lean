import ReconcileFlow.Soundness.RegistryBound

/-! # How long the registry keeps a finished run

Only `start` evicts, from the oldest record on, and finishing a run makes its record the newest one. So the
record of a finished run stays as long as fewer other runs are registered or finished than the registry
has entries, and as many new runs as it has entries push it out. A call for another run never changes a
record: it is as it was, or gone.
-/

namespace ReconcileFlow

/-- The run whose record a call writes. -/
def RegistryCall.written : RegistryCall → Option String
  | start runId _ | setOutcome runId _ | setError runId _ => some runId
  | get _ | state _ => none

/-- The runs whose records are written. -/
def writtenIds (calls : List RegistryCall) : List String := calls.filterMap RegistryCall.written

namespace RunRegistry

theorem get_evictLocked (registry : RunRegistry) (runId : String) :
    registry.evictLocked.get runId = registry.get runId ∨ registry.evictLocked.get runId = none := by
  unfold get evictLocked
  cases found : (registry.runs.evict registry.maxEntries).find? runId with
  | none => exact .inr rfl
  | some entry =>
    refine .inl ?_
    rw [KeyedTable.find?_evict_of_some found]

theorem get_setRecord (registry : RunRegistry) (runId other : String) (update : RunRecord → RunRecord) :
    (registry.setRecord runId update).get other =
      if runId = other then some (update ((registry.get runId).getD {})) else registry.get other := by
  unfold setRecord get
  dsimp only
  rw [KeyedTable.find?_moveToEnd, KeyedTable.find?_put]
  split <;> rfl

theorem get_start_other (registry : RunRegistry) {runId other : String} (different : runId ≠ other) (demo : Bool) :
    (registry.start runId demo).get other = registry.get other ∨ (registry.start runId demo).get other = none := by
  have written : RunRegistry.get { registry with runs := registry.runs.put (runId, { demo }) } other =
      registry.get other := by
    unfold get
    rw [KeyedTable.find?_put, if_neg different]
  rw [← written]
  exact get_evictLocked _ other

/-- A call for another run leaves a record as it is, or evicts it. -/
theorem get_apply_other (registry : RunRegistry) {call : RegistryCall} {runId : String}
    (other : call.written ≠ some runId) :
    (registry.apply call).get runId = registry.get runId ∨ (registry.apply call).get runId = none := by
  cases call with
  | start writes demo => exact registry.get_start_other (fun same => other (congrArg some same)) demo
  | setOutcome writes outcome =>
    exact .inl ((get_setRecord ..).trans (if_neg fun same => other (congrArg some same)))
  | setError writes message =>
    exact .inl ((get_setRecord ..).trans (if_neg fun same => other (congrArg some same)))
  | get | state => exact .inl rfl

theorem get_run_others (registry : RunRegistry) {calls : List RegistryCall} {runId : String}
    (others : runId ∉ writtenIds calls) :
    (registry.run calls).get runId = registry.get runId ∨ (registry.run calls).get runId = none := by
  induction calls using List.reverseRecOn with
  | nil => exact .inl rfl
  | append_singleton calls call ih =>
    have split : writtenIds (calls ++ [call]) = writtenIds calls ++ writtenIds [call] := List.filterMap_append
    rw [split, List.mem_append, not_or] at others
    rw [run_append_singleton]
    have other : call.written ≠ some runId := fun writes =>
      others.2 (List.mem_filterMap.mpr ⟨call, List.mem_singleton_self call, writes⟩)
    rcases (registry.run calls).get_apply_other other with same | gone
    · rw [same]
      exact ih others.1
    · exact .inr gone

/-- The registry holds this record, and the records newer than it are of these runs. -/
def Recent (registry : RunRegistry) (runId : String) (record : RunRecord) (newer : Finset String) : Prop :=
  registry.runs.NewerWithin (runId, record) newer

namespace Recent

variable {registry : RunRegistry} {runId : String} {record : RunRecord} {newer : Finset String}

theorem get (recent : registry.Recent runId record newer) : registry.get runId = some record :=
  congrArg (Option.map Prod.snd) (KeyedTable.NewerWithin.find? recent)

/-- A run that was just finished has the newest record. -/
theorem of_setRecord (registry : RunRegistry) (runId : String) (update : RunRecord → RunRecord) :
    (registry.setRecord runId update).Recent runId (update ((registry.get runId).getD {})) ∅ :=
  KeyedTable.NewerWithin.of_put_moveToEnd registry.runs (runId, update ((registry.get runId).getD {}))

theorem setRecord (recent : registry.Recent runId record newer) {other : String} (different : other ≠ runId)
    (update : RunRecord → RunRecord) :
    (registry.setRecord other update).Recent runId record (insert other newer) := by
  have written : (registry.runs.put (other, update ((registry.get other).getD {}))).NewerWithin (runId, record)
      (insert other newer) := KeyedTable.NewerWithin.put recent different
  have moved := written.moveToEnd (Ne.symm different)
  rwa [Finset.insert_idem] at moved

theorem start (recent : registry.Recent runId record newer) {other : String} (different : other ≠ runId)
    (demo : Bool) (few : (insert other newer).card < registry.maxEntries) :
    (registry.start other demo).Recent runId record (insert other newer) :=
  KeyedTable.NewerWithin.evict (KeyedTable.NewerWithin.put recent different) few

/-- A call for another run makes that run newer at most, while there is room for it. -/
theorem apply (recent : registry.Recent runId record newer) {call : RegistryCall}
    (other : call.written ≠ some runId)
    (few : (newer ∪ (writtenIds [call]).toFinset).card < registry.maxEntries) :
    (registry.apply call).Recent runId record (newer ∪ (writtenIds [call]).toFinset) := by
  have single (writes : String) : newer ∪ [writes].toFinset = insert writes newer := by
    rw [List.toFinset_cons, List.toFinset_nil, insert_empty_eq, Finset.union_comm, ← Finset.insert_eq]
  have different {writes : String} (same : call.written = some writes) : writes ≠ runId :=
    fun equal => other (same.trans (congrArg some equal))
  cases call with
  | start writes demo =>
    rw [show writtenIds [.start writes demo] = [writes] from rfl, single] at few ⊢
    exact recent.start (different rfl) demo few
  | setOutcome writes outcome =>
    rw [show writtenIds [.setOutcome writes outcome] = [writes] from rfl, single]
    exact recent.setRecord (different rfl) _
  | setError writes message =>
    rw [show writtenIds [.setError writes message] = [writes] from rfl, single]
    exact recent.setRecord (different rfl) _
  | get | state =>
    change registry.Recent runId record (newer ∪ ∅)
    rwa [Finset.union_empty]

theorem run (recent : registry.Recent runId record newer) {calls : List RegistryCall}
    (others : runId ∉ writtenIds calls)
    (few : (newer ∪ (writtenIds calls).toFinset).card < registry.maxEntries) :
    (registry.run calls).Recent runId record (newer ∪ (writtenIds calls).toFinset) := by
  induction calls using List.reverseRecOn with
  | nil =>
    change registry.Recent runId record (newer ∪ ∅)
    rwa [Finset.union_empty]
  | append_singleton calls call ih =>
    have split : writtenIds (calls ++ [call]) = writtenIds calls ++ writtenIds [call] := List.filterMap_append
    rw [split, List.mem_append, not_or] at others
    rw [split, List.toFinset_append, ← Finset.union_assoc] at few ⊢
    have made := ih others.1 ((Finset.card_le_card Finset.subset_union_left).trans_lt few)
    rw [run_append_singleton]
    refine made.apply (fun writes => others.2 ?_) (by rwa [maxEntries_run])
    exact List.mem_filterMap.mpr ⟨call, List.mem_singleton_self call, writes⟩

end Recent

/-- The runs held, the oldest record first. -/
def keys (registry : RunRegistry) : List String := registry.runs.rows.map Prod.fst

theorem keys_start {registry : RunRegistry} {runId : String} (new : runId ∉ registry.keys) (demo : Bool) :
    (registry.start runId demo).keys =
      (registry.keys ++ [runId]).drop (registry.size + 1 - registry.maxEntries) := by
  have put : (registry.runs.put (runId, { demo })).rows.map Prod.fst = registry.keys ++ [runId] :=
    (KeyedTable.map_key_putRows _ _).trans (if_neg new)
  have length : (registry.runs.put (runId, { demo })).rows.length = registry.size + 1 := by
    rw [← List.length_map Prod.fst, put, List.length_append, keys, List.length_map]
    rfl
  change (KeyedTable.evict _ registry.maxEntries).rows.map Prod.fst = _
  rw [KeyedTable.rows_evict, length, List.map_drop, put]

/-- Starting runs that the registry does not hold keeps the newest records, up to the bound. -/
theorem keys_run_starts {registry : RunRegistry} (bounded : registry.Bounded) (demo : Bool) {ids : List String}
    (distinct : (registry.keys ++ ids).Nodup) :
    (registry.run (ids.map fun runId => .start runId demo)).keys =
      (registry.keys ++ ids).drop (registry.size + ids.length - registry.maxEntries) := by
  have size (registry : RunRegistry) : registry.keys.length = registry.size := List.length_map ..
  induction ids using List.reverseRecOn with
  | nil =>
    rw [List.length_nil, Nat.add_zero, Nat.sub_eq_zero_of_le bounded, List.append_nil]
    rfl
  | append_singleton ids runId ih =>
    rw [← List.append_assoc] at distinct
    obtain ⟨early, -, apart⟩ := List.nodup_append.mp distinct
    have held := ih early
    have new : runId ∉ (registry.run (ids.map fun runId => .start runId demo)).keys := by
      rw [held]
      exact fun member => apart runId (List.mem_of_mem_drop member) runId (List.mem_singleton_self runId) rfl
    rw [List.map_append, List.map_singleton, run_append_singleton]
    change (RunRegistry.start _ runId demo).keys = _
    rw [keys_start new, maxEntries_run, ← size, held, List.length_drop, List.length_append, List.length_append,
      List.length_singleton, size, ← List.drop_append_of_le_length (by rw [List.length_append, size]; omega),
      List.drop_drop, List.append_assoc]
    congr 1
    omega

/-- As many new runs as the registry has entries push every other record out. -/
theorem evicted_by_starts {registry : RunRegistry} (bounded : registry.Bounded) (demo : Bool) {ids : List String}
    (distinct : (registry.keys ++ ids).Nodup) (many : registry.maxEntries ≤ ids.length) {runId : String}
    (other : runId ∉ ids) : (registry.run (ids.map fun runId => .start runId demo)).get runId = none := by
  unfold get
  rw [Option.map_eq_none_iff, KeyedTable.find?_eq_none_iff]
  rintro entry member rfl
  have key : entry.1 ∈ (registry.run (ids.map fun runId => .start runId demo)).keys := List.mem_map_of_mem member
  rw [keys_run_starts bounded demo distinct, List.drop_append, List.drop_of_length_le, List.nil_append] at key
  · exact other (List.mem_of_mem_drop key)
  · rw [keys, List.length_map]
    change registry.size ≤ _
    omega

/-- A finished run keeps its record while there is room. -/
theorem get_run_of_setRecord (registry : RunRegistry) (runId : String) (update : RunRecord → RunRecord)
    {calls : List RegistryCall} (others : runId ∉ writtenIds calls)
    (few : (writtenIds calls).toFinset.card < registry.maxEntries) :
    ((registry.setRecord runId update).run calls).get runId = some (update ((registry.get runId).getD {})) := by
  have room : (∅ ∪ (writtenIds calls).toFinset).card < registry.maxEntries := by rwa [Finset.empty_union]
  exact ((Recent.of_setRecord registry runId update).run others room).get

end RunRegistry

end ReconcileFlow
