import ReconcileFlow.Model.RunRegistry

/-! # The size of the run registry

Only `start` evicts. Finishing a run whose record is gone stores a new record and evicts nothing, so
the registry stays within its bound exactly as long as every such call finds room.
-/

namespace ReconcileFlow

namespace RunRegistry

/-- The number of records held. -/
def size (registry : RunRegistry) : ℕ := registry.runs.rows.length

def Bounded (registry : RunRegistry) : Prop := registry.size ≤ registry.maxEntries

instance (registry : RunRegistry) : Decidable registry.Bounded :=
  inferInstanceAs (Decidable (_ ≤ _))

/-- The registry has the record of a run. -/
def Holds (registry : RunRegistry) (runId : String) : Prop := runId ∈ registry.runs.rows.map Prod.fst

instance (registry : RunRegistry) (runId : String) : Decidable (registry.Holds runId) :=
  inferInstanceAs (Decidable (_ ∈ _))

/-- A call that finishes a run finds its record, or room for a new one. -/
def HasRoom (registry : RunRegistry) : RegistryCall → Prop
  | .setOutcome runId _ | .setError runId _ => registry.Holds runId ∨ registry.size < registry.maxEntries
  | _ => True

@[simp] theorem maxEntries_apply (registry : RunRegistry) (call : RegistryCall) :
    (registry.apply call).maxEntries = registry.maxEntries := by cases call <;> rfl

@[simp] theorem maxEntries_run (registry : RunRegistry) (calls : List RegistryCall) :
    (registry.run calls).maxEntries = registry.maxEntries := by
  induction calls generalizing registry with
  | nil => rfl
  | cons call rest ih => exact (ih _).trans (maxEntries_apply registry call)

theorem run_append_singleton (registry : RunRegistry) (calls : List RegistryCall) (call : RegistryCall) :
    registry.run (calls ++ [call]) = (registry.run calls).apply call := by
  simp [run]

/-- Starting a run leaves the registry within its bound, whatever it held before. -/
theorem bounded_start (registry : RunRegistry) (runId : String) (demo : Bool) :
    (registry.start runId demo).Bounded := by
  change (KeyedTable.evict _ registry.maxEntries).rows.length ≤ registry.maxEntries
  rw [KeyedTable.length_evict]
  exact Nat.min_le_right ..

/-- Finishing a run adds a record exactly when the registry has none for it. -/
theorem size_setRecord (registry : RunRegistry) (runId : String) (update : RunRecord → RunRecord) :
    (registry.setRecord runId update).size =
      if registry.Holds runId then registry.size else registry.size + 1 := by
  change (KeyedTable.moveToEnd _ runId).rows.length = _
  rw [KeyedTable.length_moveToEnd, KeyedTable.length_put]
  rfl

theorem bounded_setRecord_iff {registry : RunRegistry} (bounded : registry.Bounded) (runId : String)
    (update : RunRecord → RunRecord) : (registry.setRecord runId update).Bounded ↔
      registry.Holds runId ∨ registry.size < registry.maxEntries := by
  change (registry.setRecord runId update).size ≤ registry.maxEntries ↔ _
  rw [size_setRecord]
  by_cases held : registry.Holds runId
  · exact iff_of_true (by rwa [if_pos held]) (Or.inl held)
  · rw [if_neg held]
    exact Nat.succ_le_iff.trans (or_iff_right held).symm

/-- From a bounded registry, a call keeps the bound exactly when it has room. -/
theorem bounded_apply_iff {registry : RunRegistry} (bounded : registry.Bounded) (call : RegistryCall) :
    (registry.apply call).Bounded ↔ registry.HasRoom call := by
  cases call with
  | start runId demo => exact iff_of_true (bounded_start registry runId demo) trivial
  | setOutcome runId outcome => exact bounded_setRecord_iff bounded runId _
  | setError runId message => exact bounded_setRecord_iff bounded runId _
  | get | state => exact iff_of_true bounded trivial

/-- Every registry reached within the calls is bounded exactly when every call made has room. -/
theorem bounded_run_iff (maxEntries : ℕ) (calls : List RegistryCall) :
    (∀ made, made <+: calls → (RunRegistry.run { maxEntries } made).Bounded) ↔
      ∀ made call, made ++ [call] <+: calls → (RunRegistry.run { maxEntries } made).HasRoom call := by
  constructor
  · intro bounded made call within
    have before := bounded made ((List.prefix_append made [call]).trans within)
    have after := bounded _ within
    rw [run_append_singleton] at after
    exact (bounded_apply_iff before call).mp after
  · intro room made
    induction made using List.reverseRecOn with
    | nil => exact fun _ => Nat.zero_le _
    | append_singleton made call ih =>
      intro within
      have before := ih ((List.prefix_append made [call]).trans within)
      rw [run_append_singleton]
      exact (bounded_apply_iff before call).mpr (room made call within)

/-- With room for one record: the second start evicts the first run, whose worker then finishes. -/
theorem bounded_run_fails : ¬ ∀ maxEntries, 1 ≤ maxEntries → ∀ calls : List RegistryCall,
    ∀ made, made <+: calls → (RunRegistry.run { maxEntries } made).Bounded := by
  intro bounded
  have after := bounded 1 (Nat.le_refl 1)
    [.start "first" false, .start "second" false, .setError "first" "worker failed"] _ (List.prefix_refl _)
  revert after
  decide

end RunRegistry

end ReconcileFlow
