import ReconcileFlow.Model.Service
import ReconcileFlow.ToMathlib.EvictingTable

/-! # The registry of background runs

A dictionary from run id to the tracking record of a run, shared by the request handlers and the
background workers. Every operation holds the lock from its first read to its last write, so an
interleaving of threads is a list of `RegistryCall`s.
-/

namespace ReconcileFlow

inductive RunState where
  | unknown | pending | done | error
deriving DecidableEq, Repr

/-- Tracking record of one background run. -/
structure RunRecord where
  demo : Bool := false
  outcome : Option RunOutcome := none
  error : Option String := none
deriving DecidableEq, Repr

def RunRecord.state (record : RunRecord) : RunState :=
  if record.error.isSome then .error else if record.outcome.isSome then .done else .pending

/-- Records by run id, the oldest entry first. -/
abbrev RunTable := KeyedTable (Prod.fst : String × RunRecord → String)

structure RunRegistry where
  maxEntries : ℕ := 200
  runs : RunTable := ∅

namespace RunRegistry

def evictLocked (registry : RunRegistry) : RunRegistry :=
  { registry with runs := registry.runs.evict registry.maxEntries }

/-- Register a run as pending. -/
def start (registry : RunRegistry) (runId : String) (demo : Bool) : RunRegistry :=
  evictLocked { registry with runs := registry.runs.put (runId, { demo }) }

def get (registry : RunRegistry) (runId : String) : Option RunRecord :=
  (registry.runs.find? runId).map Prod.snd

/-- Update the record of a run, or a new record when the registry has none, and make it the newest. -/
def setRecord (registry : RunRegistry) (runId : String) (update : RunRecord → RunRecord) : RunRegistry :=
  let record := (registry.get runId).getD {}
  { registry with runs := (registry.runs.put (runId, update record)).moveToEnd runId }

def setOutcome (registry : RunRegistry) (runId : String) (outcome : RunOutcome) : RunRegistry :=
  registry.setRecord runId fun record => { record with outcome := some outcome }

def setError (registry : RunRegistry) (runId message : String) : RunRegistry :=
  registry.setRecord runId fun record => { record with error := some message }

def state (registry : RunRegistry) (runId : String) : RunState :=
  match registry.get runId with
  | some record => record.state
  | none => .unknown

end RunRegistry

/-- One call of a handler or a worker. -/
inductive RegistryCall where
  | start (runId : String) (demo : Bool)
  | setOutcome (runId : String) (outcome : RunOutcome)
  | setError (runId message : String)
  | get (runId : String)
  | state (runId : String)

/-- The registry after a call. Both readers leave it alone. -/
def RunRegistry.apply (registry : RunRegistry) : RegistryCall → RunRegistry
  | .start runId demo => registry.start runId demo
  | .setOutcome runId outcome => registry.setOutcome runId outcome
  | .setError runId message => registry.setError runId message
  | .get _ | .state _ => registry

/-- The registry after an interleaving of calls. -/
def RunRegistry.run (registry : RunRegistry) (calls : List RegistryCall) : RunRegistry :=
  calls.foldl RunRegistry.apply registry

end ReconcileFlow
