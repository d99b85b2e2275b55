import ReconcileFlow.Model.Progress

/-! # Background runs as their handlers see them

A process runs every upload on a thread of its own. What the handlers see of a run are the calls its
threads make on the registry and the commits of its worker: the run record, the audit events, the end
of the record. Every such step is atomic, so an interleaving of any number of runs is a list of steps.
`workerNext` is the order in which one run takes them.
-/

namespace ReconcileFlow

/-- A commit of the worker of one run, as far as a handler can see it. -/
inductive WorkerCommit (runId : String) where
  | record (row : RunLogRow) (ofRun : row.id = runId)
  | events (rows : List AuditRow) (ofRun : ∀ row ∈ rows, row.runId = runId)
  | closed (status : RunStatus) (summary : SummaryJson) (now : Timestamp)

inductive ProcessStep where
  /-- A handler registers a run before its thread is launched. -/
  | start (runId : String) (demo : Bool)
  | commit (runId : String) (made : WorkerCommit runId)
  | setOutcome (runId : String) (outcome : RunOutcome)
  | setError (runId message : String)

/-- The run that a step is about. -/
def ProcessStep.runId : ProcessStep → String
  | start runId _ | commit runId _ | setOutcome runId _ | setError runId _ => runId

/-- What a worker leaves in the registry: the outcome that `run` returned, or what it raised. -/
inductive WorkerEnd where
  | returned (outcome : RunOutcome)
  | raised (message : String)

def WorkerEnd.step (runId : String) : WorkerEnd → ProcessStep
  | returned outcome => .setOutcome runId outcome
  | raised message => .setError runId message

/-- What the handlers read: the registry and the database. -/
structure Process where
  registry : RunRegistry
  db : Database

/-- A database after a commit. -/
def WorkerCommit.write {runId : String} (db : Database) : WorkerCommit runId → Database
  | record row _ => { db with runs := db.runs.put row }
  | events rows _ => { db with audit := db.audit ++ rows }
  | closed status summary now => db.finishRun runId status summary now

namespace Process

def apply (process : Process) : ProcessStep → Process
  | .start runId demo => { process with registry := process.registry.start runId demo }
  | .commit _ made => { process with db := made.write process.db }
  | .setOutcome runId outcome => { process with registry := process.registry.setOutcome runId outcome }
  | .setError runId message => { process with registry := process.registry.setError runId message }

/-- The process after an interleaving. -/
def run (process : Process) (steps : List ProcessStep) : Process := steps.foldl apply process

/-- What `GET /runs/{run_id}/progress` answers. -/
def poll (process : Process) (runId : String) : Option ProgressInfo :=
  computeProgress process.registry process.db runId

/-- A poll that reads the registry after `seen`, and the database some steps later. -/
def pollAcross (process : Process) (seen later : List ProcessStep) (runId : String) : Option ProgressInfo :=
  computeProgress (process.run seen).registry (process.run (seen ++ later)).db runId

/-- What `GET /results/{run_id}` answers. -/
def page (process : Process) (runId : String) : ResultsPage := resultsPage process.registry runId

end Process

/-- The rank a trail has reached, after one more event; an event may not fall behind it. -/
def advanceRank (rank : ℕ) (event : AuditRow) : Option ℕ :=
  (eventRank event.eventType).filter fun next => rank ≤ next

/-- The rank after some events, if they come in pipeline order. -/
def advance (rank : ℕ) (events : List AuditRow) : Option ℕ := events.foldlM advanceRank rank

/-- Where a background run stands. -/
inductive WorkerPhase where
  | absent
  | registered
  /-- The run record is committed, and the trail has reached a rank. -/
  | working (rank : ℕ)
  | ended (failed : Bool)
deriving DecidableEq, Repr

/-- The next step of a run: the handler registers it; its worker inserts the record, commits events in
pipeline order, closes the record, and leaves an outcome or an error. -/
def workerNext : WorkerPhase → ProcessStep → Option WorkerPhase
  | .absent, .start _ _ => some .registered
  | .registered, .commit _ (.record _ _) => some (.working 0)
  | .working rank, .commit _ (.events rows _) => (advance rank rows).map WorkerPhase.working
  | .working rank, .commit _ (.closed _ _ _) => some (.working rank)
  | .registered, .setOutcome _ _ | .working _, .setOutcome _ _ => some (.ended false)
  | .registered, .setError _ _ | .working _, .setError _ _ => some (.ended true)
  | _, _ => none

/-- The phase of a run after an interleaving, if its own steps come in order. -/
def phaseOf (runId : String) (steps : List ProcessStep) : Option WorkerPhase :=
  (steps.filter fun step => step.runId = runId).foldlM workerNext .absent

/-- The steps of the worker of a run: it commits and leaves an end. -/
def threadSteps (runId : String) (commits : List (WorkerCommit runId)) (ended : WorkerEnd) : List ProcessStep :=
  commits.map (ProcessStep.commit runId) ++ [ended.step runId]

/-- The steps of one background run: its handler registers it before its worker starts. -/
def workerSteps (runId : String) (demo : Bool) (commits : List (WorkerCommit runId)) (ended : WorkerEnd) :
    List ProcessStep :=
  .start runId demo :: threadSteps runId commits ended

end ReconcileFlow
