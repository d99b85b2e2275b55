import ReconcileFlow.Model.Nodes

/-! # Two runs on background threads

The API starts every upload on a thread of its own, and all runs share one database. What a run does to
`exception_log` is committed in two transactions: the end of its dispatch node, and later its verify
node. A schedule names the run that commits next; nothing keeps another run from committing in between.
-/

namespace ReconcileFlow

open EffectRun

variable {ω : Type}

/-- A run whose dispatch loop has ended, before its first commit. -/
structure PendingRun (ω : Type) where
  deps : AgentDependencies ω
  state : ReconciliationState
  lists : DispatchLists

/-- The last transaction a run has committed. -/
inductive RunPhase where
  | drafted | dispatched | verified
deriving DecidableEq, Repr

/-- The next commit of a run; a finished run does not move. -/
def commitStep (run : PendingRun ω) : RunPhase × Sys ω → RunPhase × Sys ω
  | (.drafted, sys) =>
    (.dispatched, finalState ((recordDispatch run.deps run.state.runId run.lists).run sys))
  | (.dispatched, sys) =>
    let dispatched := { run.state with emails := run.lists.emails, currentKeys := run.lists.currentKeys }
    (.verified, finalState ((verifyNode run.deps dispatched).run sys))
  | (.verified, sys) => (.verified, sys)

/-- The two background threads. -/
inductive RunThread where
  | a | b
deriving DecidableEq, Repr

instance : Fintype RunThread := ⟨{.a, .b}, fun thread => by cases thread <;> decide⟩

/-- How far both runs are, over the state they share. -/
structure RunCommits (ω : Type) where
  phases : RunThread → RunPhase
  sys : Sys ω

namespace RunCommits

variable (runs : RunThread → PendingRun ω)

/-- Both runs are about to commit. -/
def start (sys : Sys ω) : RunCommits ω := ⟨fun _ => .drafted, sys⟩

/-- The run on the given thread commits. -/
def step (state : RunCommits ω) (thread : RunThread) : RunCommits ω :=
  let moved := commitStep (runs thread) (state.phases thread, state.sys)
  ⟨Function.update state.phases thread moved.1, moved.2⟩

/-- The state after a schedule. -/
def run (state : RunCommits ω) (schedule : List RunThread) : RunCommits ω :=
  schedule.foldl (step runs) state

/-- The lifecycle statuses after a schedule. -/
def statusesAfter (sys : Sys ω) (schedule : List RunThread) : String → Option ExceptionLifecycleStatus :=
  fun mismatchKey =>
    ((run runs (start sys) schedule).sys.db.exceptions.find? mismatchKey).map ExceptionRow.status

end RunCommits

end ReconcileFlow
