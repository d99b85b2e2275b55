import ReconcileFlow.Model.ConcurrentRuns
import ReconcileFlow.Soundness.History

/-! # Overlapping runs and the lifecycle

On the stored statuses the first commit of a run records the entries of its loop and the second closes
the keys it did not mention. Two runs that both record before either closes are an overlap of their
snapshots: it is serial exactly when the run that recorded last brought no key of its own, or repeats
what the other run said about every key of the other run.
-/

namespace ReconcileFlow

open EffectRun ReconciliationAgent RunCommits

variable {ω : Type}

namespace PendingRun

/-- The keys and statuses a run records. -/
def entries (run : PendingRun ω) : List (String × ExceptionLifecycleStatus) :=
  run.lists.lifecycle.map LifecycleEntry.recorded

/-- The lists of the run were built by the dispatch loop of a run. -/
def Drafted (run : PendingRun ω) : Prop :=
  ∃ request before drafted, (draftRun run.deps request).run before = .ok (run.state, run.lists) drafted

theorem Drafted.currentKeys {run : PendingRun ω} (drafted : run.Drafted) :
    run.lists.currentKeys = run.entries.map Prod.fst := by
  obtain ⟨request, before, after, drafts⟩ := drafted
  obtain ⟨-, facts⟩ := draftRun_facts drafts
  unfold entries
  rw [facts.currentKeys, map_fst_recorded]

theorem Drafted.opens {run : PendingRun ω} (drafted : run.Drafted) :
    ∀ entry ∈ run.entries, Database.isUnresolved entry.2 = true := by
  obtain ⟨request, before, after, drafts⟩ := drafted
  obtain ⟨-, facts⟩ := draftRun_facts drafts
  exact facts.opens

/-- The system after the first commit of a run. -/
def dispatchCommit (run : PendingRun ω) (sys : Sys ω) : Sys ω := (commitStep run (.drafted, sys)).2

/-- The system after the second commit of a run. -/
def verifyCommit (run : PendingRun ω) (sys : Sys ω) : Sys ω := (commitStep run (.dispatched, sys)).2

theorem statuses_dispatchCommit (run : PendingRun ω) (sys : Sys ω) :
    (run.dispatchCommit sys).db.statuses = Snapshot.record run.entries sys.db.statuses := by
  obtain ⟨after, recorded, -, statuses⟩ := recordDispatch_run run.deps run.state.runId run.lists sys
  unfold dispatchCommit commitStep
  dsimp only
  rw [recorded]
  exact statuses

theorem Drafted.statuses_verifyCommit {run : PendingRun ω} (drafted : run.Drafted) (sys : Sys ω) :
    (run.verifyCommit sys).db.statuses =
      Snapshot.closeAbsent settle (run.entries.map Prod.fst) sys.db.statuses := by
  obtain ⟨after, verified, -, statuses⟩ := verifyNode_run run.deps
    { run.state with emails := run.lists.emails, currentKeys := run.lists.currentKeys } sys
  unfold verifyCommit commitStep
  dsimp only
  rw [verified, ← drafted.currentKeys]
  exact statuses

end PendingRun

/-- Every interleaving lets one run commit twice first, or lets the other in between. -/
theorem schedule_cases {schedule : List RunThread} (interleaves : schedule.Perm [.a, .a, .b, .b]) :
    ∃ first second, first ≠ second ∧ (schedule = [first, first, second, second] ∨
      schedule = [first, second, first, second] ∨ schedule = [first, second, second, first]) := by
  obtain ⟨w, x, y, z, rfl⟩ := List.length_eq_four.mp interleaves.length_eq
  revert interleaves
  cases w <;> cases x <;> cases y <;> cases z <;> decide

section Schedules

variable {runs : RunThread → PendingRun ω} (drafted : ∀ thread, (runs thread).Drafted) (sys : Sys ω)
  {first second : RunThread} (distinct : first ≠ second)
include drafted distinct

theorem statusesAfter_serial :
    statusesAfter runs sys [first, first, second, second] =
      Snapshot.sync settle (runs second).entries
        (Snapshot.sync settle (runs first).entries sys.db.statuses) := by
  have committed : statusesAfter runs sys [first, first, second, second] =
      ((runs second).verifyCommit ((runs second).dispatchCommit
        ((runs first).verifyCommit ((runs first).dispatchCommit sys)))).db.statuses := by
    cases first <;> cases second <;> first | rfl | exact absurd rfl distinct
  rw [committed, (drafted second).statuses_verifyCommit, PendingRun.statuses_dispatchCommit,
    (drafted first).statuses_verifyCommit, PendingRun.statuses_dispatchCommit]
  rfl

/-- Once both runs have recorded, it does not matter which one closes first. -/
theorem statusesAfter_overlap {schedule : List RunThread}
    (overlaps : schedule = [first, second, first, second] ∨ schedule = [first, second, second, first]) :
    statusesAfter runs sys schedule =
      Snapshot.overlap settle (runs first).entries (runs second).entries sys.db.statuses := by
  rcases overlaps with rfl | rfl
  · have committed : statusesAfter runs sys [first, second, first, second] =
        ((runs second).verifyCommit ((runs first).verifyCommit
          ((runs second).dispatchCommit ((runs first).dispatchCommit sys)))).db.statuses := by
      cases first <;> cases second <;> first | rfl | exact absurd rfl distinct
    rw [committed, (drafted second).statuses_verifyCommit, (drafted first).statuses_verifyCommit,
      PendingRun.statuses_dispatchCommit, PendingRun.statuses_dispatchCommit]
    rfl
  · have committed : statusesAfter runs sys [first, second, second, first] =
        ((runs first).verifyCommit ((runs second).verifyCommit
          ((runs second).dispatchCommit ((runs first).dispatchCommit sys)))).db.statuses := by
      cases first <;> cases second <;> first | rfl | exact absurd rfl distinct
    rw [committed, (drafted first).statuses_verifyCommit, (drafted second).statuses_verifyCommit,
      PendingRun.statuses_dispatchCommit, PendingRun.statuses_dispatchCommit, Snapshot.closeAbsent_comm]
    rfl

end Schedules

/-- The schedule leaves the statuses of one run after the other, and at least one of the runs still has
every exception it detected unresolved. -/
def LeavesSerial (runs : RunThread → PendingRun ω) (sys : Sys ω) (schedule : List RunThread) : Prop :=
  (statusesAfter runs sys schedule = statusesAfter runs sys [.a, .a, .b, .b] ∨
      statusesAfter runs sys schedule = statusesAfter runs sys [.b, .b, .a, .a]) ∧
    ∃ thread, ∀ key ∈ (runs thread).lists.currentKeys, ∃ status,
      statusesAfter runs sys schedule key = some status ∧ Database.isUnresolved status = true

/-- The second run records no key of its own, or it says the same as the first about all its keys. -/
def Mergeable (first second : PendingRun ω) : Prop :=
  second.lists.currentKeys ⊆ first.lists.currentKeys ∨
    ∀ key ∈ first.lists.currentKeys,
      Snapshot.lastValue second.entries key = Snapshot.lastValue first.entries key

/-- Leaving a serial lifecycle is leaving the statuses of one of the two orders: the run that comes last
then has all its exceptions open. -/
theorem leavesSerial_iff {runs : RunThread → PendingRun ω} (drafted : ∀ thread, (runs thread).Drafted)
    (sys : Sys ω) {first second : RunThread} (distinct : first ≠ second) (schedule : List RunThread) :
    LeavesSerial runs sys schedule ↔
      statusesAfter runs sys schedule = Snapshot.sync settle (runs second).entries
        (Snapshot.sync settle (runs first).entries sys.db.statuses) ∨
      statusesAfter runs sys schedule = Snapshot.sync settle (runs first).entries
        (Snapshot.sync settle (runs second).entries sys.db.statuses) := by
  have orders : (statusesAfter runs sys schedule = statusesAfter runs sys [.a, .a, .b, .b] ∨
      statusesAfter runs sys schedule = statusesAfter runs sys [.b, .b, .a, .a]) ↔
      (statusesAfter runs sys schedule = statusesAfter runs sys [first, first, second, second] ∨
        statusesAfter runs sys schedule = statusesAfter runs sys [second, second, first, first]) := by
    cases first <;> cases second <;> first | exact Iff.rfl | exact or_comm | exact absurd rfl distinct
  rw [← statusesAfter_serial drafted sys distinct, ← statusesAfter_serial drafted sys distinct.symm, ← orders]
  refine ⟨And.left, fun serial => ⟨serial, ?_⟩⟩
  have lastOpen (last : RunThread) (view : String → Option ExceptionLifecycleStatus)
      (same : statusesAfter runs sys schedule = Snapshot.sync settle (runs last).entries view) :
      ∀ key ∈ (runs last).lists.currentKeys, ∃ status,
        statusesAfter runs sys schedule key = some status ∧ Database.isUnresolved status = true := by
    intro key current
    rw [(drafted last).currentKeys] at current
    rw [same]
    exact (Snapshot.sync_open_iff settle_resolves (drafted last).opens view key).mpr current
  rcases serial with same | same
  · rw [statusesAfter_serial drafted sys (by decide)] at same
    exact ⟨.b, lastOpen .b _ same⟩
  · rw [statusesAfter_serial drafted sys (by decide)] at same
    exact ⟨.a, lastOpen .a _ same⟩

/-- An interleaving of the commits of two runs leaves a serial lifecycle exactly when one run commits
twice before the other starts, or what the two runs record can be merged. -/
theorem leaves_serial_iff {runs : RunThread → PendingRun ω} (drafted : ∀ thread, (runs thread).Drafted)
    (sys : Sys ω) {schedule : List RunThread} (interleaves : schedule.Perm [.a, .a, .b, .b]) :
    LeavesSerial runs sys schedule ↔ ∀ first second later, schedule = first :: second :: later →
      first ≠ second → Mergeable (runs first) (runs second) := by
  obtain ⟨first, second, distinct, rfl | overlaps⟩ := schedule_cases interleaves
  · refine iff_of_true ?_ ?_
    · rw [leavesSerial_iff drafted sys distinct]
      exact .inl (statusesAfter_serial drafted sys distinct)
    · rintro first' second' later same different
      cases same
      exact absurd rfl different
  · let isOpen (status : ExceptionLifecycleStatus) : Prop := Database.isUnresolved status = true
    have closes : ∀ status, ¬isOpen (settle status) := settle_resolves
    have opens (thread : RunThread) : ∀ entry ∈ (runs thread).entries, isOpen entry.2 := (drafted thread).opens
    rw [leavesSerial_iff drafted sys distinct, statusesAfter_overlap drafted sys distinct overlaps,
      Snapshot.overlap_eq_sync_iff closes (opens second), Snapshot.overlap_eq_swapped_iff closes (opens first),
      ← (drafted first).currentKeys, ← (drafted second).currentKeys]
    constructor
    · intro mergeable first' second' later same _
      rcases overlaps with rfl | rfl <;> cases same <;> exact mergeable
    · intro always
      rcases overlaps with rfl | rfl
      · exact always first second _ rfl distinct
      · exact always first second _ rfl distinct

/-- The run of a request, drafted on the given system. -/
def pendingRun (deps : AgentDependencies ω) (request : RunRequest) (before : Sys ω) : Option (PendingRun ω) :=
  match (draftRun deps request).run before with
  | .ok (state, lists) _ => some { deps, state, lists }
  | .error _ _ => none

theorem drafted_of_pendingRun {deps : AgentDependencies ω} {request : RunRequest} {before : Sys ω}
    {run : PendingRun ω} (pending : pendingRun deps request before = some run) : run.Drafted := by
  unfold pendingRun at pending
  split at pending
  · next state lists drafted drafts =>
    cases pending
    exact ⟨request, before, drafted, drafts⟩
  · cases pending

/-- Two uploads at once: on each thread one unpaid order. -/
def uploadOf (orderId : String) (thread : RunThread) : Option (PendingRun Unit) :=
  let runId := match thread with
    | .a => "run-1"
    | .b => "run-2"
  pendingRun (scriptedDependencies (.ok {}))
    { orders := [makeOrder orderId], settlements := [], runId := some runId } emptyStart

/-- The same unpaid order on both threads. -/
def sameUploads (thread : RunThread) : PendingRun Unit :=
  (uploadOf "O1" thread).get (by cases thread <;> decide +kernel)

theorem leaves_serial_same : LeavesSerial sameUploads emptyStart [.a, .b, .b, .a] := by
  have drafted (thread : RunThread) : (sameUploads thread).Drafted :=
    drafted_of_pendingRun (Option.some_get _).symm
  refine (leaves_serial_iff drafted emptyStart (by decide)).mpr fun first second later same _ => ?_
  cases same
  exact .inl (by decide +kernel)

/-- An unpaid order of its own on each thread. -/
def separateUploads : RunThread → PendingRun Unit
  | .a => (uploadOf "O1" .a).get (by decide +kernel)
  | .b => (uploadOf "O2" .b).get (by decide +kernel)

/-- Each of the two runs closes the exception that the other one has just detected. -/
theorem overlapping_uploads_close_both :
    (∀ thread, (separateUploads thread).Drafted) ∧
      ¬LeavesSerial separateUploads emptyStart [.a, .b, .a, .b] := by
  constructor
  · intro thread
    cases thread with
    | a => exact drafted_of_pendingRun (Option.some_get _).symm
    | b => exact drafted_of_pendingRun (Option.some_get _).symm
  · rintro ⟨-, thread, unresolved⟩
    have closed : ∀ key ∈ (separateUploads thread).lists.currentKeys,
        statusesAfter separateUploads emptyStart [.a, .b, .a, .b] key = some .resolved := by
      cases thread <;> decide +kernel
    have detected : (separateUploads thread).lists.currentKeys ≠ [] := by
      cases thread <;> decide +kernel
    obtain ⟨key, current⟩ := List.exists_mem_of_ne_nil _ detected
    obtain ⟨status, stored, isOpen⟩ := unresolved key current
    rw [closed key current] at stored
    cases stored
    cases isOpen

end ReconcileFlow
