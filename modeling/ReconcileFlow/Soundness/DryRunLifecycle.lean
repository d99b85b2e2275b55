import ReconcileFlow.Soundness.DryRun
import ReconcileFlow.Soundness.History

/-! # The lifecycle table under a dry run

The dry-run flag reaches the send call and nothing else. A dry run whose graph returns records its
lifecycle entries and resolves the absent keys like any other run, and a run whose graph raises leaves
the table alone. So a dry run changes no stored status exactly when it does not complete or the table
already reflects what the file would record (`dry_run_statuses_iff`).
-/

namespace ReconcileFlow

open EffectRun ReconciliationAgent ScheduledRun

variable {ω : Type}

/-- The exceptions of a run, in the order in which they are decided. -/
def runExceptions (deps : AgentDependencies ω) (request : RunRequest) (before : Sys ω) :
    List ExceptionRecord :=
  (sortedState deps (initialState deps.config request (chosenRunId deps.host request before.world)
    (startedAsOf deps request before)) (requestReply deps request before.world)).exceptions

/-- The client's decisions about them, when it answers them all. -/
def runDecisions (deps : AgentDependencies ω) (request : RunRequest) (before : Sys ω) :
    Option (List ExceptionDecision) :=
  let initial := initialState deps.config request (chosenRunId deps.host request before.world)
    (startedAsOf deps request before)
  (askDecisions deps (runExceptions deps request before) (fuzzyEdgeWorld deps
    (afterKeys deps.config initial) (graphWorld deps request before.world))).map Prod.fst

/-- The keys and statuses that follow from the exceptions of a file and the decisions about them. -/
def fileEntries (deps : AgentDependencies ω) (request : RunRequest) (before : Sys ω) :
    List (String × ExceptionLifecycleStatus) :=
  (((runExceptions deps request before).zip ((runDecisions deps request before).getD [])).flatMap
    (entriesOf deps.config)).map LifecycleEntry.recorded

/-- A run does not complete exactly when its id is taken or its graph raises. -/
theorem completedRun_eq_none_iff {deps : AgentDependencies ω} {request : RunRequest} {before : Sys ω} :
    completedRun deps request before = none ↔
      (before.db.runs.find? (chosenRunId deps.host request before.world)).isSome = true ∨
        EffectRun.raises (graphRun deps request before) = true := by
  unfold completedRun
  cases fresh : before.db.runs.find? (chosenRunId deps.host request before.world) with
  | some row =>
    rw [execute_eq, bind_of_error (beginRun_of_taken fresh)]
    exact iff_of_true rfl (.inl rfl)
  | none =>
    rw [execute_eq, bind_of_ok (beginRun_of_fresh fresh), Option.isSome_none, or_iff_right Bool.false_ne_true]
    cases graph : graphRun deps request before with
    | ok final ended =>
      unfold graphRun at graph
      dsimp only
      rw [bind_of_ok (attempt_of_ok graph)]
      refine iff_of_false ?_ Bool.false_ne_true
      rintro ⟨⟩
    | error raised ended =>
      unfold graphRun at graph
      dsimp only
      rw [bind_of_ok (attempt_of_error graph)]
      exact iff_of_true rfl rfl

/-- The draft carries the sorted state with the client's decisions. -/
theorem draftNodes_asked {deps : AgentDependencies ω} {initial decided : ReconciliationState}
    {lists : DispatchLists} {before drafted : Sys ω}
    (success : (draftNodes deps initial).run before = .ok (decided, lists) drafted) :
    let sorted := sortedState deps initial (fuzzyReply deps (afterKeys deps.config initial) before.world)
    ∃ asked, askDecisions deps sorted.exceptions
        (fuzzyEdgeWorld deps (afterKeys deps.config initial) before.world) = some asked ∧
      decided = { sorted with decisions := asked.1 } := by
  intro expected
  obtain ⟨sorted, sortedSys, sorts, success⟩ := bind_eq_ok_iff.mp success
  obtain ⟨judged, decidedSys, decides, success⟩ := bind_eq_ok_iff.mp success
  obtain ⟨built, looped, loop, finished⟩ := bind_eq_ok_iff.mp success
  cases finished
  obtain ⟨ended, returned, moved⟩ := sortNodes_run deps initial before
  rw [returned] at sorts
  cases sorts
  have mirrors := decideNode_mirrors deps expected sortedSys
  rw [decides, moved] at mirrors
  obtain ⟨asked, answered, same, -⟩ := mirrors.of_ok
  exact ⟨asked, answered, same⟩

/-- The draft of a run carries the exceptions of the run and the decisions about them. -/
theorem draftRun_decided {deps : AgentDependencies ω} {request : RunRequest} {before drafted : Sys ω}
    {decided : ReconciliationState} {lists : DispatchLists}
    (success : (draftRun deps request).run before = .ok (decided, lists) drafted) :
    decided.exceptions = runExceptions deps request before ∧
      runDecisions deps request before = some decided.decisions := by
  obtain ⟨begun, started, begins, success⟩ := bind_eq_ok_iff.mp success
  obtain ⟨-, rfl, rfl⟩ := beginRun_ok begins
  obtain ⟨asked, answered, rfl⟩ := draftNodes_asked success
  exact ⟨rfl, congrArg (Option.map Prod.fst) answered⟩

/-- The loop of a run lists the entries of its file. -/
theorem lifecycle_eq_fileEntries {deps : AgentDependencies ω} {request : RunRequest} {before drafted : Sys ω}
    {decided : ReconciliationState} {lists : DispatchLists}
    (success : (draftRun deps request).run before = .ok (decided, lists) drafted) :
    lists.lifecycle.map LifecycleEntry.recorded = fileEntries deps request before := by
  obtain ⟨-, facts⟩ := draftRun_facts success
  obtain ⟨exceptions, decisions⟩ := draftRun_decided success
  rw [facts.lifecycle, decidedPairs, exceptions, fileEntries, decisions]
  rfl

/-- On the stored statuses a run that completes, dry or not, records the entries of its file and closes
the keys that the file does not mention. -/
theorem statuses_of_completedRun {deps : AgentDependencies ω} {request : RunRequest} {before after : Sys ω}
    {final : ReconciliationState} (completed : completedRun deps request before = some (final, after)) :
    (finalState ((ReconciliationAgent.run deps request).run before)).db.statuses =
      Snapshot.sync settle (fileEntries deps request before) before.db.statuses := by
  obtain ⟨outcome, completes⟩ := completes_of_completedRun completed
  obtain ⟨decided, lists, drafted, opened, verified, stages, -, rfl⟩ := completes.stages
  obtain ⟨-, -, statuses⟩ := stages.statuses
  rw [completes.ran, finalState_ok, statuses_eq_of_exceptions (exceptions_concluded ..), statuses,
    lifecycle_eq_fileEntries stages.drafts]

/-- A dry run leaves every stored key and status as it was exactly when it does not complete (its id is
taken, or the client leaves a question unanswered) or the table already reflects the file: the keys of
its exceptions are stored with the statuses of their decisions, and every other row is resolved. -/
theorem dry_run_statuses_iff {deps : AgentDependencies ω} {request : RunRequest} {before : Sys ω}
    (dry : request.dryRun = true) :
    (finalState ((ReconciliationAgent.run deps request).run before)).db.statuses = before.db.statuses ↔
      (before.db.runs.find? (chosenRunId deps.host request before.world)).isSome = true ∨
        dryRunAnswered deps request before = false ∨
          Snapshot.Reflects settle (fileEntries deps request before) before.db.statuses := by
  rw [← or_assoc, ← graphRun_raises_iff dry, ← completedRun_eq_none_iff]
  cases completed : completedRun deps request before with
  | none => exact iff_of_true (statuses_eq_of_exceptions (exceptions_of_incomplete completed)) (.inl rfl)
  | some ended =>
    rw [statuses_of_completedRun completed, Snapshot.sync_eq_self_iff, or_iff_right (by rintro ⟨⟩)]

/-- Two unpaid orders on an empty table. -/
theorem dry_run_statuses_iff_separate :
    (finalState ((ReconciliationAgent.run (scriptedDependencies (.ok {}))
        { separateRequest with dryRun := true }).run emptyStart)).db.statuses = emptyStart.db.statuses ↔
      (emptyStart.db.runs.find? (chosenRunId (scriptedDependencies (.ok {})).host
          { separateRequest with dryRun := true } emptyStart.world)).isSome = true ∨
        dryRunAnswered (scriptedDependencies (.ok {})) { separateRequest with dryRun := true } emptyStart =
          false ∨
          Snapshot.Reflects settle (fileEntries (scriptedDependencies (.ok {}))
            { separateRequest with dryRun := true } emptyStart) emptyStart.db.statuses :=
  dry_run_statuses_iff rfl

/-- A stretch that keeps the statuses resolves nothing. -/
theorem newlyResolved_of_statuses {before after : Sys ω} (same : after.db.statuses = before.db.statuses) :
    newlyResolved before after = 0 := by
  refine List.countP_eq_zero.mpr fun row member turned => ?_
  rw [← same, find?_of_mem member, Option.any_some, Bool.and_eq_true, decide_eq_true_eq] at turned
  rw [turned.1] at turned
  cases turned.2

/-- After the run on two unpaid orders, a dry run on a file with the first of them resolves the other. -/
theorem preview_resolves :
    let run : ScheduledRun Unit := ⟨scriptedDependencies (.ok {}),
      { separateRequest with runId := some "run-2", orders := [makeOrder "O1" ⟨10000⟩], dryRun := true }, ()⟩
    let before := runAll emptyStart (correctedHistory.take 1)
    run.request.dryRun = true ∧ newlyResolved before (run.leaves before) = 1 ∧
      (run.leaves before).db.statuses ≠ before.db.statuses := by
  intro run before
  have resolved : newlyResolved before (run.leaves before) = 1 := by decide +kernel
  refine ⟨rfl, resolved, fun same => ?_⟩
  rw [newlyResolved_of_statuses same] at resolved
  cases resolved

end ReconcileFlow
