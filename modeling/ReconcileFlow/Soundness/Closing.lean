import ReconcileFlow.Soundness.History

/-! # Problems that are still present

A row of the lifecycle table is keyed by the hash of a reason, a problem (order, settlement, payment
type) and a recipient role, so the sweep of a run closes every row whose key the run did not record,
also when the problem is there again under another reason or another role. A ghost log of what each
run filed tells which exception a row was created for. Where every run files an open problem that it
meets again with the reason and for the role of its row, no problem that is still present is closed.
-/

namespace ReconcileFlow

open EffectRun ReconciliationAgent ScheduledRun

variable {ω : Type}

/-- Two exceptions about the same order, settlement and payment type. -/
def SameProblem (first second : ExceptionRecord) : Prop :=
  second.orderId = first.orderId ∧ second.settlementId = first.settlementId ∧
    second.paymentType = first.paymentType

instance (first second : ExceptionRecord) : Decidable (SameProblem first second) :=
  inferInstanceAs (Decidable (_ ∧ _ ∧ _))

/-- The targets for which a decided exception is recorded, mailed or not. -/
def routedTargets (config : AppConfig) (decided : ExceptionRecord × ExceptionDecision) :
    List RecipientTarget :=
  if decided.2.action = .wait then resolveTargets config decided.1
  else (targetsForAction config decided.1 decided.2.action).2.2

/-- An exception filed for a role. -/
structure Filing where
  exception : ExceptionRecord
  role : RecipientRole

def Filing.key (filing : Filing) : String := exceptionKey filing.exception filing.role

/-- What a run with this final state files, in the order of its lifecycle list. -/
def filings (config : AppConfig) (final : ReconciliationState) : List Filing :=
  (decidedPairs final).flatMap fun one => (routedTargets config one).map fun target =>
    ⟨one.1, target.role⟩

theorem routedTargets_key {config : AppConfig} {decided : ExceptionRecord × ExceptionDecision}
    {target : RecipientTarget} (member : target ∈ routedTargets config decided) :
    target.mismatchKey = exceptionKey decided.1 target.role := by
  have resolved (present : target ∈ resolveTargets config decided.1) :
      target.mismatchKey = exceptionKey decided.1 target.role := by
    obtain ⟨role, -, rfl⟩ := List.mem_map.mp present
    rfl
  unfold routedTargets at member
  split at member
  · exact resolved member
  · unfold targetsForAction at member
    split at member
    · rw [List.mem_singleton.mp member]
      rfl
    · exact resolved member
    · exact resolved member

theorem keys_entriesOf (config : AppConfig) (decided : ExceptionRecord × ExceptionDecision) :
    (entriesOf config decided).map LifecycleEntry.mismatchKey =
      (routedTargets config decided).map RecipientTarget.mismatchKey := by
  unfold entriesOf routedTargets
  split
  · rw [List.map_map]
    rfl
  · dsimp only
    rw [List.map_map]
    rfl

/-- The keys a run records are the keys of what it files. -/
theorem keys_filings (config : AppConfig) (final : ReconciliationState) :
    ((decidedPairs final).flatMap (entriesOf config)).map LifecycleEntry.mismatchKey =
      (filings config final).map Filing.key := by
  unfold filings
  rw [List.map_flatMap, List.map_flatMap]
  apply List.flatMap_congr
  intro one _
  rw [keys_entriesOf, List.map_map]
  exact List.map_congr_left fun target member => routedTargets_key member

theorem ReconciliationAgent.Stages.currentKeys {deps : AgentDependencies ω} {request : RunRequest}
    {before drafted opened verified : Sys ω} {decided final : ReconciliationState} {lists : DispatchLists}
    (stages : Stages deps request before decided lists drafted opened final verified) :
    final.currentKeys = (filings deps.config final).map Filing.key := by
  obtain ⟨-, facts⟩ := draftRun_facts stages.drafts
  obtain ⟨keys, -, -⟩ := stages.statuses
  obtain ⟨_, verified, -, -⟩ := verifyNode_run deps (decided.withLists lists) opened
  rw [stages.verifies] at verified
  cases verified
  rw [keys, map_fst_recorded, facts.lifecycle, keys_filings]
  rfl

namespace ScheduledRun

/-- What a run files; only a completed run has committed its lists. -/
def files (run : ScheduledRun ω) (sys : Sys ω) : List Filing :=
  match completedRun run.deps run.request (run.finds sys) with
  | some (final, _) => filings run.deps.config final
  | none => []

/-- What a history files, oldest first. -/
def filesAll (sys : Sys ω) : List (ScheduledRun ω) → List Filing
  | [] => []
  | run :: later => run.files sys ++ filesAll (run.leaves sys) later

end ScheduledRun

/-- The filing a row was created for: rows are never deleted, so the first under its key. -/
def createdFor (log : List Filing) (mismatchKey : String) : Option Filing :=
  log.find? fun filing => decide (filing.key = mismatchKey)

theorem key_of_createdFor {log : List Filing} {mismatchKey : String} {filing : Filing}
    (created : createdFor log mismatchKey = some filing) : filing.key = mismatchKey := by
  simpa using List.find?_some created

theorem exists_createdFor {log : List Filing} {mismatchKey : String}
    (filed : mismatchKey ∈ log.map Filing.key) : ∃ filing, createdFor log mismatchKey = some filing := by
  obtain ⟨filing, member, key⟩ := List.mem_map.mp filed
  rw [← Option.isSome_iff_exists]
  exact List.find?_isSome.mpr ⟨filing, member, decide_eq_true key⟩

/-- A row that a run leaves was there before or is one the run filed. -/
theorem row_of_leaves (run : ScheduledRun ω) (sys : Sys ω) {row : ExceptionRow}
    (member : row ∈ (run.leaves sys).db.exceptions.rows) :
    row.mismatchKey ∈ sys.db.exceptions.rows.map ExceptionRow.mismatchKey ∨
      row.mismatchKey ∈ (run.files sys).map Filing.key := by
  unfold ScheduledRun.files
  cases completed : completedRun run.deps run.request (run.finds sys) with
  | none =>
    unfold ScheduledRun.leaves at member
    rw [exceptions_of_incomplete completed] at member
    exact .inl (List.mem_map_of_mem member)
  | some ended =>
    obtain ⟨final, after⟩ := ended
    obtain ⟨outcome, completes⟩ := completes_of_completedRun completed
    obtain ⟨decided, lists, drafted, opened, verified, stages, -, rfl⟩ := completes.stages
    unfold ScheduledRun.leaves at member
    rw [completes.ran, finalState_ok, exceptions_concluded] at member
    have stored := find?_of_mem member
    obtain ⟨keys, -, statuses⟩ := stages.statuses
    dsimp only
    rw [← stages.currentKeys]
    by_cases current : row.mismatchKey ∈ final.currentKeys
    · exact .inr current
    · rw [keys] at current
      rw [statuses, Snapshot.sync_of_notMem current, Option.map_eq_some_iff] at stored
      obtain ⟨status, before, -⟩ := stored
      obtain ⟨old, found, -⟩ := Option.map_eq_some_iff.mp before
      obtain ⟨present, key⟩ := KeyedTable.find?_eq_some_iff.mp found
      exact .inl (key ▸ List.mem_map_of_mem present)

/-- Along a history every row goes back to a filing, if the table starts empty. -/
theorem rows_filed {start : Sys ω} (empty : start.db.exceptions.rows = []) (runs : List (ScheduledRun ω)) :
    ∀ row ∈ (runAll start runs).db.exceptions.rows,
      row.mismatchKey ∈ (filesAll start runs).map Filing.key := by
  have fromHere : ∀ (runs : List (ScheduledRun ω)) (sys : Sys ω) (log : List Filing),
      (∀ row ∈ sys.db.exceptions.rows, row.mismatchKey ∈ log.map Filing.key) →
      ∀ row ∈ (runAll sys runs).db.exceptions.rows,
        row.mismatchKey ∈ (log ++ filesAll sys runs).map Filing.key := by
    intro runs
    induction runs with
    | nil =>
      intro sys log filed row member
      rw [filesAll, List.append_nil]
      exact filed row member
    | cons run later ih =>
      intro sys log filed
      rw [filesAll, ← List.append_assoc]
      refine ih (run.leaves sys) (log ++ run.files sys) fun row member => ?_
      rw [List.map_append, List.mem_append]
      refine (row_of_leaves run sys member).imp_left fun before => ?_
      obtain ⟨old, present, key⟩ := List.mem_map.mp before
      rw [← key]
      exact filed old present
  have filed := fromHere runs start [] (by simp [empty])
  rwa [List.nil_append] at filed

/-- A row that the sweep turns from unresolved to resolved was not recorded by the run, and stood
unresolved before it. -/
theorem ReconciliationAgent.Stages.turned {deps : AgentDependencies ω} {request : RunRequest}
    {before drafted opened verified : Sys ω} {decided final : ReconciliationState} {lists : DispatchLists}
    (stages : Stages deps request before decided lists drafted opened final verified) {mismatchKey : String}
    {status : ExceptionLifecycleStatus} (stood : opened.db.statuses mismatchKey = some status)
    (unresolved : Database.isUnresolved status = true)
    (resolved : verified.db.statuses mismatchKey = some .resolved) :
    mismatchKey ∉ final.currentKeys ∧ before.db.statuses mismatchKey = some status := by
  obtain ⟨keys, openedStatuses, statuses⟩ := stages.statuses
  rw [openedStatuses] at stood
  rw [statuses] at resolved
  rw [keys]
  by_cases current : mismatchKey ∈ (lists.lifecycle.map LifecycleEntry.recorded).map Prod.fst
  · obtain ⟨value, last⟩ := Snapshot.exists_lastValue current
    rw [Snapshot.record_of_lastValue last] at stood
    rw [Snapshot.sync_of_lastValue last] at resolved
    cases stood
    cases resolved
    cases unresolved
  · rw [Snapshot.record_of_notMem current] at stood
    exact ⟨current, stood⟩

/-- Whatever the runs of a history close, the problem of the closed row is gone: the run's exceptions
hold none with the order, settlement and payment type of the exception the row was created for. -/
def ClosesOnlyAbsent (start : Sys ω) (runs : List (ScheduledRun ω)) : Prop :=
  ∀ past run later, runs = past ++ run :: later → ∀ decided lists drafted opened final verified,
    Stages run.deps run.request (run.finds (runAll start past)) decided lists drafted opened final verified →
    ∀ mismatchKey status, opened.db.statuses mismatchKey = some status →
      Database.isUnresolved status = true → verified.db.statuses mismatchKey = some .resolved →
      ∃ filing, createdFor (filesAll start past) mismatchKey = some filing ∧
        ∀ other ∈ final.exceptions, ¬SameProblem filing.exception other

/-- An open row whose problem the run meets again is filed with its reason and for its role. -/
def Refiles (config : AppConfig) (sys : Sys ω) (log : List Filing) (final : ReconciliationState) : Prop :=
  ∀ row ∈ sys.db.exceptions.rows, Database.isUnresolved row.status = true →
    ∀ filing ∈ createdFor log row.mismatchKey,
      (∃ other ∈ final.exceptions, SameProblem filing.exception other) →
      ∃ one ∈ decidedPairs final, SameProblem filing.exception one.1 ∧
        one.1.reason = filing.exception.reason ∧
        filing.role ∈ (routedTargets config one).map RecipientTarget.role

instance (config : AppConfig) (sys : Sys ω) (log : List Filing) (final : ReconciliationState) :
    Decidable (Refiles config sys log final) :=
  inferInstanceAs (Decidable (∀ row ∈ sys.db.exceptions.rows, _ → ∀ filing ∈ createdFor log row.mismatchKey,
    _ → ∃ one ∈ decidedPairs final, _ ∧ _ ∧ _))

/-- Every run of the history files the open problems it meets again as their rows were created. -/
def RefilesOpen (start : Sys ω) (runs : List (ScheduledRun ω)) : Prop :=
  ∀ past run later, runs = past ++ run :: later → ∀ final after,
    completedRun run.deps run.request (run.finds (runAll start past)) = some (final, after) →
    Refiles run.deps.config (runAll start past) (filesAll start past) final

/-- Where open problems keep the reason and the role of their rows, only absent problems are closed. -/
theorem closes_only_absent {start : Sys ω} (empty : start.db.exceptions.rows = [])
    {runs : List (ScheduledRun ω)} (refiles : RefilesOpen start runs) : ClosesOnlyAbsent start runs := by
  intro past run later split decided lists drafted opened final verified stages mismatchKey status stood
    unresolved resolved
  obtain ⟨absent, before⟩ := stages.turned stood unresolved resolved
  obtain ⟨row, found, rfl⟩ := Option.map_eq_some_iff.mp before
  obtain ⟨member, key⟩ := KeyedTable.find?_eq_some_iff.mp found
  have filed := rows_filed empty past row member
  rw [key] at filed
  obtain ⟨filing, created⟩ := exists_createdFor filed
  refine ⟨filing, created, fun other present same => absent ?_⟩
  obtain ⟨one, listed, problem, reason, routed⟩ := refiles past run later split final _ stages.completedRun
    row member unresolved filing (by rw [key, created]; rfl) ⟨other, present, same⟩
  obtain ⟨target, routes, role⟩ := List.mem_map.mp routed
  -- Reason, problem and role make up the key, so the row's key is recorded again.
  have refiled : (⟨one.1, target.role⟩ : Filing).key = mismatchKey := by
    rw [← key_of_createdFor created]
    unfold Filing.key exceptionKey
    dsimp only
    rw [reason, problem.1, problem.2.1, problem.2.2, role]
  rw [stages.currentKeys, ← refiled]
  apply List.mem_map_of_mem
  exact List.mem_flatMap.mpr ⟨one, listed, List.mem_map_of_mem routes⟩

/-- The same two unpaid orders in two runs, decided by the mock client in both. -/
def unchangedHistory : List (ScheduledRun Unit) :=
  [⟨scriptedDependencies (.ok {}), { separateRequest with runId := some "run-1" }, ()⟩,
    ⟨scriptedDependencies (.ok {}), { separateRequest with runId := some "run-2" }, ()⟩]

theorem closes_only_absent_unchanged : ClosesOnlyAbsent emptyStart unchangedHistory := by
  apply closes_only_absent rfl
  have second : (unchangedHistory[1]?.bind fun run => completedRun run.deps run.request
      (run.finds (runAll emptyStart (unchangedHistory.take 1)))).all (fun ended => decide (Refiles
        shippedConfig (runAll emptyStart (unchangedHistory.take 1))
        (filesAll emptyStart (unchangedHistory.take 1)) ended.1)) = true := by
    decide +kernel
  rintro (_ | ⟨run', _ | ⟨run'', past⟩⟩) run later split final after ran
  · intro row member
    cases member
  · cases split
    exact of_decide_eq_true ((Option.all_eq_true _ _).mp second _ ran)
  · simp [unchangedHistory] at split

/-- A client that escalates everything. -/
def escalatingLlm : LlmClient ω :=
  .ofFunctions (fun _ _ => .ok {})
    (fun _ _ _ => .ok { severity := .needsReview, action := .escalate, rationale := "Needs a human." })
    (fun _ _ _ => .ok scriptedDraft)

/-- One unpaid cash order in two runs: the first escalates it, the second mails the store manager. -/
def escalatedThenMailed : List (ScheduledRun Unit) :=
  let unpaid : RunRequest := { orders := [makeOrder], settlements := [] }
  [⟨buildDependencies shippedConfig escalatingLlm mockNotifier closedBreaker (fixedHost (defaultDate + 2)),
      { unpaid with runId := some "run-1" }, ()⟩,
    ⟨scriptedDependencies (.ok {}), { unpaid with runId := some "run-2" }, ()⟩]

/-- The second run closes the escalated row although the order is still unpaid. -/
theorem escalated_closed_while_unpaid : ¬ClosesOnlyAbsent emptyStart escalatedThenMailed := by
  intro closesAbsent
  let past := escalatedThenMailed.take 1
  let key := makeMismatchKey .cashMissing (some "O1") none (some .cash) .admin
  have stood : (runAll emptyStart past).db.statuses key = some .escalated := by decide +kernel
  have returned : (escalatedThenMailed[1]?.bind fun run => completedRun run.deps run.request
      (run.finds (runAll emptyStart past))).any (fun ended => decide (key ∉ ended.1.currentKeys) &&
        (createdFor (filesAll emptyStart past) key).all fun filing =>
          ended.1.exceptions.any fun other => decide (SameProblem filing.exception other)) = true := by
    decide +kernel
  obtain ⟨final, outcome, after, completes, test⟩ := completes_passing returned
  rw [Bool.and_eq_true, decide_eq_true_eq] at test
  obtain ⟨absent, present⟩ := test
  obtain ⟨decided, lists, drafted, opened, verified, stages, -, -⟩ := completes.stages
  obtain ⟨keys, openedStatuses, statuses⟩ := stages.statuses
  rw [keys] at absent
  have before := stood
  rw [← Snapshot.record_of_notMem absent (runAll emptyStart past).db.statuses] at before
  obtain ⟨filing, created, gone⟩ := closesAbsent past _ [] rfl _ _ _ _ _ _ stages key .escalated
    ((congrFun openedStatuses key).trans before) rfl (by
      rw [statuses, Snapshot.sync_of_notMem absent]
      exact congrArg (Option.map settle) stood)
  obtain ⟨other, member, same⟩ := List.any_eq_true.mp
    ((Option.all_eq_true _ _).mp present filing created)
  exact gone other member (of_decide_eq_true same)

end ReconcileFlow
