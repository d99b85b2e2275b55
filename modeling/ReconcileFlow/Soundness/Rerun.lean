import ReconcileFlow.Model.Offline
import ReconcileFlow.Soundness.DispatchLoop

/-! # Running the same input again

A completed run leaves facts behind that do not mention its run id, its times or its deliveries
(`RunFacts`): every exception was decided, every mail drafted, and the stored statuses are a recorded
snapshot of its lifecycle list with the absent keys resolved. With a client that answers by its
arguments these facts let a second run on the same input complete, and they make it record the
snapshot that is already there.
-/

namespace ReconcileFlow

open EffectRun

variable {ω : Type}

/-- The keys and statuses a run records. -/
def snapshotOf (config : AppConfig) (final : ReconciliationState) :
    List (String × ExceptionLifecycleStatus) :=
  ((decidedPairs final).flatMap (entriesOf config)).map LifecycleEntry.recorded

/-- The facts of a run between two states, whatever its run id, times and deliveries. -/
structure RunFacts (deps : AgentDependencies ω) (before : Sys ω) (final : ReconciliationState)
    (after : Sys ω) : Prop where
  decided : List.Forall₂ (Decides deps) final.exceptions final.decisions
  drafted : ∀ one ∈ decidedPairs final, ∀ target ∈ mailedTargets deps.config one, Drafts deps one target
  emails : final.emails.map EmailMessageView.pair =
    (decidedPairs final).flatMap fun one => (mailedTargets deps.config one).map RecipientTarget.pair
  kept : SentKept before after
  requests : ∃ new, sendRequests after.calls = sendRequests before.calls ++ new ∧
    ∀ request ∈ new, request.pair ∈ final.emails.map EmailMessageView.pair ∧
      before.db.alreadyNotified request.mismatchKey request.toEmail = false
  delivered : ∀ pair, deliveries pair before.calls < deliveries pair after.calls →
    after.db.alreadyNotified pair.1 pair.2 = true
  statuses : after.db.statuses = Snapshot.closeAbsent settle ((snapshotOf deps.config final).map Prod.fst)
    (Snapshot.record (snapshotOf deps.config final) before.db.statuses)
  resolved : (∀ key status, key ∉ (snapshotOf deps.config final).map Prod.fst →
      Snapshot.record (snapshotOf deps.config final) before.db.statuses key = some status →
      Database.isUnresolved status = false) →
    final.summary = some (buildSummary final 0)

theorem statuses_eq_of_exceptions {before after : Sys ω}
    (same : after.db.exceptions = before.db.exceptions) : after.db.statuses = before.db.statuses := by
  unfold Database.statuses
  rw [same]

/-- Quiet stretches before and after leave the facts of a run alone. -/
theorem RunFacts.of_quiet {deps : AgentDependencies ω} {before started ended after : Sys ω}
    {final : ReconciliationState} (facts : RunFacts deps started final ended)
    (start : Quiet before started) (finish : Quiet ended after) : RunFacts deps before final after where
  decided := facts.decided
  drafted := facts.drafted
  emails := facts.emails
  kept := (start.mails []).kept.trans (facts.kept.trans (finish.mails []).kept)
  requests := by
    obtain ⟨new, requests, each⟩ := facts.requests
    refine ⟨new, ?_, fun request member => ?_⟩
    · rw [finish.requests, requests, start.requests]
    · obtain ⟨mailed, fresh⟩ := each request member
      refine ⟨mailed, ?_⟩
      unfold Database.alreadyNotified at fresh ⊢
      rwa [start.notifications] at fresh
  delivered := by
    intro pair more
    rw [← start.deliveries pair, finish.deliveries pair] at more
    have recorded := facts.delivered pair more
    unfold Database.alreadyNotified at recorded ⊢
    rwa [finish.notifications]
  statuses := by
    rw [statuses_eq_of_exceptions finish.exceptions, facts.statuses,
      statuses_eq_of_exceptions start.exceptions]
  resolved := by
    intro settled
    rw [← statuses_eq_of_exceptions start.exceptions] at settled
    exact facts.resolved settled

theorem map_fst_recorded (entries : List LifecycleEntry) :
    (entries.map LifecycleEntry.recorded).map Prod.fst = entries.map LifecycleEntry.mismatchKey := by
  rw [List.map_map]
  rfl

theorem quiet_finishRun (sys : Sys ω) (runId : String) (status : RunStatus) (summary : SummaryJson)
    (now : Timestamp) : Quiet sys { sys with db := sys.db.finishRun runId status summary now } := by
  unfold Database.finishRun
  split <;> exact ⟨rfl, rfl, rfl, fun _ => rfl⟩

/-- On the stored statuses the two commits of a run record the entries of its loop and then close the
keys it did not mention. -/
theorem ReconciliationAgent.Stages.statuses {deps : AgentDependencies ω} {request : RunRequest}
    {before drafted opened verified : Sys ω} {decided final : ReconciliationState} {lists : DispatchLists}
    (stages : Stages deps request before decided lists drafted opened final verified) :
    let entries := lists.lifecycle.map LifecycleEntry.recorded
    final.currentKeys = entries.map Prod.fst ∧
      opened.db.statuses = Snapshot.record entries before.db.statuses ∧
      verified.db.statuses = Snapshot.sync settle entries before.db.statuses := by
  intro entries
  obtain ⟨-, facts⟩ := draftRun_facts stages.drafts
  have keys : lists.currentKeys = entries.map Prod.fst := by
    rw [facts.currentKeys, ← map_fst_recorded]
  obtain ⟨recordedSys, recorded, -, statuses⟩ := recordDispatch_run deps decided.runId lists drafted
  rw [stages.opens] at recorded
  cases recorded
  rw [statuses_eq_of_exceptions facts.mails.exceptions] at statuses
  obtain ⟨verifiedSys, verified, -, swept⟩ := verifyNode_run deps (decided.withLists lists) opened
  rw [stages.verifies] at verified
  cases verified
  refine ⟨keys, statuses, ?_⟩
  rw [swept, statuses]
  change Snapshot.closeAbsent settle lists.currentKeys _ = _
  rw [keys]
  rfl

/-- The stages of a run leave its facts behind. -/
theorem ReconciliationAgent.Stages.facts {deps : AgentDependencies ω} {request : RunRequest}
    {before drafted opened verified : Sys ω} {decided final : ReconciliationState} {lists : DispatchLists}
    (stages : Stages deps request before decided lists drafted opened final verified) :
    RunFacts deps before final verified := by
  obtain ⟨-, facts⟩ := draftRun_facts stages.drafts
  obtain ⟨keys, openedStatuses, statuses⟩ := stages.statuses
  obtain ⟨recordedSys, recorded, opensFrame, -⟩ := recordDispatch_run deps decided.runId lists drafted
  rw [stages.opens] at recorded
  cases recorded
  obtain ⟨verifiedSys, verified, sweepFrame, -⟩ := verifyNode_run deps (decided.withLists lists) opened
  rw [stages.verifies] at verified
  cases verified
  have snapshot : lists.lifecycle.map LifecycleEntry.recorded = snapshotOf deps.config decided := by
    rw [facts.lifecycle]
    rfl
  rw [snapshot] at keys openedStatuses statuses
  have notifications := sweepFrame.notifications.trans opensFrame.notifications
  refine ⟨facts.decides, facts.drafts, facts.emails, ?_, ?_, ?_, statuses, ?_⟩
  · intro row member sent
    rw [notifications]
    exact facts.mails.kept row member sent
  · obtain ⟨new, requested, each⟩ := facts.mails.requests
    exact ⟨new, by rw [sweepFrame.calls, opensFrame.calls, requested], each⟩
  · intro pair more
    rw [sweepFrame.calls, opensFrame.calls] at more
    have recorded := facts.mails.delivered pair more
    unfold Database.alreadyNotified at recorded ⊢
    rwa [notifications]
  · intro settled
    have none : opened.db.exceptions.rows.countP
        (Database.isStale (decided.withLists lists).currentKeys) = 0 := by
      apply countP_isStale_eq_zero
      intro key status absent stored
      rw [openedStatuses] at stored
      exact settled key status (keys ▸ absent) stored
    dsimp only
    rw [none]
    rfl

/-- The facts of a completed run, between the state it started from and the state it left. -/
theorem ReconciliationAgent.Completes.facts {deps : AgentDependencies ω} {request : RunRequest}
    {before after : Sys ω} {final : ReconciliationState} {outcome : RunOutcome}
    (completes : Completes deps request before final outcome after) :
    RunFacts deps before final after := by
  obtain ⟨decided, lists, drafted, opened, verified, stages, -, rfl⟩ := completes.stages
  exact stages.facts.of_quiet (Quiet.refl _) (quiet_finishRun ..)

/-! ## Completing again -/

/-- The run id does not show in what is sorted. -/
theorem sortedState_runId (deps : AgentDependencies ω) (initial : ReconciliationState)
    (reply : Except Raised FuzzyProposal) (runId : String) :
    sortedState deps { initial with runId } reply = { sortedState deps initial reply with runId } := by
  unfold sortedState afterFuzzyEdge
  have same : routesToFuzzy deps (afterKeys deps.config { initial with runId }) =
    routesToFuzzy deps (afterKeys deps.config initial) := rfl
  rw [same]
  split <;> rfl

section Returns

variable {deps : AgentDependencies ω} (functional : deps.llm.Functional)
  (wellBehaved : deps.notifications.notifier.WellBehaved)
include functional wellBehaved

theorem dispatchNode_returns (state : ReconciliationState)
    (paired : state.exceptions.length = state.decisions.length)
    (drafted : ∀ one ∈ state.exceptions.zip state.decisions,
      ∀ target ∈ mailedTargets deps.config one, Drafts deps one target) (before : Sys ω) :
    ∃ final after, (dispatchNode deps state).run before = .ok final after := by
  obtain ⟨lists, looped, loop⟩ := dispatchLoop_returns functional wellBehaved drafted {} before
  obtain ⟨after, recorded, -⟩ := recordDispatch_run deps state.runId lists looped
  refine ⟨{ state with emails := lists.emails, currentKeys := lists.currentKeys }, after, ?_⟩
  unfold dispatchNode
  rw [bind_of_ok loop, if_neg (not_not.mpr paired)]
  exact bind_of_ok recorded

/-- Exceptions that were decided and whose mails were drafted let the graph return. -/
theorem invokeGraph_returns {initial : ReconciliationState} {decisions : List ExceptionDecision}
    {before : Sys ω}
    (decided : List.Forall₂ (Decides deps) (sortedState deps initial
      (fuzzyReply deps (afterKeys deps.config initial) before.world)).exceptions decisions)
    (drafted : ∀ one ∈ (sortedState deps initial
        (fuzzyReply deps (afterKeys deps.config initial) before.world)).exceptions.zip decisions,
      ∀ target ∈ mailedTargets deps.config one, Drafts deps one target) :
    ∃ final after, (invokeGraph deps initial).run before = .ok final after := by
  obtain ⟨sortedSys, sorted, -⟩ := sortNodes_run deps initial before
  obtain ⟨decidedSys, decides⟩ := decideNode_returns functional decided sortedSys
  obtain ⟨dispatched, dispatchedSys, dispatches⟩ := dispatchNode_returns functional wellBehaved
    { sortedState deps initial (fuzzyReply deps (afterKeys deps.config initial) before.world) with
      decisions } decided.length_eq drafted decidedSys
  obtain ⟨after, verified, -⟩ := verifyNode_run deps dispatched dispatchedSys
  rw [invokeGraph_eq, bind_of_ok sorted]
  exact ⟨_, after, (bind_of_ok decides).trans ((bind_of_ok dispatches).trans verified)⟩

end Returns

/-- The mail to a pair was delivered by the end of a run: the notifier returned `SENT` in the run, or it
was recorded before, so that the dispatch was a duplicate. -/
def DeliveredBy (before after : Sys ω) (pair : String × String) : Prop :=
  deliveries pair before.calls < deliveries pair after.calls ∨
    before.db.alreadyNotified pair.1 pair.2 = true

/-- What a second run, with final state `final'`, leaves as the first one left it. -/
structure Unchanged (before : Sys ω) (final final' : ReconciliationState) (outcome outcome' : RunOutcome)
    (after after' : Sys ω) : Prop where
  matched : final'.matched = final.matched
  exceptions : final'.exceptions = final.exceptions
  decisions : final'.decisions = final.decisions
  reported : outcome'.exceptions = outcome.exceptions
  /-- The notifier is called for targets of the first run that have no `SENT` row. -/
  requests : ∃ new, sendRequests after'.calls = sendRequests after.calls ++ new ∧
    ∀ request ∈ new, request.pair ∈ final.emails.map EmailMessageView.pair ∧
      after.db.alreadyNotified request.mismatchKey request.toEmail = false
  /-- What was delivered by the end of the first run has a `SENT` row. -/
  recorded : ∀ pair, DeliveredBy before after pair →
    ∃ row ∈ after.db.notifications.rows, row.pair = pair ∧ row.status = .sent
  silent : (∀ pair ∈ final.emails.map EmailMessageView.pair, DeliveredBy before after pair) →
    sendRequests after'.calls = sendRequests after.calls
  resolved : ∃ summary, outcome'.summary = .summary summary ∧ summary.resolved = 0
  statuses : after'.db.statuses = after.db.statuses
  sentKept : SentKept after after'

/-- Two sets of facts about the same exceptions: the second run records what is already there. -/
theorem RunFacts.unchanged {deps : AgentDependencies ω} (functional : deps.llm.Functional)
    {before between after : Sys ω} {final final' : ReconciliationState} {runId runId' : String}
    {request request' : RunRequest} (facts : RunFacts deps before final between)
    (facts' : RunFacts deps between final' after) (matched : final'.matched = final.matched)
    (exceptions : final'.exceptions = final.exceptions) :
    Unchanged before final final' (buildOutcome runId request final) (buildOutcome runId' request' final')
      between after := by
  have decisions : final'.decisions = final.decisions := by
    have decided := facts'.decided
    rw [exceptions] at decided
    exact decides_unique functional decided facts.decided
  have pairs : decidedPairs final' = decidedPairs final := by
    unfold decidedPairs
    rw [exceptions, decisions]
  have snapshot : snapshotOf deps.config final' = snapshotOf deps.config final := by
    unfold snapshotOf
    rw [pairs]
  have emails : final'.emails.map EmailMessageView.pair = final.emails.map EmailMessageView.pair := by
    rw [facts'.emails, facts.emails, pairs]
  have requests := facts'.requests
  rw [emails] at requests
  have recorded (pair : String × String) (delivered : DeliveredBy before between pair) :
      between.db.alreadyNotified pair.1 pair.2 = true :=
    delivered.elim (facts.delivered pair) facts.kept.alreadyNotified
  refine ⟨matched, exceptions, decisions, ?_, requests,
    fun pair delivered => alreadyNotified_iff.mp (recorded pair delivered), ?_, ?_, ?_, facts'.kept⟩
  · unfold buildOutcome
    dsimp only
    rw [exceptions, decisions]
  · intro delivered
    obtain ⟨new, requested, each⟩ := requests
    cases new with
    | nil => rw [requested, List.append_nil]
    | cons request rest =>
      obtain ⟨mailed, fresh⟩ := each request List.mem_cons_self
      exact (Bool.false_ne_true (fresh.symm.trans (recorded _ (delivered _ mailed)))).elim
  · have summary := facts'.resolved (by
      intro key status absent stored
      rw [snapshot] at absent stored
      rw [facts.statuses] at stored
      apply isUnresolved_of_settle_eq
      exact Snapshot.record_closeAbsent_of_notMem settle_settle absent stored)
    refine ⟨buildSummary final' 0, ?_, rfl⟩
    unfold buildOutcome finalSummary
    dsimp only
    rw [summary]
  · rw [facts'.statuses, snapshot, facts.statuses]
    exact Snapshot.closeAbsent_record_idem settle_settle _ _

/-- After a completed run, a second run on the same input and date completes and changes nothing: it
sorts and decides alike, calls the notifier only for targets that have no `SENT` row, which is nobody
when the first run delivered all its mails, resolves nothing, and leaves every stored status and every
`SENT` row as it was. In between the world may move on; the second run only needs a run id of its own. -/
theorem ReconciliationAgent.Completes.rerun {deps : AgentDependencies ω} {request : RunRequest}
    {before after : Sys ω} {final : ReconciliationState} {outcome : RunOutcome}
    (completes : Completes deps request before final outcome after) (functional : deps.llm.Functional)
    (wellBehaved : deps.notifications.notifier.WellBehaved) {asOf : Date}
    (dated : request.asOfDate = some asOf) (runId : Option String) (world : ω)
    (fresh : after.db.runs.find? (chosenRunId deps.host { request with runId } world) = none) :
    ∃ final' outcome' after',
      Completes deps { request with runId } { after with world } final' outcome' after' ∧
      Unchanged before final final' outcome outcome' after after' := by
  obtain ⟨firstId, firstAsOf, firstDate, sorted⟩ := completes.sorted
  rw [firstDate asOf dated] at sorted
  have facts := completes.facts
  obtain ⟨secondAsOf, started, starts, executed⟩ :=
    @execute_of_fresh ω deps { request with runId } { after with world } fresh
  rw [starts.dated asOf dated] at executed
  let secondId := chosenRunId deps.host { request with runId } world
  let initial := initialState deps.config { request with runId } secondId asOf
  -- The client is asked about the same leftovers, so both runs sort alike.
  have reply : fuzzyReply deps (afterKeys deps.config initial) started.world =
      requestReply deps request before.world := functional.proposeFuzzy _ _ _ _
  have again : sortedState deps initial (requestReply deps request before.world) =
      { sortedState deps (initialState deps.config request firstId asOf)
          (requestReply deps request before.world) with runId := secondId } :=
    sortedState_runId deps (initialState deps.config request firstId asOf) _ secondId
  have sortedExceptions : (sortedState deps initial
      (fuzzyReply deps (afterKeys deps.config initial) started.world)).exceptions = final.exceptions := by
    rw [reply, again, sorted]
  have sortedMatched : (sortedState deps initial
      (fuzzyReply deps (afterKeys deps.config initial) started.world)).matched = final.matched := by
    rw [reply, again, sorted]
  obtain ⟨final', ended, graph⟩ := invokeGraph_returns functional wellBehaved
    (sortedExceptions ▸ facts.decided) (sortedExceptions ▸ facts.drafted)
  have secondSorted := invokeGraph_ok graph
  rw [bind_of_ok (attempt_of_ok graph)] at executed
  have completes' := completes_of_executed executed
  obtain ⟨_, _, -, rfl, -⟩ := completes.concluded_eq
  refine ⟨final', _, _, completes', ?_⟩
  have moved : Quiet after { after with world } := ⟨rfl, rfl, rfl, fun _ => rfl⟩
  have facts' := completes'.facts.of_quiet moved (Quiet.refl _)
  apply facts.unchanged functional facts'
  · rw [secondSorted]
    exact sortedMatched
  · rw [secondSorted]
    exact sortedExceptions

theorem LlmClient.functional_ofFunctions
    (proposeFuzzy : List Obligation → List Settlement → Except Raised FuzzyProposal)
    (decide : ExceptionRecord → Bool → ℚ → Except Raised ExceptionDecision)
    (draftEmail : ExceptionRecord → RecipientRole → String → Except Raised EmailDraft) :
    (LlmClient.ofFunctions proposeFuzzy decide draftEmail : LlmClient ω).Functional :=
  ⟨fun _ _ _ _ => rfl, fun _ _ _ _ _ => rfl, fun _ _ _ _ _ => rfl⟩

theorem mockNotifier_wellBehaved : (mockNotifier : Notifier ω).WellBehaved :=
  fun _ _ => Or.inl ⟨_, rfl, rfl⟩

/-- Two unpaid orders and a stray settlement, evaluated on one date in two runs. The first run delivers
its mails, so the second one sends none. -/
theorem rerun_separate :
    ∃ final outcome after final' outcome' after',
      ReconciliationAgent.Completes (scriptedDependencies (.ok {}))
        { separateRequest with asOfDate := some (defaultDate + 2), runId := some "run-1" } emptyStart
        final outcome after ∧
      ReconciliationAgent.Completes (scriptedDependencies (.ok {}))
        { separateRequest with asOfDate := some (defaultDate + 2), runId := some "run-2" } after
        final' outcome' after' ∧
      Unchanged emptyStart final final' outcome outcome' after after' ∧
      final.emails ≠ [] ∧ sendRequests after'.calls = sendRequests after.calls := by
  have returned : (ReconciliationAgent.completedRun (scriptedDependencies (.ok {}))
      { separateRequest with asOfDate := some (defaultDate + 2), runId := some "run-1" } emptyStart).any
        (fun ended => decide (ended.2.db.runs.find? "run-2" = none ∧ ended.1.emails ≠ [] ∧
          ∀ pair ∈ ended.1.emails.map EmailMessageView.pair, 0 < deliveries pair ended.2.calls)) = true := by
    decide +kernel
  obtain ⟨final, outcome, after, completes, passes⟩ := ReconciliationAgent.completes_passing returned
  obtain ⟨fresh, mailed, delivered⟩ := of_decide_eq_true passes
  obtain ⟨final', outcome', after', completes', unchanged⟩ := completes.rerun
    (LlmClient.functional_ofFunctions ..) mockNotifier_wellBehaved rfl (some "run-2") () fresh
  exact ⟨final, outcome, after, final', outcome', after', completes, completes', unchanged, mailed,
    unchanged.silent fun pair member => .inl (delivered pair member)⟩

end ReconcileFlow
