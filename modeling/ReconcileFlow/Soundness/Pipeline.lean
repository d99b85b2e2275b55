import ReconcileFlow.Model.Service

/-! # The deterministic core of a run

Whatever the collaborators do, the matched pairs and the exceptions of a run that completes are a
function of the request, the configuration and the LLM's reply about the leftovers
(`Completes.sorted`). The nodes around that core only add audit events, decisions, mails and the
lifecycle.
-/

namespace ReconcileFlow

open EffectRun

variable {ω : Type}

/-- The state after key matching. -/
def afterKeys (config : AppConfig) (state : ReconciliationState) : ReconciliationState :=
  let result := reconcileKeys state.obligations state.settlements config.reconciliation.amountTolerance
  { state with
    matched := result.matched
    exceptions := state.orderSumExceptions ++ result.exceptions
    unmatchedObligations := result.unmatchedObligations
    unmatchedSettlements := result.unmatchedSettlements
    fuzzyAutoApplied := [] }

/-- The state after the pairing loop. -/
def afterPairings (thresholds : FuzzyMatchConfig) (pairings : List FuzzyPairing)
    (state : ReconciliationState) : ReconciliationState :=
  let applied := applyPairings thresholds state pairings
  { state with
    matched := applied.matched
    exceptions := applied.exceptions
    unmatchedObligations := applied.oblByOrder.rows
    unmatchedSettlements := applied.settleById.rows
    fuzzyAutoApplied := applied.autoApplied }

/-- The state after the leftovers are classified. -/
def afterLeftovers (config : AppConfig) (state : ReconciliationState) : ReconciliationState :=
  { state with
    exceptions := state.exceptions ++ classifyLeftovers state.unmatchedObligations
      state.unmatchedSettlements config.reconciliation.slaGraceDays state.asOfDate }

/-- The pairings of a reply; a failed call proposes none. -/
def replyPairings : Except Raised FuzzyProposal → List FuzzyPairing
  | .ok proposal => proposal.pairings
  | .error _ => []

/-- The state after the conditional edge. -/
def afterFuzzyEdge (deps : AgentDependencies ω) (reply : Except Raised FuzzyProposal)
    (state : ReconciliationState) : ReconciliationState :=
  if routesToFuzzy deps state then
    afterPairings deps.config.fuzzyMatch (replyPairings reply) state
  else state

/-- Key matching, the fuzzy step where it is routed, and classification. -/
def sortedState (deps : AgentDependencies ω) (initial : ReconciliationState)
    (reply : Except Raised FuzzyProposal) : ReconciliationState :=
  afterLeftovers deps.config (afterFuzzyEdge deps reply (afterKeys deps.config initial))

/-! ## The nodes -/

theorem run_logEvent (host : Host ω) (event : AuditEvent) (sys : Sys ω) :
    (logEvent host event).run sys = .ok () { sys with db := sys.db.logEvent event (host.now sys.world) } :=
  rfl

/-- From one state to another only the audit log moved. -/
structure AuditOnly (before after : Sys ω) : Prop where
  world : after.world = before.world
  runs : after.db.runs = before.db.runs
  notifications : after.db.notifications = before.db.notifications
  exceptions : after.db.exceptions = before.db.exceptions
  incidentFiles : after.incidentFiles = before.incidentFiles
  incidentStream : after.incidentStream = before.incidentStream
  calls : after.calls = before.calls

theorem AuditOnly.refl (sys : Sys ω) : AuditOnly sys sys := ⟨rfl, rfl, rfl, rfl, rfl, rfl, rfl⟩

theorem AuditOnly.trans {before between after : Sys ω} (first : AuditOnly before between)
    (second : AuditOnly between after) : AuditOnly before after where
  world := second.world.trans first.world
  runs := second.runs.trans first.runs
  notifications := second.notifications.trans first.notifications
  exceptions := second.exceptions.trans first.exceptions
  incidentFiles := second.incidentFiles.trans first.incidentFiles
  incidentStream := second.incidentStream.trans first.incidentStream
  calls := second.calls.trans first.calls

theorem auditOnly_logEvent (sys : Sys ω) (event : AuditEvent) (now : Timestamp) :
    AuditOnly sys { sys with db := sys.db.logEvent event now } := ⟨rfl, rfl, rfl, rfl, rfl, rfl, rfl⟩

theorem run_withSession_of_ok {α : Type} {body : RunM ω α} {before after : Sys ω} {value : α}
    (success : body.run before = .ok value after) :
    (withSession body).run before = .ok value after := by
  rw [run_withSession, success]

/-- A session that returned has not rolled back. -/
theorem of_withSession_ok {α : Type} {body : RunM ω α} {before after : Sys ω} {value : α}
    (success : (withSession body).run before = .ok value after) : body.run before = .ok value after := by
  rw [run_withSession] at success
  split at success
  · next ran =>
    cases success
    exact ran
  · cases success

/-- A batch of audit events is written whatever they are. -/
theorem forEach_logEvent {α : Type} (host : Host ω) (event : α → AuditEvent) (items : List α)
    (before : Sys ω) : ∃ after, (forEach items fun item => logEvent host (event item)).run before =
      .ok () after ∧ AuditOnly before after := by
  unfold forEach
  induction items generalizing before with
  | nil => exact ⟨before, rfl, .refl before⟩
  | cons item rest ih =>
    obtain ⟨after, written, frame⟩ :=
      ih { before with db := before.db.logEvent (event item) (host.now before.world) }
    refine ⟨after, ?_, (auditOnly_logEvent before _ _).trans frame⟩
    rw [List.foldlM_cons, bind_of_ok (run_logEvent host (event item) before)]
    exact written

theorem reconcileNode_run (deps : AgentDependencies ω) (state : ReconciliationState) (before : Sys ω) :
    ∃ after, (reconcileNode deps state).run before = .ok (afterKeys deps.config state) after ∧
      AuditOnly before after :=
  ⟨_, rfl, auditOnly_logEvent before _ _⟩

theorem classifyNode_run (deps : AgentDependencies ω) (state : ReconciliationState) (before : Sys ω) :
    ∃ after, (classifyNode deps state).run before = .ok (afterLeftovers deps.config state) after ∧
      AuditOnly before after :=
  ⟨_, rfl, auditOnly_logEvent before _ _⟩

/-- The reply of the LLM about the leftovers of a state. -/
def fuzzyReply (deps : AgentDependencies ω) (state : ReconciliationState) (world : ω) :
    Except Raised FuzzyProposal :=
  (deps.llm.proposeFuzzy state.unmatchedObligations state.unmatchedSettlements world).1

/-- The world after the LLM was asked about the leftovers of a state. -/
def proposedWorld (deps : AgentDependencies ω) (state : ReconciliationState) (world : ω) : ω :=
  (deps.llm.proposeFuzzy state.unmatchedObligations state.unmatchedSettlements world).2

theorem proposedPairings_run (deps : AgentDependencies ω) (state : ReconciliationState)
    (before : Sys ω) : ∃ after,
      (proposedPairings deps state).run before =
        .ok (replyPairings (fuzzyReply deps state before.world)) after ∧
      after.world = proposedWorld deps state before.world := by
  unfold proposedPairings fuzzyReply proposedWorld
  rw [EStateM.run_bind, run_attempt]
  unfold callOutside
  dsimp only [EStateM.run]
  cases (deps.llm.proposeFuzzy state.unmatchedObligations state.unmatchedSettlements before.world).1 with
  | ok proposal => exact ⟨_, rfl, rfl⟩
  | error raised => exact ⟨_, rfl, rfl⟩

theorem fuzzyNode_run (deps : AgentDependencies ω) (state : ReconciliationState) (before : Sys ω) :
    ∃ after, (fuzzyNode deps state).run before = .ok (afterPairings deps.config.fuzzyMatch
        (replyPairings (fuzzyReply deps state before.world)) state) after ∧
      after.world = proposedWorld deps state before.world := by
  obtain ⟨proposed, called, moved⟩ := proposedPairings_run deps state before
  unfold fuzzyNode
  rw [bind_of_ok called]
  obtain ⟨after, written, frame⟩ := forEach_logEvent deps.host (fun event : String × String × String =>
    { runId := state.runId, eventType := event.1, orderId := some event.2.1,
      details := [("rationale", .text event.2.2)] })
    (applyPairings deps.config.fuzzyMatch state
      (replyPairings (fuzzyReply deps state before.world))).events proposed
  refine ⟨after, ?_, frame.world.trans moved⟩
  dsimp only
  rw [bind_of_ok (run_withSession_of_ok written)]
  rfl

/-- The world after the conditional edge. -/
def fuzzyEdgeWorld (deps : AgentDependencies ω) (state : ReconciliationState) (world : ω) : ω :=
  if routesToFuzzy deps state then proposedWorld deps state world else world

theorem fuzzyEdge_run (deps : AgentDependencies ω) (state : ReconciliationState) (before : Sys ω) :
    ∃ after, (fuzzyEdge deps state).run before =
        .ok (afterFuzzyEdge deps (fuzzyReply deps state before.world) state) after ∧
      after.world = fuzzyEdgeWorld deps state before.world := by
  unfold fuzzyEdge afterFuzzyEdge fuzzyEdgeWorld
  split
  · exact fuzzyNode_run deps state before
  · exact ⟨before, rfl, rfl⟩

/-- The nodes of the graph up to classification. -/
def sortNodes (deps : AgentDependencies ω) (initial : ReconciliationState) :
    RunM ω ReconciliationState := do
  let reconciled ← reconcileNode deps initial
  let paired ← fuzzyEdge deps reconciled
  classifyNode deps paired

theorem invokeGraph_eq (deps : AgentDependencies ω) (initial : ReconciliationState) :
    invokeGraph deps initial = (do
      let sorted ← sortNodes deps initial
      let decided ← decideNode deps sorted
      let dispatched ← dispatchNode deps decided
      verifyNode deps dispatched) := by
  simp only [invokeGraph, sortNodes, bind_assoc]

/-- The nodes of the graph up to the end of the dispatch loop. -/
def draftNodes (deps : AgentDependencies ω) (initial : ReconciliationState) :
    RunM ω (ReconciliationState × DispatchLists) := do
  let sorted ← sortNodes deps initial
  let decided ← decideNode deps sorted
  let lists ← (decided.exceptions.zip decided.decisions).foldlM (dispatchException deps decided) {}
  pure (decided, lists)

/-- The state that leaves the dispatch node. -/
def ReconciliationState.withLists (state : ReconciliationState) (lists : DispatchLists) :
    ReconciliationState :=
  { state with emails := lists.emails, currentKeys := lists.currentKeys }

/-- The end of the dispatch node, after its loop. -/
def openDraft (deps : AgentDependencies ω) (draft : ReconciliationState × DispatchLists) :
    RunM ω ReconciliationState := do
  if draft.1.exceptions.length ≠ draft.1.decisions.length then
    throw (.value "zip() arguments have different lengths")
  recordDispatch deps draft.1.runId draft.2
  pure (draft.1.withLists draft.2)

theorem invokeGraph_eq_stages (deps : AgentDependencies ω) (initial : ReconciliationState) :
    invokeGraph deps initial = (do
      let draft ← draftNodes deps initial
      let dispatched ← openDraft deps draft
      verifyNode deps dispatched) := by
  simp only [invokeGraph_eq, draftNodes, dispatchNode, openDraft, ReconciliationState.withLists, bind_assoc,
    pure_bind]

/-- Sorting returns whatever the LLM replies. -/
theorem sortNodes_run (deps : AgentDependencies ω) (initial : ReconciliationState) (before : Sys ω) :
    ∃ after, (sortNodes deps initial).run before =
        .ok (sortedState deps initial (fuzzyReply deps (afterKeys deps.config initial) before.world)) after ∧
      after.world = fuzzyEdgeWorld deps (afterKeys deps.config initial) before.world := by
  obtain ⟨keyedSys, reconciled, frame⟩ := reconcileNode_run deps initial before
  obtain ⟨pairedSys, paired, moved⟩ := fuzzyEdge_run deps (afterKeys deps.config initial) keyedSys
  rw [frame.world] at paired moved
  obtain ⟨after, classified, still⟩ := classifyNode_run deps (afterFuzzyEdge deps
    (fuzzyReply deps (afterKeys deps.config initial) before.world) (afterKeys deps.config initial)) pairedSys
  refine ⟨after, ?_, still.world.trans moved⟩
  unfold sortNodes
  rw [bind_of_ok reconciled, bind_of_ok paired]
  exact classified

/-- Sorting leaves the dry-run flag of the run alone. -/
theorem sortNodes_dryRun {deps : AgentDependencies ω} {initial sorted : ReconciliationState}
    {before after : Sys ω} (success : (sortNodes deps initial).run before = .ok sorted after) :
    sorted.dryRun = initial.dryRun := by
  obtain ⟨ended, returned, -⟩ := sortNodes_run deps initial before
  rw [returned] at success
  cases success
  unfold sortedState afterFuzzyEdge
  split <;> rfl

/-- Sorting keeps the run id. -/
theorem sortNodes_runId {deps : AgentDependencies ω} {initial sorted : ReconciliationState}
    {before after : Sys ω} (success : (sortNodes deps initial).run before = .ok sorted after) :
    sorted.runId = initial.runId := by
  obtain ⟨ended, returned, -⟩ := sortNodes_run deps initial before
  rw [returned] at success
  cases success
  unfold sortedState afterFuzzyEdge
  split <;> rfl

/-- Deciding changes only the decisions. -/
theorem decideNode_ok {deps : AgentDependencies ω} {state final : ReconciliationState}
    {before after : Sys ω} (success : (decideNode deps state).run before = .ok final after) :
    final = { state with decisions := final.decisions } := by
  obtain ⟨decisions, between, -, finished⟩ := bind_eq_ok_iff.mp success
  cases finished
  rfl

/-- Dispatching changes only the emails and the current keys. -/
theorem dispatchNode_ok {deps : AgentDependencies ω} {state final : ReconciliationState}
    {before after : Sys ω} (success : (dispatchNode deps state).run before = .ok final after) :
    final = { state with emails := final.emails, currentKeys := final.currentKeys } := by
  obtain ⟨lists, between, -, success⟩ := bind_eq_ok_iff.mp success
  split at success
  · cases success
  · obtain ⟨_, recorded, -, finished⟩ := bind_eq_ok_iff.mp success
    cases finished
    rfl

/-- Verifying changes only the summary. -/
theorem verifyNode_ok {deps : AgentDependencies ω} {state final : ReconciliationState}
    {before after : Sys ω} (success : (verifyNode deps state).run before = .ok final after) :
    final = { state with summary := final.summary } := by
  obtain ⟨resolved, between, -, finished⟩ := bind_eq_ok_iff.mp success
  cases finished
  rfl

/-- A graph that returns ends in its sorted state, with the later nodes' fields filled in. -/
theorem invokeGraph_ok {deps : AgentDependencies ω} {initial final : ReconciliationState}
    {before after : Sys ω} (success : (invokeGraph deps initial).run before = .ok final after) :
    final =
      { sortedState deps initial (fuzzyReply deps (afterKeys deps.config initial) before.world) with
        decisions := final.decisions, emails := final.emails,
        currentKeys := final.currentKeys, summary := final.summary } := by
  rw [invokeGraph_eq] at success
  obtain ⟨sortedSys, sorted, -⟩ := sortNodes_run deps initial before
  rw [bind_of_ok sorted] at success
  obtain ⟨decided, decidedSys, decides, success⟩ := bind_eq_ok_iff.mp success
  obtain ⟨dispatched, dispatchedSys, dispatches, verified⟩ := bind_eq_ok_iff.mp success
  rw [verifyNode_ok verified, dispatchNode_ok dispatches, decideNode_ok decides]

/-! ## Completed runs -/

/-- The world in which the graph of a run starts. -/
def graphWorld (deps : AgentDependencies ω) (request : RunRequest) (world : ω) : ω :=
  match truthy request.runId with
  | some _ => world
  | none => (deps.host.newRunId world).2

/-- The obligations and the leftovers of a request do not depend on its run id. -/
def requestKeys (config : AppConfig) (request : RunRequest) : KeyMatchResult :=
  reconcileKeys (buildObligations request.orders config.reconciliation.amountTolerance).obligations
    request.settlements config.reconciliation.amountTolerance

/-- What the LLM answers about the leftovers of a request, if it is asked. -/
def requestReply (deps : AgentDependencies ω) (request : RunRequest) (world : ω) :
    Except Raised FuzzyProposal :=
  (deps.llm.proposeFuzzy (requestKeys deps.config request).unmatchedObligations
    (requestKeys deps.config request).unmatchedSettlements (graphWorld deps request world)).1

/-- The fuzzy step is enabled and both sides of the request have leftovers. -/
def requestRoutes (deps : AgentDependencies ω) (request : RunRequest) : Prop :=
  deps.fuzzyEnabled = true ∧ (requestKeys deps.config request).unmatchedObligations ≠ [] ∧
    (requestKeys deps.config request).unmatchedSettlements ≠ []

theorem routesToFuzzy_iff (deps : AgentDependencies ω) (request : RunRequest) (runId : String)
    (asOf : Date) :
    routesToFuzzy deps (afterKeys deps.config (initialState deps.config request runId asOf)) = true ↔
      requestRoutes deps request := by
  unfold routesToFuzzy requestRoutes
  rw [Bool.and_eq_true, Bool.and_eq_true, Bool.not_eq_true', Bool.not_eq_true', List.isEmpty_eq_false_iff,
    List.isEmpty_eq_false_iff, and_assoc]
  rfl

/-- The run id of a request. -/
def chosenRunId (host : Host ω) (request : RunRequest) (world : ω) : String :=
  (truthy request.runId).getD (host.newRunId world).1

/-- The state in which the graph of a run is invoked, after its record was inserted. -/
structure Started (deps : AgentDependencies ω) (request : RunRequest) (before : Sys ω) (asOf : Date)
    (started : Sys ω) : Prop where
  world : started.world = graphWorld deps request before.world
  dated : ∀ date, request.asOfDate = some date → asOf = date
  notifications : started.db.notifications = before.db.notifications
  exceptions : started.db.exceptions = before.db.exceptions
  calls : started.calls = before.calls

namespace ReconciliationAgent

theorem chooseRunId_run (deps : AgentDependencies ω) (request : RunRequest) (sys : Sys ω) :
    (chooseRunId deps.host request).run sys = .ok (chosenRunId deps.host request sys.world)
      { sys with world := graphWorld deps request sys.world } := by
  unfold chooseRunId chosenRunId graphWorld
  cases truthy request.runId with
  | some runId => rfl
  | none => rfl

/-- The record a run starts with. -/
def startedRow (deps : AgentDependencies ω) (request : RunRequest) (before : Sys ω) : RunLogRow where
  id := chosenRunId deps.host request before.world
  startedAt := deps.host.now (graphWorld deps request before.world)
  inputHash := request.inputHash
  ordersCount := request.orders.length
  settlementsCount := request.settlements.length

/-- The state in which the graph is invoked. -/
def startedSys (deps : AgentDependencies ω) (request : RunRequest) (before : Sys ω) : Sys ω :=
  { before with
    world := graphWorld deps request before.world
    db := { before.db with runs := before.db.runs.put (startedRow deps request before) } }

/-- The evaluation date of a run. -/
def startedAsOf (deps : AgentDependencies ω) (request : RunRequest) (before : Sys ω) : Date :=
  request.asOfDate.getD (deps.host.today (graphWorld deps request before.world))

/-- What `run` does before the graph. -/
def beginRun (deps : AgentDependencies ω) (request : RunRequest) : RunM ω (String × Date) := do
  let runId ← chooseRunId deps.host request
  let asOf ← chooseAsOf deps.host request
  startRun deps.host runId request
  pure (runId, asOf)

theorem execute_eq (deps : AgentDependencies ω) (request : RunRequest) :
    execute deps request = (do
      let begun ← beginRun deps request
      let result ← attempt (invokeGraph deps (initialState deps.config request begun.1 begun.2))
      pure (begun.1, result)) := by
  simp only [execute, beginRun, bind_assoc, pure_bind]

theorem beginRun_of_fresh {deps : AgentDependencies ω} {request : RunRequest} {before : Sys ω}
    (fresh : before.db.runs.find? (chosenRunId deps.host request before.world) = none) :
    (beginRun deps request).run before =
      .ok (chosenRunId deps.host request before.world, startedAsOf deps request before)
        (startedSys deps request before) := by
  have inserts (row : RunLogRow) (same : row.id = chosenRunId deps.host request before.world) :
      before.db.startRun row = some { before.db with runs := before.db.runs.put row } := by
    unfold Database.startRun
    rw [same, fresh]
  let world := graphWorld deps request before.world
  have starts : (startRun deps.host (chosenRunId deps.host request before.world) request).run
      { before with world } = .ok () (startedSys deps request before) := by
    unfold startRun
    dsimp only [EStateM.run]
    rw [inserts _ rfl]
    rfl
  have dated : (chooseAsOf deps.host request).run { before with world } =
    .ok (startedAsOf deps request before) { before with world } := rfl
  unfold beginRun
  rw [bind_of_ok (chooseRunId_run deps request before), bind_of_ok dated, bind_of_ok starts]
  rfl

/-- A run id that exists raises out of the run. -/
theorem beginRun_of_taken {deps : AgentDependencies ω} {request : RunRequest} {before : Sys ω}
    {row : RunLogRow} (taken : before.db.runs.find? (chosenRunId deps.host request before.world) = some row) :
    (beginRun deps request).run before = .error (.integrity "UNIQUE constraint failed: run_log.id")
      { before with world := graphWorld deps request before.world } := by
  let world := graphWorld deps request before.world
  have dated : (chooseAsOf deps.host request).run { before with world } =
    .ok (startedAsOf deps request before) { before with world } := rfl
  have refused : (startRun deps.host (chosenRunId deps.host request before.world) request).run
      { before with world } =
        .error (.integrity "UNIQUE constraint failed: run_log.id") { before with world } := by
    unfold startRun Database.startRun
    dsimp only [EStateM.run]
    rw [taken]
  unfold beginRun
  rw [bind_of_ok (chooseRunId_run deps request before), bind_of_ok dated, bind_of_error refused]

theorem beginRun_ok {deps : AgentDependencies ω} {request : RunRequest} {before after : Sys ω}
    {begun : String × Date} (success : (beginRun deps request).run before = .ok begun after) :
    before.db.runs.find? (chosenRunId deps.host request before.world) = none ∧
      begun = (chosenRunId deps.host request before.world, startedAsOf deps request before) ∧
      after = startedSys deps request before := by
  cases found : before.db.runs.find? (chosenRunId deps.host request before.world) with
  | some row =>
    rw [beginRun_of_taken found] at success
    cases success
  | none =>
    rw [beginRun_of_fresh found] at success
    cases success
    exact ⟨rfl, rfl, rfl⟩

theorem started_of_fresh (deps : AgentDependencies ω) (request : RunRequest) (before : Sys ω) :
    Started deps request before (startedAsOf deps request before)
      (startedSys deps request before) where
  world := rfl
  dated date given := by
    unfold startedAsOf
    rw [given]
    rfl
  notifications := rfl
  exceptions := rfl
  calls := rfl

/-- With a fresh run id the graph is invoked on the request. -/
theorem execute_of_fresh {deps : AgentDependencies ω} {request : RunRequest} {before : Sys ω}
    (fresh : before.db.runs.find? (chosenRunId deps.host request before.world) = none) :
    ∃ asOf started, Started deps request before asOf started ∧
      (execute deps request).run before = (do
        let result ← attempt (invokeGraph deps (initialState deps.config request
          (chosenRunId deps.host request before.world) asOf))
        pure (chosenRunId deps.host request before.world, result) : RunM ω _).run started := by
  refine ⟨_, _, started_of_fresh deps request before, ?_⟩
  rw [execute_eq, bind_of_ok (beginRun_of_fresh fresh)]

theorem execute_ok {deps : AgentDependencies ω} {request : RunRequest} {before after : Sys ω}
    {runId : String} {result : Except Raised ReconciliationState}
    (success : (execute deps request).run before = .ok (runId, result) after) :
    ∃ asOf started, Started deps request before asOf started ∧
      (attempt (invokeGraph deps (initialState deps.config request runId asOf))).run started =
        .ok result after := by
  rw [execute_eq] at success
  obtain ⟨begun, started, begins, success⟩ := bind_eq_ok_iff.mp success
  obtain ⟨-, rfl, rfl⟩ := beginRun_ok begins
  obtain ⟨ended, between, invoked, finished⟩ := bind_eq_ok_iff.mp success
  cases finished
  exact ⟨_, _, started_of_fresh deps request before, invoked⟩

/-- A run up to the end of its dispatch loop. -/
def draftRun (deps : AgentDependencies ω) (request : RunRequest) :
    RunM ω (ReconciliationState × DispatchLists) := do
  let begun ← beginRun deps request
  draftNodes deps (initialState deps.config request begun.1 begun.2)

/-- The stages of a run whose graph returns: the dispatch loop ends in `drafted`, its lists are
committed in `opened`, and the sweep in `verified`. -/
structure Stages (deps : AgentDependencies ω) (request : RunRequest) (before : Sys ω)
    (decided : ReconciliationState) (lists : DispatchLists) (drafted opened : Sys ω)
    (final : ReconciliationState) (verified : Sys ω) : Prop where
  drafts : (draftRun deps request).run before = .ok (decided, lists) drafted
  opens : (recordDispatch deps decided.runId lists).run drafted = .ok () opened
  verifies : (verifyNode deps (decided.withLists lists)).run opened = .ok final verified

/-- The final state of a completed run is the sorted state of its request. -/
theorem Completes.sorted {deps : AgentDependencies ω} {request : RunRequest} {before after : Sys ω}
    {final : ReconciliationState} {outcome : RunOutcome}
    (completes : Completes deps request before final outcome after) :
    ∃ runId asOf, (∀ date, request.asOfDate = some date → asOf = date) ∧
      final =
        { sortedState deps (initialState deps.config request runId asOf)
            (requestReply deps request before.world) with
          decisions := final.decisions, emails := final.emails,
          currentKeys := final.currentKeys, summary := final.summary } := by
  obtain ⟨runId, executed, success⟩ := completes.executed
  obtain ⟨asOf, started, starts, invoked⟩ := execute_ok success
  have sorted := invokeGraph_ok (of_attempt_ok invoked)
  rw [starts.world] at sorted
  exact ⟨runId, asOf, starts.dated, sorted⟩

/-- The state after a run is concluded on a final state. -/
def concluded (deps : AgentDependencies ω) (runId : String) (final : ReconciliationState) (sys : Sys ω) :
    Sys ω :=
  { sys with db := sys.db.finishRun runId .completed (finalSummary final) (deps.host.now sys.world) }

theorem conclude_ok (deps : AgentDependencies ω) (request : RunRequest) (runId : String)
    (final : ReconciliationState) (sys : Sys ω) :
    (conclude deps request runId (.ok final)).run sys =
      .ok (buildOutcome runId request final) (concluded deps runId final sys) := rfl

/-- A run whose graph returns completes. -/
theorem completes_of_executed {deps : AgentDependencies ω} {request : RunRequest}
    {before executed : Sys ω} {runId : String} {final : ReconciliationState}
    (success : (execute deps request).run before = .ok (runId, .ok final) executed) :
    Completes deps request before final (buildOutcome runId request final)
      (concluded deps runId final executed) := by
  refine ⟨?_, runId, executed, success⟩
  unfold run
  rw [bind_of_ok success]
  exact conclude_ok deps request runId final executed

/-- The outcome and the last state of a completed run follow from its final state. -/
theorem Completes.concluded_eq {deps : AgentDependencies ω} {request : RunRequest}
    {before after : Sys ω} {final : ReconciliationState} {outcome : RunOutcome}
    (completes : Completes deps request before final outcome after) :
    ∃ runId executed, (execute deps request).run before = .ok (runId, .ok final) executed ∧
      outcome = buildOutcome runId request final ∧ after = concluded deps runId final executed := by
  obtain ⟨runId, executed, success⟩ := completes.executed
  have ran := completes.ran.symm.trans (completes_of_executed success).ran
  cases ran
  exact ⟨runId, executed, success, rfl, rfl⟩

/-- A completed run has gone through its stages, and then only closed its record. -/
theorem Completes.stages {deps : AgentDependencies ω} {request : RunRequest} {before after : Sys ω}
    {final : ReconciliationState} {outcome : RunOutcome}
    (completes : Completes deps request before final outcome after) :
    ∃ decided lists drafted opened verified,
      Stages deps request before decided lists drafted opened final verified ∧
      outcome = buildOutcome (chosenRunId deps.host request before.world) request final ∧
      after = concluded deps (chosenRunId deps.host request before.world) final verified := by
  obtain ⟨runId, executed, success, rfl, rfl⟩ := completes.concluded_eq
  rw [execute_eq] at success
  obtain ⟨begun, started, begins, success⟩ := bind_eq_ok_iff.mp success
  obtain ⟨ended, between, invoked, finished⟩ := bind_eq_ok_iff.mp success
  cases finished
  have graph := of_attempt_ok invoked
  rw [invokeGraph_eq_stages] at graph
  obtain ⟨⟨decided, lists⟩, drafted, drafts, graph⟩ := bind_eq_ok_iff.mp graph
  obtain ⟨dispatched, opened, opens, verifies⟩ := bind_eq_ok_iff.mp graph
  unfold openDraft at opens
  split at opens
  · cases opens
  · obtain ⟨_, recorded, records, returned⟩ := bind_eq_ok_iff.mp opens
    cases returned
    obtain ⟨-, rfl, -⟩ := beginRun_ok begins
    exact ⟨decided, lists, drafted, opened, executed,
      ⟨(bind_of_ok begins).trans drafts, records, verifies⟩, rfl, rfl⟩

/-- The final state and the last state of a run, when its graph returns. -/
def completedRun (deps : AgentDependencies ω) (request : RunRequest) (before : Sys ω) :
    Option (ReconciliationState × Sys ω) :=
  match (execute deps request).run before with
  | .ok (runId, .ok final) executed => some (final, concluded deps runId final executed)
  | _ => none

theorem completes_of_completedRun {deps : AgentDependencies ω} {request : RunRequest}
    {before after : Sys ω} {final : ReconciliationState}
    (returned : completedRun deps request before = some (final, after)) :
    ∃ outcome, Completes deps request before final outcome after := by
  unfold completedRun at returned
  split at returned
  · next runId state executed ran =>
    cases returned
    exact ⟨_, completes_of_executed ran⟩
  · cases returned

/-- A test of the end of a run, evaluated on a run whose graph returns. -/
theorem completes_passing {deps : AgentDependencies ω} {request : RunRequest} {before : Sys ω}
    {test : ReconciliationState × Sys ω → Bool}
    (passes : (completedRun deps request before).any test = true) :
    ∃ final outcome after, Completes deps request before final outcome after ∧
      test (final, after) = true := by
  cases returned : completedRun deps request before with
  | none =>
    rw [returned] at passes
    cases passes
  | some ended =>
    rw [returned] at passes
    obtain ⟨outcome, completes⟩ := completes_of_completedRun returned
    exact ⟨ended.1, outcome, ended.2, completes, passes⟩

end ReconciliationAgent

end ReconcileFlow
