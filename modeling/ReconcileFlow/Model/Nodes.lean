import ReconcileFlow.Model.Incidents
import ReconcileFlow.Model.Matcher
import ReconcileFlow.Model.Obligations

/-! # Graph nodes

The node functions of `agent/nodes.py`. A node receives the state and returns it updated; its
audit events go through one session at its end. The fuzzy loop is separated from the node as a pure
fold (`applyPairings`), with the two dictionaries it mutates as keyed tables.
-/

namespace ReconcileFlow

open EffectRun

variable {ω : Type}

/-- The data passed between graph nodes. -/
structure ReconciliationState where
  runId : String
  asOfDate : Date
  dryRun : Bool := false
  obligations : List Obligation
  settlements : List Settlement
  orderSumExceptions : List ExceptionRecord := []
  matched : List MatchedPair := []
  unmatchedObligations : List Obligation := []
  unmatchedSettlements : List Settlement := []
  fuzzyAutoApplied : List FuzzyPairing := []
  exceptions : List ExceptionRecord := []
  decisions : List ExceptionDecision := []
  emails : List EmailMessageView := []
  currentKeys : List String := []
  summary : Option RunSummary := none

/-- Collaborators injected into the nodes. -/
structure AgentDependencies (ω : Type) where
  config : AppConfig
  llm : LlmClient ω
  notifications : NotificationService ω
  incidents : IncidentService ω
  host : Host ω
  fuzzyEnabled : Bool := true

/-- Append one audit event, stamped with the current time. -/
def logEvent (host : Host ω) (event : AuditEvent) : RunM ω Unit := do
  let now ← readClock host
  modifyDb fun db => db.logEvent event now

/-- A loop whose steps only have effects. -/
def forEach {α : Type} (items : List α) (body : α → RunM ω Unit) : RunM ω Unit :=
  items.foldlM (fun _ item => body item) ()

def reconcileNode (deps : AgentDependencies ω) (state : ReconciliationState) :
    RunM ω ReconciliationState := do
  let result := reconcileKeys state.obligations state.settlements deps.config.reconciliation.amountTolerance
  withSession <| logEvent deps.host
    { runId := state.runId
      eventType := "reconcile_completed"
      status := some "ok"
      details := [("matched", .count result.matched.length),
        ("key_exceptions", .count result.exceptions.length),
        ("unmatched_obligations", .count result.unmatchedObligations.length),
        ("unmatched_settlements", .count result.unmatchedSettlements.length)] }
  pure { state with
    matched := result.matched
    exceptions := state.orderSumExceptions ++ result.exceptions
    unmatchedObligations := result.unmatchedObligations
    unmatchedSettlements := result.unmatchedSettlements
    fuzzyAutoApplied := [] }

def fuzzyReviewException (obligation : Obligation) (settlement : Settlement) (rationale : String) :
    ExceptionRecord where
  reason := .fuzzyMatchReview
  status := .unmatched
  orderId := some obligation.orderId
  settlementId := some settlement.settlementId
  paymentType := some obligation.paymentType
  storeId := some obligation.storeId
  paymentGateway := obligation.paymentGateway
  expectedAmount := some obligation.expectedAmount
  actualAmount := some settlement.amount
  detail := some ("Possible match (needs review): " ++ rationale)

/-- The variables the pairing loop mutates. -/
structure FuzzyState where
  oblByOrder : KeyedTable Obligation.orderId
  settleById : KeyedTable Settlement.settlementId
  matched : List MatchedPair
  exceptions : List ExceptionRecord
  autoApplied : List FuzzyPairing := []
  events : List (String × String × String) := []

/-- The rows a pairing names, when both are still in their tables. -/
def FuzzyState.named (state : FuzzyState) (pairing : FuzzyPairing) : Option (Obligation × Settlement) :=
  match pairing.orderId, pairing.settlementId with
  | some orderId, some settlementId =>
    match state.oblByOrder.find? orderId, state.settleById.find? settlementId with
    | some obligation, some settlement => some (obligation, settlement)
    | _, _ => none
  | _, _ => none

/-- Take the two rows of a pairing out of their tables. -/
def FuzzyState.consume (state : FuzzyState) (obligation : Obligation) (settlement : Settlement) :
    FuzzyState :=
  { state with oblByOrder := state.oblByOrder.erase obligation.orderId,
               settleById := state.settleById.erase settlement.settlementId }

/-- One pass of the pairing loop. -/
def applyPairing (thresholds : FuzzyMatchConfig) (state : FuzzyState) (pairing : FuzzyPairing) : FuzzyState :=
  match state.named pairing with
  | none => state
  | some (obligation, settlement) =>
    if pairing.confidence ≥ thresholds.autoApplyThreshold then
      { state.consume obligation settlement with
        matched := state.matched ++ [⟨obligation, settlement⟩]
        autoApplied := state.autoApplied ++ [pairing]
        events := state.events ++ [("fuzzy_auto_applied", obligation.orderId, pairing.rationale)] }
    else if pairing.confidence ≥ thresholds.reviewThreshold then
      { state.consume obligation settlement with
        exceptions := state.exceptions ++ [fuzzyReviewException obligation settlement pairing.rationale]
        events := state.events ++ [("fuzzy_review_flagged", obligation.orderId, pairing.rationale)] }
    else state

/-- Pairings by descending confidence; equal confidences keep their order. -/
def byConfidence (pairings : List FuzzyPairing) : List FuzzyPairing :=
  pairings.insertionSort (fun first second => second.confidence ≤ first.confidence)

/-- The dictionaries before the loop: a repeated key keeps its first place and its last row. -/
def initialFuzzyState (state : ReconciliationState) : FuzzyState where
  oblByOrder := KeyedTable.ofList Obligation.orderId state.unmatchedObligations
  settleById := KeyedTable.ofList Settlement.settlementId state.unmatchedSettlements
  matched := state.matched
  exceptions := state.exceptions

/-- The whole pairing loop. -/
def applyPairings (thresholds : FuzzyMatchConfig) (state : ReconciliationState)
    (pairings : List FuzzyPairing) : FuzzyState :=
  (byConfidence pairings).foldl (applyPairing thresholds) (initialFuzzyState state)

/-- The pairings the LLM proposes; a failing call degrades to none. -/
def proposedPairings (deps : AgentDependencies ω) (state : ReconciliationState) :
    RunM ω (List FuzzyPairing) := do
  match ← attempt (callOutside (.proposeFuzzy state.unmatchedObligations state.unmatchedSettlements)
      (deps.llm.proposeFuzzy state.unmatchedObligations state.unmatchedSettlements)) with
  | .ok proposal => pure proposal.pairings
  | .error raised =>
    withSession <| logEvent deps.host
      { runId := state.runId
        eventType := "fuzzy_match_skipped"
        status := some "degraded"
        details := [("error", .text raised.text)] }
    pure []

def fuzzyNode (deps : AgentDependencies ω) (state : ReconciliationState) :
    RunM ω ReconciliationState := do
  let pairings ← proposedPairings deps state
  let applied := applyPairings deps.config.fuzzyMatch state pairings
  withSession <| forEach applied.events fun event => logEvent deps.host
    { runId := state.runId
      eventType := event.1
      orderId := some event.2.1
      details := [("rationale", .text event.2.2)] }
  pure { state with
    matched := applied.matched
    exceptions := applied.exceptions
    unmatchedObligations := applied.oblByOrder.rows
    unmatchedSettlements := applied.settleById.rows
    fuzzyAutoApplied := applied.autoApplied }

def classifyNode (deps : AgentDependencies ω) (state : ReconciliationState) :
    RunM ω ReconciliationState := do
  let exceptions := state.exceptions ++ classifyLeftovers state.unmatchedObligations
    state.unmatchedSettlements deps.config.reconciliation.slaGraceDays state.asOfDate
  withSession <| logEvent deps.host
    { runId := state.runId
      eventType := "exceptions_finalized"
      status := some "ok"
      details := [("total_exceptions", .count exceptions.length)] }
  pure { state with exceptions }

/-- The decision executed for a proposal. -/
def finalDecision (proposed : ExceptionDecision) (planned : PlannedAction) : ExceptionDecision :=
  { proposed with action := planned.action }

def decideException (deps : AgentDependencies ω) (runId : String) (decisions : List ExceptionDecision)
    (exception : ExceptionRecord) : RunM ω (List ExceptionDecision) := do
  let withinSla := exception.slaStatus == .withinSla
  let proposed ← callOutside (.decide exception withinSla)
    (deps.llm.decide exception withinSla deps.config.reconciliation.highValueThreshold)
  let planned := planAction proposed deps.config.planner withinSla
  let final := finalDecision proposed planned
  logEvent deps.host
    { runId
      eventType := "exception_decided"
      orderId := exception.orderId
      action := some final.action.value
      reason := some exception.reason.value
      status := some final.severity.value
      details := [("used_fallback", .flag planned.usedFallback), ("rationale", .text final.rationale)] }
  pure (decisions ++ [final])

def decideNode (deps : AgentDependencies ω) (state : ReconciliationState) :
    RunM ω ReconciliationState := do
  let decisions ← withSession <| state.exceptions.foldlM (decideException deps state.runId) []
  pure { state with decisions }

/-- The mail tag, the lifecycle status and the targets of an action other than `WAIT`. -/
def targetsForAction (config : AppConfig) (exception : ExceptionRecord) (action : PlannerAction) :
    String × ExceptionLifecycleStatus × List RecipientTarget :=
  match action with
  | .escalate => ("escalate", .escalated, [adminTarget config exception])
  | .requestRecheck => ("recheck", .awaitingRecheck, resolveTargets config exception)
  | _ => ("email", .opened, resolveTargets config exception)

/-- One entry of the lifecycle list. -/
structure LifecycleEntry where
  mismatchKey : String
  reason : String
  status : ExceptionLifecycleStatus
deriving DecidableEq, Repr

/-- The lists the dispatch loop builds. -/
structure DispatchLists where
  emails : List EmailMessageView := []
  currentKeys : List String := []
  lifecycle : List LifecycleEntry := []
  events : List AuditEvent := []

def dispatchEvent (runId : String) (exception : ExceptionRecord) (action : PlannerAction)
    (status : String) : AuditEvent where
  runId := runId
  eventType := "notification_dispatched"
  orderId := exception.orderId
  action := some action.value
  reason := some exception.reason.value
  status := some status

/-- Send one drafted mail, unless the run is dry. -/
def dispatchOne (deps : AgentDependencies ω) (state : ReconciliationState) (target : RecipientTarget)
    (draft : EmailDraft) : RunM ω SendResult :=
  if state.dryRun then pure { status := .skipped, reason := some "dry_run" }
  else deps.notifications.dispatch deps.host
    { runId := state.runId
      mismatchKey := target.mismatchKey
      recipientRole := target.role
      recipientEmail := target.email
      subject := draft.subject
      body := draft.body }

/-- Draft and send to one target. -/
def dispatchTarget (deps : AgentDependencies ω) (state : ReconciliationState)
    (exception : ExceptionRecord) (action : PlannerAction) (tag : String)
    (status : ExceptionLifecycleStatus) (lists : DispatchLists) (target : RecipientTarget) :
    RunM ω DispatchLists := do
  let draft ← callOutside (.draftEmail exception target.role tag)
    (deps.llm.draftEmail exception target.role tag)
  let result ← dispatchOne deps state target draft
  let email : EmailMessageView :=
    { recipientRole := target.role.value
      recipientEmail := target.email
      subject := draft.subject
      body := draft.body
      status := result.status.value
      reason := some exception.reason.value
      mismatchKey := target.mismatchKey }
  pure
    { emails := lists.emails ++ [email]
      currentKeys := lists.currentKeys ++ [target.mismatchKey]
      lifecycle := lists.lifecycle ++ [⟨target.mismatchKey, exception.reason.value, status⟩]
      events := lists.events ++ [dispatchEvent state.runId exception action result.status.value] }

/-- The lists after an exception that waits: its targets stay open and nobody is mailed. -/
def waitLists (deps : AgentDependencies ω) (state : ReconciliationState) (exception : ExceptionRecord)
    (lists : DispatchLists) : DispatchLists :=
  let targets := resolveTargets deps.config exception
  { lists with
    currentKeys := lists.currentKeys ++ targets.map RecipientTarget.mismatchKey
    lifecycle := lists.lifecycle ++
      targets.map fun target => ⟨target.mismatchKey, exception.reason.value, .opened⟩
    events := lists.events ++ [dispatchEvent state.runId exception .wait "WAITING"] }

/-- One pass of the dispatch loop. -/
def dispatchException (deps : AgentDependencies ω) (state : ReconciliationState)
    (lists : DispatchLists) (decided : ExceptionRecord × ExceptionDecision) : RunM ω DispatchLists :=
  if decided.2.action = .wait then pure (waitLists deps state decided.1 lists)
  else
    let (tag, status, targets) := targetsForAction deps.config decided.1 decided.2.action
    targets.foldlM (dispatchTarget deps state decided.1 decided.2.action tag status) lists

/-- Write the lifecycle rows and the audit events of the dispatch loop. -/
def recordDispatch (deps : AgentDependencies ω) (runId : String) (lists : DispatchLists) : RunM ω Unit :=
  withSession do
    forEach lists.lifecycle fun entry => do
      let now ← readClock deps.host
      modifyDb fun db => db.upsertException entry.mismatchKey runId entry.reason entry.status now
    forEach lists.events (logEvent deps.host)

def dispatchNode (deps : AgentDependencies ω) (state : ReconciliationState) :
    RunM ω ReconciliationState := do
  let lists ← (state.exceptions.zip state.decisions).foldlM (dispatchException deps state) {}
  -- `zip(strict=True)` raises after the common prefix.
  if state.exceptions.length ≠ state.decisions.length then
    throw (.value "zip() arguments have different lengths")
  recordDispatch deps state.runId lists
  pure { state with emails := lists.emails, currentKeys := lists.currentKeys }

/-- `Counter`: how often each text occurs, in order of first occurrence. -/
def counter (texts : List String) : List (String × ℕ) :=
  (KeyedTable.group some texts).rows.map fun entry => (entry.1, entry.2.length)

def buildSummary (state : ReconciliationState) (resolved : ℕ) : RunSummary where
  matched := state.matched.length
  exceptionsTotal := state.exceptions.length
  exceptionsByReason := counter (state.exceptions.map fun exception => exception.reason.value)
  actions := counter (state.decisions.map fun decision => decision.action.value)
  notifications := counter (state.emails.map EmailMessageView.status)
  fuzzyAutoApplied := state.fuzzyAutoApplied.length
  resolved := resolved

/-- `mark_resolved` in the current session. -/
def resolveAbsent (host : Host ω) (runId : String) (currentKeys : List String) : RunM ω ℕ := fun sys =>
  let swept := sys.db.markResolved runId currentKeys (host.now sys.world)
  .ok swept.2 { sys with db := swept.1 }

def verifyNode (deps : AgentDependencies ω) (state : ReconciliationState) :
    RunM ω ReconciliationState := do
  let resolved ← withSession do
    let resolved ← resolveAbsent deps.host state.runId state.currentKeys
    logEvent deps.host
      { runId := state.runId
        eventType := "verify_completed"
        status := some "ok"
        details := [("resolved", .count resolved)] }
    pure resolved
  pure { state with summary := some (buildSummary state resolved) }

end ReconcileFlow
