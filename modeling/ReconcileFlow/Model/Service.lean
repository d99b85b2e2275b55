import ReconcileFlow.Model.Nodes

/-! # The reconciliation agent

`invokeGraph` is the compiled graph: six nodes in a line, with the fuzzy node on one conditional
edge. `ReconciliationAgent.run` starts the run record, invokes the graph and concludes: a finished
graph becomes a completed run, anything the graph raises becomes an incident and a failed run.
-/

namespace ReconcileFlow

open EffectRun

variable {ω : Type}

/-- Fuzzy matching runs only when enabled and both sides have leftovers. -/
def routesToFuzzy (deps : AgentDependencies ω) (state : ReconciliationState) : Bool :=
  deps.fuzzyEnabled && !state.unmatchedObligations.isEmpty && !state.unmatchedSettlements.isEmpty

/-- The conditional edge after key matching. -/
def fuzzyEdge (deps : AgentDependencies ω) (state : ReconciliationState) : RunM ω ReconciliationState :=
  if routesToFuzzy deps state then fuzzyNode deps state else pure state

def invokeGraph (deps : AgentDependencies ω) (initial : ReconciliationState) :
    RunM ω ReconciliationState := do
  let reconciled ← reconcileNode deps initial
  let paired ← fuzzyEdge deps reconciled
  let classified ← classifyNode deps paired
  let decided ← decideNode deps classified
  let dispatched ← dispatchNode deps decided
  verifyNode deps dispatched

/-- The arguments of `run`. -/
structure RunRequest where
  orders : List Order
  settlements : List Settlement
  runId : Option String := none
  asOfDate : Option Date := none
  inputHash : Option String := none
  dryRun : Bool := false

/-- The result of a run. -/
structure RunOutcome where
  runId : String
  status : RunStatus
  ordersCount : ℕ
  settlementsCount : ℕ
  summary : SummaryJson := .empty
  emails : List EmailMessageView := []
  exceptions : List ExceptionView := []
  fuzzyAutoApplied : ℕ := 0
  incidentId : Option String := none
deriving DecidableEq, Repr

def exceptionView (exception : ExceptionRecord) (decision : ExceptionDecision) : ExceptionView where
  reason := exception.reason.value
  status := exception.status.value
  orderId := exception.orderId
  settlementId := exception.settlementId
  paymentType := exception.paymentType.map PaymentType.value
  expectedAmount := exception.expectedAmount.map Money.text
  actualAmount := exception.actualAmount.map Money.text
  slaStatus := exception.slaStatus.value
  severity := decision.severity.value
  action := decision.action.value
  rationale := decision.rationale

/-- `final.get("summary", {})`. -/
def finalSummary (final : ReconciliationState) : SummaryJson :=
  match final.summary with
  | some summary => .summary summary
  | none => .empty

def buildOutcome (runId : String) (request : RunRequest) (final : ReconciliationState) : RunOutcome where
  runId := runId
  status := .completed
  ordersCount := request.orders.length
  settlementsCount := request.settlements.length
  summary := finalSummary final
  emails := final.emails
  exceptions := List.zipWith exceptionView final.exceptions final.decisions
  fuzzyAutoApplied := final.fuzzyAutoApplied.length

/-- The run id given by the caller, or a new one. -/
def chooseRunId (host : Host ω) (request : RunRequest) : RunM ω String :=
  match truthy request.runId with
  | some runId => pure runId
  | none => stepWorld host.newRunId

/-- The evaluation date given by the caller, or today. -/
def chooseAsOf (host : Host ω) (request : RunRequest) : RunM ω Date := fun sys =>
  .ok (request.asOfDate.getD (host.today sys.world)) sys

/-- Insert the run record; an id that exists raises out of the run. -/
def startRun (host : Host ω) (runId : String) (request : RunRequest) : RunM ω Unit := fun sys =>
  let row : RunLogRow :=
    { id := runId
      startedAt := host.now sys.world
      inputHash := request.inputHash
      ordersCount := request.orders.length
      settlementsCount := request.settlements.length }
  match sys.db.startRun row with
  | some db => .ok () { sys with db }
  | none => .error (.integrity "UNIQUE constraint failed: run_log.id") sys

def finishRun (host : Host ω) (runId : String) (status : RunStatus) (summary : SummaryJson) : RunM ω Unit :=
  withSession do
    let now ← readClock host
    modifyDb fun db => db.finishRun runId status summary now

/-- The state the graph is invoked on. -/
def initialState (config : AppConfig) (request : RunRequest) (runId : String) (asOf : Date) :
    ReconciliationState :=
  let built := buildObligations request.orders config.reconciliation.amountTolerance
  { runId
    asOfDate := asOf
    dryRun := request.dryRun
    obligations := built.obligations
    settlements := request.settlements
    orderSumExceptions := built.orderSumExceptions }

namespace ReconciliationAgent

/-- Start the run and invoke the graph; what the graph raises is caught. -/
def execute (deps : AgentDependencies ω) (request : RunRequest) :
    RunM ω (String × Except Raised ReconciliationState) := do
  let runId ← chooseRunId deps.host request
  let asOf ← chooseAsOf deps.host request
  startRun deps.host runId request
  let result ← attempt (invokeGraph deps (initialState deps.config request runId asOf))
  pure (runId, result)

/-- Convert a graph failure into an incident and a failed run. -/
def handleFailure (deps : AgentDependencies ω) (request : RunRequest) (runId : String)
    (raised : Raised) : RunM ω RunOutcome := do
  let incident ← deps.incidents.raiseIncident deps.host runId .plannerError raised.text none
    (some "Inspect the run's audit log and inputs; re-run after fixing.")
  finishRun deps.host runId .failed (.failure raised.text incident.incidentId)
  pure
    { runId
      status := .failed
      ordersCount := request.orders.length
      settlementsCount := request.settlements.length
      incidentId := some incident.incidentId }

/-- Finish the run record and build the outcome. -/
def conclude (deps : AgentDependencies ω) (request : RunRequest) (runId : String) :
    Except Raised ReconciliationState → RunM ω RunOutcome
  | .ok final => do
    finishRun deps.host runId .completed (finalSummary final)
    pure (buildOutcome runId request final)
  | .error raised => handleFailure deps request runId raised

def run (deps : AgentDependencies ω) (request : RunRequest) : RunM ω RunOutcome := do
  let (runId, result) ← execute deps request
  conclude deps request runId result

/-- A run of the agent that completes, with the final state its outcome is built from. -/
structure Completes (deps : AgentDependencies ω) (request : RunRequest) (before : Sys ω)
    (final : ReconciliationState) (outcome : RunOutcome) (after : Sys ω) : Prop where
  ran : (run deps request).run before = .ok outcome after
  executed : ∃ runId executed, (execute deps request).run before = .ok (runId, .ok final) executed

end ReconciliationAgent

end ReconcileFlow
