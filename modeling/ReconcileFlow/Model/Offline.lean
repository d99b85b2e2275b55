import ReconcileFlow.Model.Service

/-! # The offline assembly

The deterministic `MockLLMClient`, the shipped configuration (`config/settings.yaml`) and the wiring
of `build_dependencies` for the mock client and the mock notifier: the pipeline as it runs in tests
and key-less demos. The row builders follow `tests/factories.py`.
-/

namespace ReconcileFlow

variable {ω : Type}

/-- `_fuzzy_confidence`. -/
def fuzzyConfidence (obligation : Obligation) (settlement : Settlement) : ℚ :=
  let dateClose := decide (|settlement.settlementDate - obligation.orderDate| ≤ 3)
  let sourceMatches := obligation.paymentGateway.any fun gateway => settlement.source.value == gateway.value
  if sourceMatches && dateClose then 9 / 10
  else if dateClose then 6 / 10
  else 5 / 10

theorem fuzzyConfidence_range (obligation : Obligation) (settlement : Settlement) :
    0 ≤ fuzzyConfidence obligation settlement ∧ fuzzyConfidence obligation settlement ≤ 1 := by
  simp only [fuzzyConfidence]
  split_ifs <;> norm_num

/-- The pairing the mock proposes; a rationale beyond the schema's bound is a validation error. -/
def mockPairing (obligation : Obligation) (settlement : Settlement) : Except Raised FuzzyPairing :=
  let rationale := "Amount " ++ obligation.expectedAmount.text ++ " matches; source " ++
    settlement.source.value ++ "."
  if bound : 1 ≤ rationale.length ∧ rationale.length ≤ 300 then
    .ok
      { orderId := some obligation.orderId
        settlementId := some settlement.settlementId
        confidence := fuzzyConfidence obligation settlement
        rationale
        confidenceRange := fuzzyConfidence_range obligation settlement
        rationaleLength := bound }
  else .error (.value "validation error for FuzzyPairing")

/-- The first unused settlement of the obligation's amount. -/
def mockPartner (used : List String) (obligation : Obligation) (settlements : List Settlement) :
    Option Settlement :=
  settlements.find? fun settlement =>
    decide (settlement.settlementId ∉ used) && decide (settlement.amount = obligation.expectedAmount)

/-- The proposing loop; `used` are the settlement ids taken so far. -/
def mockPairings (settlements : List Settlement) :
    List String → List Obligation → Except Raised (List FuzzyPairing)
  | _, [] => .ok []
  | used, obligation :: rest =>
    match mockPartner used obligation settlements with
    | none => mockPairings settlements used rest
    | some settlement => do
      let pairing ← mockPairing obligation settlement
      let others ← mockPairings settlements (settlement.settlementId :: used) rest
      pure (pairing :: others)

/-- `_ACTION_BY_REASON`; `LATE_SETTLEMENT` is handled before the lookup. -/
def mockAction (exception : ExceptionRecord) (withinSla : Bool) : PlannerAction :=
  match exception.reason with
  | .lateSettlement => if withinSla then .wait else .emailPg
  | .cashMissing => .emailStoreManager
  | .onlineMissing => .emailPg
  | .amountShort => .emailPg
  | .amountExcess => .emailPg
  | .duplicateSettlement => .emailPg
  | .unmatchedSettlement => .emailBank
  | .orderSumMismatch => .emailStoreManager
  | .fuzzyMatchReview => .escalate

/-- `_NEEDS_REVIEW_REASONS`. -/
def needsReview : ExceptionReason → Bool
  | .amountShort | .amountExcess | .duplicateSettlement | .fuzzyMatchReview | .orderSumMismatch => true
  | _ => false

def mockSeverity (exception : ExceptionRecord) (threshold : ℚ) : Severity :=
  let amounts := exception.expectedAmount.toList ++ exception.actualAmount.toList
  if amounts.any fun amount => decide (amount.rupees ≥ threshold) then .highValue
  else if needsReview exception.reason then .needsReview
  else .routine

def mockDecision (exception : ExceptionRecord) (withinSla : Bool) (threshold : ℚ) :
    Except Raised ExceptionDecision :=
  let action := mockAction exception withinSla
  let severity := mockSeverity exception threshold
  let rationale := exception.reason.value ++ " -> " ++ action.value ++ " (severity " ++ severity.value ++ ")."
  if bound : 1 ≤ rationale.length ∧ rationale.length ≤ 500 then .ok ⟨severity, action, rationale, bound⟩
  else .error (.value "validation error for ExceptionDecision")

def templateSubject (exception : ExceptionRecord) : String :=
  let ref := (truthy exception.orderId).getD ((truthy exception.settlementId).getD "unknown")
  "[Reconciliation] " ++ exception.reason.value ++ " - " ++ ref

/-- `role.value.replace("_", " ").title()`. -/
def RecipientRole.title : RecipientRole → String
  | storeManager => "Store Manager"
  | paymentGateway => "Payment Gateway"
  | bank => "Bank"
  | admin => "Admin"

def templateBody (exception : ExceptionRecord) (role : RecipientRole) (tag : String) : String :=
  let action :=
    if tag = "recheck" then "Please re-verify and re-upload the corrected data."
    else if tag = "escalate" then "This item needs manual review."
    else "Please investigate and confirm the correct settlement."
  let detail := match truthy exception.detail with
    | some detail => ["  Detail:      " ++ detail]
    | none => []
  "\n".intercalate
    (["Hello " ++ role.title ++ ",",
      "",
      "A reconciliation exception was detected: " ++ exception.reason.value ++ ".",
      "  Order:       " ++ (truthy exception.orderId).getD "n/a",
      "  Settlement:  " ++ (truthy exception.settlementId).getD "n/a",
      "  Payment:     " ++ (exception.paymentType.map PaymentType.value).getD "n/a",
      "  Expected:    " ++ (exception.expectedAmount.map Money.text).getD "n/a",
      "  Actual:      " ++ (exception.actualAmount.map Money.text).getD "n/a"] ++ detail ++
    ["", action, "", "— ReconcileFlow Agent"])

def mockDraft (exception : ExceptionRecord) (role : RecipientRole) (tag : String) : Except Raised EmailDraft :=
  let subject := templateSubject exception
  let body := templateBody exception role tag
  if bound : (1 ≤ subject.length ∧ subject.length ≤ 200) ∧ 1 ≤ body.length then
    .ok ⟨subject, body, bound.1, bound.2⟩
  else .error (.value "validation error for EmailDraft")

/-- A client whose answers depend on nothing but its arguments. -/
def LlmClient.ofFunctions
    (proposeFuzzy : List Obligation → List Settlement → Except Raised FuzzyProposal)
    (decide : ExceptionRecord → Bool → ℚ → Except Raised ExceptionDecision)
    (draftEmail : ExceptionRecord → RecipientRole → String → Except Raised EmailDraft) : LlmClient ω where
  proposeFuzzy obligations settlements world := (proposeFuzzy obligations settlements, world)
  decide exception withinSla threshold world := (decide exception withinSla threshold, world)
  draftEmail exception role tag world := (draftEmail exception role tag, world)

def mockProposal (obligations : List Obligation) (settlements : List Settlement) :
    Except Raised FuzzyProposal := do
  let pairings ← mockPairings settlements [] obligations
  pure { pairings }

/-- `MockLLMClient`. -/
def mockLlm : LlmClient ω := .ofFunctions mockProposal mockDecision mockDraft

/-- `config/settings.yaml`. -/
def shippedConfig : AppConfig where
  recipients :=
    { storeManager := "store-manager@demo.local"
      admin := "admin@demo.local"
      bank := "bank-ops@demo.local"
      paymentGateways := fun gateway =>
        match gateway with
        | .razorpay => some "razorpay-support@demo.local"
        | .payu => some "payu-support@demo.local"
        | .cashfree => some "cashfree-support@demo.local" }
  reconciliation :=
    { amountTolerance := 1
      highValueThreshold := 1000
      slaGraceDays := fun paymentType =>
        match paymentType with
        | .cash | .upi | .wallet => some 1
        | .card | .netbanking => some 2 }
  planner :=
    { allowedActions := [.wait, .emailStoreManager, .emailPg, .emailBank, .escalate, .requestRecheck]
      offListFallback := .escalate }
  fuzzyMatch := { enabled := true, autoApplyThreshold := 85 / 100, reviewThreshold := 50 / 100 }
  resilience := { emailRetryAttempts := 3 }
  incidents := { adminEmailBestEffort := true }

/-- `build_dependencies` around a given LLM client and notification service. -/
def buildDependencies (config : AppConfig) (llm : LlmClient ω) (notifier : Notifier ω)
    (breaker : Breaker ω) (host : Host ω) : AgentDependencies ω :=
  let notifications : NotificationService ω := { notifier, breaker, resilience := config.resilience }
  { config
    llm
    notifications
    incidents :=
      { adminEmail := config.recipients.admin
        notificationService := some notifications
        bestEffortEmail := config.incidents.adminEmailBestEffort }
    host
    fuzzyEnabled := config.fuzzyMatch.enabled }

/-- The 6th of June 2026, the default order date of the builders. -/
def defaultDate : Date := 739773

/-- A clock that stands still at the given date. -/
def fixedHost (today : Date) : Host ω where
  now _ := 0
  today _ := today
  newRunId world := ("run-1", world)
  newIncidentId world := ("0123456789ab", world)

/-- A client with one fixed answer about pairings, the mock's decisions and one-line mails. -/
def scriptedLlm (reply : Except Raised FuzzyProposal) : LlmClient ω :=
  .ofFunctions (fun _ _ => reply) mockDecision (fun _ _ _ => .ok { subject := "Mismatch", body := "Please check." })

/-- The draft of the scripted clients. -/
def scriptedDraft : EmailDraft := { subject := "Mismatch", body := "Please check." }

/-- The shipped configuration with a scripted client and the mock notifier. -/
def scriptedDependencies (reply : Except Raised FuzzyProposal) : AgentDependencies ω :=
  buildDependencies shippedConfig (scriptedLlm reply) mockNotifier closedBreaker (fixedHost (defaultDate + 2))

/-- An empty database before the first run. -/
def emptyStart : Sys Unit := { world := () }

def makeOrder (orderId : String := "O1") (amount : Money := ⟨50000⟩) (paymentAmount : Money := amount) :
    Order where
  orderId := orderId
  orderDate := defaultDate
  storeId := "S1"
  amount := amount
  paymentType := .cash
  paymentAmount := paymentAmount

def makeObligation (orderId txn : String) (paymentType : PaymentType := .card)
    (expectedAmount : Money := ⟨100000⟩) : Obligation where
  obligationId := "OB1"
  orderId := orderId
  orderDate := defaultDate
  storeId := "S1"
  paymentType := paymentType
  expectedAmount := expectedAmount
  paymentGateway := some .razorpay
  gatewayTxnId := some txn

def makeSettlement (settlementId : String := "ST1") (orderId gatewayTxnId : Option String := none)
    (amount : Money := ⟨100000⟩) : Settlement where
  settlementId := settlementId
  settlementDate := defaultDate + 1
  paymentType := .card
  amount := amount
  netAmount := amount
  source := .razorpay
  orderId := orderId
  gatewayTxnId := gatewayTxnId

def makeCall (runId : String := "run-1") : DispatchCall where
  runId := runId
  mismatchKey := "K1"
  recipientRole := .storeManager
  recipientEmail := "store-manager@demo.local"
  subject := "Mismatch"
  body := "Please check."

/-- A cash order settled at the counter, and a settlement nobody asked for. -/
def strayRequest : RunRequest where
  orders := [makeOrder]
  settlements := [{ makeSettlement "ST1" (some "O1") with amount := ⟨50000⟩, paymentType := .cash },
    makeSettlement "ST2"]

/-- Two unpaid cash orders of one part each, and a settlement nobody asked for. -/
def separateRequest : RunRequest where
  orders := [makeOrder "O1" ⟨10000⟩, makeOrder "O2" ⟨20000⟩]
  settlements := [makeSettlement "ST9"]

end ReconcileFlow
