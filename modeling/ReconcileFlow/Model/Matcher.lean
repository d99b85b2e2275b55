import ReconcileFlow.Model.Config
import ReconcileFlow.ToMathlib.KeyedTable

/-! # The deterministic matcher

`reconcile_keys` walks the obligations once. Each obligation looks up the settlements with its
transaction id and, only when none of those is left, the settlements with its
`(order_id, payment_type)`; settlements are consumed by `settlement_id`. `classify_leftovers` turns
what remains on either side into exceptions, and `reconcile` composes the two.
-/

namespace ReconcileFlow

/-- Whole days between the order date and the evaluation date. -/
def computeAgeDays (orderDate asOfDate : Date) : ℤ := asOfDate - orderDate

def slaStatus (obligation : Obligation) (asOfDate : Date) (graceDays : PaymentType → Option ℤ) :
    SlaStatus × ℤ :=
  let age := computeAgeDays obligation.orderDate asOfDate
  if obligation.paymentType.isOnline then
    match graceDays obligation.paymentType with
    | none => (.na, age)
    | some grace => (if age ≤ grace then .withinSla else .breached, age)
  else (.na, age)

structure KeyMatchResult where
  matched : List MatchedPair
  exceptions : List ExceptionRecord
  unmatchedObligations : List Obligation
  unmatchedSettlements : List Settlement
deriving DecidableEq, Repr

/-- Compare a settled amount with the expected one. -/
def amountStatus (expected actual : Money) (tolerance : ℚ) : ObligationStatus :=
  let diff := actual.rupees - expected.rupees
  if |diff| ≤ tolerance then .matched
  else if diff < 0 then .partiallyMatched else .excess

/-- `_AMOUNT_REASON`; the dictionary is only read for the two amount statuses. -/
def amountReason : ObligationStatus → ExceptionReason
  | .partiallyMatched => .amountShort
  | _ => .amountExcess

/-- The gateway with the same name as the source; the bank is none. -/
def gatewayFromSource : SettlementSource → Option PaymentGateway
  | .bank => none
  | .razorpay => some .razorpay
  | .payu => some .payu
  | .cashfree => some .cashfree

def amountException (obligation : Obligation) (settlement : Settlement) (status : ObligationStatus) :
    ExceptionRecord where
  reason := amountReason status
  status := status
  orderId := some obligation.orderId
  settlementId := some settlement.settlementId
  paymentType := some obligation.paymentType
  storeId := some obligation.storeId
  paymentGateway := obligation.paymentGateway
  expectedAmount := some obligation.expectedAmount
  actualAmount := some settlement.amount
  responsibleParty := obligation.responsibleParty
  detail := some ("Expected " ++ obligation.expectedAmount.text ++ ", settled " ++
    settlement.amount.text ++ " (settlement " ++ settlement.settlementId ++ ").")

/-- The text naming every settlement of a duplicate group. -/
def duplicateDetail (settlements : List Settlement) : String :=
  toString settlements.length ++ " settlements satisfy this obligation: " ++
    ", ".intercalate (settlements.map Settlement.settlementId) ++ "."

/-- The first settlement of the group is quoted on the exception. -/
def duplicateException (obligation : Obligation) (first : Settlement) (rest : List Settlement) :
    ExceptionRecord where
  reason := .duplicateSettlement
  status := .duplicate
  orderId := some obligation.orderId
  settlementId := some first.settlementId
  paymentType := some obligation.paymentType
  storeId := some obligation.storeId
  paymentGateway := obligation.paymentGateway
  expectedAmount := some obligation.expectedAmount
  actualAmount := some first.amount
  responsibleParty := obligation.responsibleParty
  detail := some (duplicateDetail (first :: rest))

/-- The two dictionaries built from the settlements before the loop. -/
structure SettlementIndex where
  byTxn : KeyedTable (Prod.fst : String × List Settlement → String)
  byOrderType : KeyedTable (Prod.fst : (String × PaymentType) × List Settlement → String × PaymentType)

/-- The `(order_id, payment_type)` key of a settlement that names an order. -/
def orderTypeKey (settlement : Settlement) : Option (String × PaymentType) :=
  (truthy settlement.orderId).map fun orderId => (orderId, settlement.paymentType)

def indexSettlements (settlements : List Settlement) : SettlementIndex where
  byTxn := KeyedTable.group (fun settlement => truthy settlement.gatewayTxnId) settlements
  byOrderType := KeyedTable.group orderTypeKey settlements

/-- The settlements of a lookup whose id is not consumed yet. -/
def live (consumed : Finset String) (candidates : List Settlement) : List Settlement :=
  candidates.filter (fun settlement => decide (settlement.settlementId ∉ consumed))

/-- The lookup by transaction id. -/
def txnCandidates (index : SettlementIndex) (consumed : Finset String) (obligation : Obligation) :
    List Settlement :=
  match truthy obligation.gatewayTxnId with
  | some txn => live consumed (index.byTxn.members txn)
  | none => []

/-- The fallback lookup by `(order_id, payment_type)`. -/
def fallbackCandidates (index : SettlementIndex) (consumed : Finset String) (obligation : Obligation) :
    List Settlement :=
  live consumed (index.byOrderType.members (obligation.orderId, obligation.paymentType))

/-- The candidates of one obligation: the fallback is consulted only when the first lookup is empty. -/
def candidates (index : SettlementIndex) (consumed : Finset String) (obligation : Obligation) :
    List Settlement :=
  match txnCandidates index consumed obligation with
  | [] => fallbackCandidates index consumed obligation
  | found => found

/-- The variables the matching loop mutates. -/
structure KeyMatchState where
  consumed : Finset String
  matched : List MatchedPair
  exceptions : List ExceptionRecord
  unmatchedObligations : List Obligation

/-- One pass of the loop body. -/
def keyMatchStep (index : SettlementIndex) (tolerance : ℚ) (state : KeyMatchState)
    (obligation : Obligation) : KeyMatchState :=
  match candidates index state.consumed obligation with
  | [] => { state with unmatchedObligations := state.unmatchedObligations ++ [obligation] }
  | [settlement] =>
    let consumed := state.consumed ∪ {settlement.settlementId}
    let status := amountStatus obligation.expectedAmount settlement.amount tolerance
    if status = .matched then
      { state with consumed, matched := state.matched ++ [⟨obligation, settlement⟩] }
    else
      { state with consumed,
                   exceptions := state.exceptions ++ [amountException obligation settlement status] }
  | first :: rest =>
    { state with
      consumed := state.consumed ∪ ((first :: rest).map Settlement.settlementId).toFinset
      exceptions := state.exceptions ++ [duplicateException obligation first rest] }

/-- Match obligations to settlements by exact keys and compare amounts. -/
def reconcileKeys (obligations : List Obligation) (settlements : List Settlement)
    (amountTolerance : ℚ) : KeyMatchResult :=
  let final := obligations.foldl (keyMatchStep (indexSettlements settlements) amountTolerance)
    ⟨∅, [], [], []⟩
  { matched := final.matched
    exceptions := final.exceptions
    unmatchedObligations := final.unmatchedObligations
    unmatchedSettlements := live final.consumed settlements }

def missingObligationException (graceDays : PaymentType → Option ℤ) (asOfDate : Date)
    (obligation : Obligation) : ExceptionRecord :=
  let (statusValue, age) := slaStatus obligation asOfDate graceDays
  { reason :=
      if obligation.paymentType.isOnline then
        -- Breached, or no grace configured: a hard miss.
        if statusValue = .withinSla then .lateSettlement else .onlineMissing
      else .cashMissing
    status := .unmatched
    orderId := some obligation.orderId
    paymentType := some obligation.paymentType
    storeId := some obligation.storeId
    paymentGateway := obligation.paymentGateway
    expectedAmount := some obligation.expectedAmount
    responsibleParty := obligation.responsibleParty
    ageDays := some age
    slaStatus := statusValue
    detail := some ("No settlement found for obligation " ++ obligation.obligationId ++ ".") }

def unmatchedSettlementException (asOfDate : Date) (settlement : Settlement) : ExceptionRecord where
  reason := .unmatchedSettlement
  status := .unmatched
  settlementId := some settlement.settlementId
  paymentType := some settlement.paymentType
  paymentGateway := gatewayFromSource settlement.source
  actualAmount := some settlement.amount
  ageDays := some (computeAgeDays settlement.settlementDate asOfDate)
  detail := some ("Settlement " ++ settlement.settlementId ++ " has no matching order.")

/-- Turn leftover obligations and settlements into exceptions, obligations first. -/
def classifyLeftovers (unmatchedObligations : List Obligation) (unmatchedSettlements : List Settlement)
    (graceDays : PaymentType → Option ℤ) (asOfDate : Date) : List ExceptionRecord :=
  unmatchedObligations.map (missingObligationException graceDays asOfDate) ++
    unmatchedSettlements.map (unmatchedSettlementException asOfDate)

/-- Full deterministic reconciliation, without the fuzzy step (`ReconciliationResult`). -/
def reconcile (obligations : List Obligation) (settlements : List Settlement) (config : AppConfig)
    (asOfDate : Date) : KeyMatchResult :=
  let keyResult := reconcileKeys obligations settlements config.reconciliation.amountTolerance
  { keyResult with
    exceptions := keyResult.exceptions ++ classifyLeftovers keyResult.unmatchedObligations
      keyResult.unmatchedSettlements config.reconciliation.slaGraceDays asOfDate }

end ReconcileFlow
