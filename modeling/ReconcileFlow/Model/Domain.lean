import ReconcileFlow.Model.Decimal
import ReconcileFlow.Model.Digest

/-! # Domain value objects

The validated records of `models/domain.py`. A `Money` is a natural number of paise, so amounts are
quantized and non-negative by construction. Their `+` is exact; what `Decimal` adds and subtracts is
rounded to 28 digits (`plus`, `minus`). Enumerations keep the text of their members as `value`. An
`Order` carries the cross-field check of its validator, so an online row without a gateway or a
transaction id cannot be built.

Dates are proleptic ordinals.
-/

namespace ReconcileFlow

/-- Whole days on the proleptic calendar (`date.toordinal`). -/
abbrev Date := ℤ

/-- A non-negative amount, quantized to two decimal places. -/
structure Money where
  paise : ℕ
deriving DecidableEq, Repr, Inhabited

namespace Money

instance : Zero Money := ⟨⟨0⟩⟩
instance : Add Money := ⟨fun left right => ⟨left.paise + right.paise⟩⟩

/-- The decimal value in rupees. -/
def rupees (amount : Money) : ℚ := amount.paise / 100

/-- `left + right` in the default context. -/
def plus (left right : Money) : Money := ⟨Decimal.roundUnits (left.paise + right.paise)⟩

/-- `sum(amounts, Decimal("0.00"))`. -/
def total (amounts : List Money) : Money := amounts.foldl plus 0

/-- `left - right` in the default context, in paise. -/
def minus (left right : Money) : ℤ :=
  let difference : ℤ := left.paise - right.paise
  difference.sign * Decimal.roundUnits difference.natAbs

/-- `quantize` raises on more than 28 digits, so no validated amount has more. -/
def Validated (amount : Money) : Prop := Decimal.numDigits amount.paise ≤ Decimal.precision

instance (amount : Money) : Decidable amount.Validated := inferInstanceAs (Decidable (_ ≤ _))

/-- `str` of a decimal with the given number of paise, as the default context leaves it: with two
decimal places, or with fewer where there are more than 28 digits. -/
def decimalText (paise : ℤ) : String :=
  let excess := Decimal.numDigits paise.natAbs - Decimal.precision
  Decimal.signText (paise < 0) ++ Decimal.finiteText (paise.natAbs / 10 ^ excess) (excess - 2)

example : decimalText (-1205) = "-12.05" ∧ decimalText (10 ^ 28 + 10) = "100000000000000000000000000.1" := by
  decide

/-- `str` of the amount. -/
def text (amount : Money) : String := decimalText amount.paise

@[simp] theorem paise_zero : (0 : Money).paise = 0 := rfl

@[simp] theorem paise_add (left right : Money) : (left + right).paise = left.paise + right.paise := rfl

end Money

/-- How a customer paid for (part of) an order. -/
inductive PaymentType where
  | cash | upi | card | netbanking | wallet
deriving DecidableEq, Repr, Inhabited

namespace PaymentType

def value : PaymentType → String
  | cash => "CASH"
  | upi => "UPI"
  | card => "CARD"
  | netbanking => "NETBANKING"
  | wallet => "WALLET"

/-- Any payment settled by a gateway or a bank. -/
def isOnline (paymentType : PaymentType) : Bool := paymentType != cash

end PaymentType

inductive PaymentGateway where
  | razorpay | payu | cashfree
deriving DecidableEq, Repr, Inhabited

def PaymentGateway.value : PaymentGateway → String
  | razorpay => "RAZORPAY"
  | payu => "PAYU"
  | cashfree => "CASHFREE"

inductive OrderStatus where
  | placed | cancelled
deriving DecidableEq, Repr, Inhabited

inductive SettlementSource where
  | bank | razorpay | payu | cashfree
deriving DecidableEq, Repr, Inhabited

def SettlementSource.value : SettlementSource → String
  | bank => "BANK"
  | razorpay => "RAZORPAY"
  | payu => "PAYU"
  | cashfree => "CASHFREE"

/-- A stakeholder role that can receive a notification. -/
inductive RecipientRole where
  | storeManager | paymentGateway | bank | admin
deriving DecidableEq, Repr, Inhabited

def RecipientRole.value : RecipientRole → String
  | storeManager => "STORE_MANAGER"
  | paymentGateway => "PAYMENT_GATEWAY"
  | bank => "BANK"
  | admin => "ADMIN"

/-- Deterministic outcome of reconciling one obligation against the settlements. -/
inductive ObligationStatus where
  | matched | partiallyMatched | excess | duplicate | unmatched
deriving DecidableEq, Repr, Inhabited

def ObligationStatus.value : ObligationStatus → String
  | matched => "MATCHED"
  | partiallyMatched => "PARTIALLY_MATCHED"
  | excess => "EXCESS"
  | duplicate => "DUPLICATE"
  | unmatched => "UNMATCHED"

/-- Why a non-matched obligation or a stray settlement needs attention. -/
inductive ExceptionReason where
  | cashMissing | onlineMissing | lateSettlement | amountShort | amountExcess
  | duplicateSettlement | unmatchedSettlement | orderSumMismatch | fuzzyMatchReview
deriving DecidableEq, Repr, Inhabited

def ExceptionReason.value : ExceptionReason → String
  | cashMissing => "CASH_MISSING"
  | onlineMissing => "ONLINE_MISSING"
  | lateSettlement => "LATE_SETTLEMENT"
  | amountShort => "AMOUNT_SHORT"
  | amountExcess => "AMOUNT_EXCESS"
  | duplicateSettlement => "DUPLICATE_SETTLEMENT"
  | unmatchedSettlement => "UNMATCHED_SETTLEMENT"
  | orderSumMismatch => "ORDER_SUM_MISMATCH"
  | fuzzyMatchReview => "FUZZY_MATCH_REVIEW"

inductive SlaStatus where
  | withinSla | breached | na
deriving DecidableEq, Repr, Inhabited

def SlaStatus.value : SlaStatus → String
  | withinSla => "WITHIN_SLA"
  | breached => "BREACHED"
  | na => "NA"

/-- The controlled allow-list of actions the planner may choose. -/
inductive PlannerAction where
  | wait | emailStoreManager | emailPg | emailBank | escalate | requestRecheck
deriving DecidableEq, Repr, Inhabited

def PlannerAction.value : PlannerAction → String
  | wait => "WAIT"
  | emailStoreManager => "EMAIL_STORE_MANAGER"
  | emailPg => "EMAIL_PG"
  | emailBank => "EMAIL_BANK"
  | escalate => "ESCALATE"
  | requestRecheck => "REQUEST_RECHECK"

/-- Lifecycle of an exception tracked across runs. -/
inductive ExceptionLifecycleStatus where
  | opened | resolved | escalated | awaitingRecheck
deriving DecidableEq, Repr, Inhabited

inductive NotificationChannel where
  | email
deriving DecidableEq, Repr, Inhabited

inductive NotificationStatus where
  | sent | failed | skipped
deriving DecidableEq, Repr, Inhabited

def NotificationStatus.value : NotificationStatus → String
  | sent => "SENT"
  | failed => "FAILED"
  | skipped => "SKIPPED"

/-- Stands for the payment type in a mismatch key that is not tied to one. -/
def paymentTypeWildcard : String := "*"

/-- Python truthiness of an optional text: an empty text counts as absent. -/
def truthy (text : Option String) : Option String := text.filter (fun value => value != "")

/-- One validated row of the orders file; an order may span several rows. -/
structure Order where
  orderId : String
  orderDate : Date
  storeId : String
  amount : Money
  paymentType : PaymentType
  paymentAmount : Money
  paymentGateway : Option PaymentGateway := none
  gatewayTxnId : Option String := none
  responsibleParty : Option RecipientRole := none
  status : OrderStatus := .placed
  customerName : Option String := none
  customerEmail : Option String := none
  /-- `_check_payment_fields`: online rows carry a gateway and a transaction id. -/
  checkPaymentFields : paymentType.isOnline = true →
    (truthy gatewayTxnId).isSome ∧ paymentGateway.isSome := by decide
deriving DecidableEq, Repr

/-- One validated row of the settlements file: money actually received. -/
structure Settlement where
  settlementId : String
  settlementDate : Date
  paymentType : PaymentType
  amount : Money
  netAmount : Money
  source : SettlementSource
  fee : Money := 0
  orderId : Option String := none
  gatewayTxnId : Option String := none
  referenceId : Option String := none
deriving DecidableEq, Repr

/-- A reconciliation unit derived from one `PLACED` order row. -/
structure Obligation where
  obligationId : String
  orderId : String
  orderDate : Date
  storeId : String
  paymentType : PaymentType
  expectedAmount : Money
  paymentGateway : Option PaymentGateway := none
  gatewayTxnId : Option String := none
  responsibleParty : Option RecipientRole := none
  customerName : Option String := none
  customerEmail : Option String := none
deriving DecidableEq, Repr

/-- An obligation with the settlement that satisfied it. -/
structure MatchedPair where
  obligation : Obligation
  settlement : Settlement
deriving DecidableEq, Repr

/-- A detected reconciliation problem: detection facts only. -/
structure ExceptionRecord where
  reason : ExceptionReason
  status : ObligationStatus
  orderId : Option String := none
  settlementId : Option String := none
  paymentType : Option PaymentType := none
  storeId : Option String := none
  paymentGateway : Option PaymentGateway := none
  expectedAmount : Option Money := none
  actualAmount : Option Money := none
  responsibleParty : Option RecipientRole := none
  ageDays : Option ℤ := none
  slaStatus : SlaStatus := .na
  detail : Option String := none
deriving DecidableEq, Repr

/-- The transaction id of an online payment, or `order_id:payment_type:seq`. -/
def makeObligationId (orderId : String) (paymentType : PaymentType) (gatewayTxnId : Option String)
    (seq : ℕ) : String :=
  match truthy gatewayTxnId with
  | some txn => txn
  | none => orderId ++ ":" ++ paymentType.value ++ ":" ++ toString seq

/-- The text that `make_mismatch_key` hashes. -/
def mismatchText (reason : ExceptionReason) (orderId settlementId : Option String)
    (paymentType : Option PaymentType) (recipientRole : RecipientRole) : String :=
  "|".intercalate
    [reason.value, orderId.getD "", settlementId.getD "",
      (paymentType.map PaymentType.value).getD paymentTypeWildcard, recipientRole.value]

/-- The idempotency key of a routed exception. -/
def makeMismatchKey (reason : ExceptionReason) (orderId settlementId : Option String)
    (paymentType : Option PaymentType) (recipientRole : RecipientRole) : String :=
  sha1Hex (mismatchText reason orderId settlementId paymentType recipientRole)

end ReconcileFlow
