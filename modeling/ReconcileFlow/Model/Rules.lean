import ReconcileFlow.Model.Config

/-! # Routing rules

Every exception reason has default recipient roles; a `responsible_party` on the exception
overrides them. Each resolved target carries the mismatch key of its role.
-/

namespace ReconcileFlow

/-- A resolved notification target for one exception. -/
structure RecipientTarget where
  role : RecipientRole
  email : String
  mismatchKey : String
deriving DecidableEq, Repr

/-- `DEFAULT_ROUTING`: the recipient roles of a reason. -/
def defaultRoles : ExceptionReason → List RecipientRole
  | .cashMissing => [.storeManager]
  | .onlineMissing => [.paymentGateway]
  | .lateSettlement => [.paymentGateway]
  | .amountShort => [.paymentGateway, .storeManager]
  | .amountExcess => [.paymentGateway, .storeManager]
  | .duplicateSettlement => [.paymentGateway, .bank]
  | .unmatchedSettlement => [.bank, .paymentGateway]
  | .orderSumMismatch => [.storeManager]
  | .fuzzyMatchReview => [.admin]

/-- The roles an exception is routed to, before duplicates are collapsed. -/
def routedRoles (exception : ExceptionRecord) : List RecipientRole :=
  match exception.responsibleParty with
  | some role => [role]
  | none => defaultRoles exception.reason

/-- Keep the first occurrence of every role (the `seen` loop). -/
def distinctRoles (seen : List RecipientRole) : List RecipientRole → List RecipientRole
  | [] => []
  | role :: rest =>
    if role ∈ seen then distinctRoles seen rest else role :: distinctRoles (role :: seen) rest

/-- The mismatch key of an exception for one role. -/
def exceptionKey (exception : ExceptionRecord) (role : RecipientRole) : String :=
  makeMismatchKey exception.reason exception.orderId exception.settlementId exception.paymentType role

/-- Resolve the notification targets of an exception. -/
def resolveTargets (config : AppConfig) (exception : ExceptionRecord) : List RecipientTarget :=
  (distinctRoles [] (routedRoles exception)).map fun role =>
    { role
      email := config.recipients.forRole role exception.paymentGateway
      mismatchKey := exceptionKey exception role }

/-- The single target of an escalation. -/
def adminTarget (config : AppConfig) (exception : ExceptionRecord) : RecipientTarget where
  role := .admin
  email := config.recipients.admin
  mismatchKey := exceptionKey exception .admin

end ReconcileFlow
