import ReconcileFlow.Model.Domain

/-! # Business configuration

The validated YAML configuration of `config.py`, field for field where a modelled function reads
it. Decimals and floats are rationals: the pipeline only compares them. Dictionaries keyed by an
enumeration are functions to `Option`.
-/

namespace ReconcileFlow

/-- Stakeholder addresses by role. -/
structure RecipientsConfig where
  storeManager : String
  admin : String
  bank : String
  paymentGateways : PaymentGateway → Option String

namespace RecipientsConfig

/-- The address of a gateway, falling back to the admin address. -/
def forGateway (recipients : RecipientsConfig) (gateway : PaymentGateway) : String :=
  (recipients.paymentGateways gateway).getD recipients.admin

/-- The address of a role; the gateway role is resolved per gateway. -/
def forRole (recipients : RecipientsConfig) (role : RecipientRole)
    (gateway : Option PaymentGateway) : String :=
  match role with
  | .storeManager => recipients.storeManager
  | .bank => recipients.bank
  | .admin => recipients.admin
  | .paymentGateway =>
    match gateway with
    | some gateway => recipients.forGateway gateway
    | none => recipients.admin

end RecipientsConfig

structure ReconciliationConfig where
  amountTolerance : ℚ := 1
  highValueThreshold : ℚ := 1000
  slaGraceDays : PaymentType → Option ℤ := fun _ => none

structure PlannerConfig where
  allowedActions : List PlannerAction
  offListFallback : PlannerAction := .escalate

structure FuzzyMatchConfig where
  enabled : Bool := true
  autoApplyThreshold : ℚ := 85 / 100
  reviewThreshold : ℚ := 50 / 100

/-- Retry tuning; the waits between attempts have no effect on the outcome. -/
structure ResilienceConfig where
  emailRetryAttempts : ℤ := 3

structure IncidentsConfig where
  adminEmailBestEffort : Bool := true

structure AppConfig where
  recipients : RecipientsConfig
  reconciliation : ReconciliationConfig := {}
  planner : PlannerConfig
  fuzzyMatch : FuzzyMatchConfig := {}
  resilience : ResilienceConfig := {}
  incidents : IncidentsConfig := {}

end ReconcileFlow
