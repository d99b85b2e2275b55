import ReconcileFlow.Model.Config

/-! # Settings from the environment

The YAML file is safe to commit, so a deployment may override its addresses by `RECIPIENT_*` variables. A
variable that is set and not empty wins over the file.
-/

namespace ReconcileFlow

/-- The recipient overrides and the upload key of `AppSettings`; a variable that is not set is empty. -/
structure AppSettings where
  demoAccessKey : String := ""
  recipientStoreManager : String := ""
  recipientAdmin : String := ""
  recipientBank : String := ""
  recipientPgRazorpay : String := ""
  recipientPgPayu : String := ""
  recipientPgCashfree : String := ""
deriving DecidableEq, Repr

namespace RecipientsConfig

/-- One override of the gateway table. -/
def overrideGateway (table : PaymentGateway → Option String) (gateway : PaymentGateway) (override : String) :
    PaymentGateway → Option String :=
  if override = "" then table else Function.update table gateway (some override)

/-- `_apply_recipient_overrides`. -/
def applyOverrides (recipients : RecipientsConfig) (settings : AppSettings) : RecipientsConfig where
  storeManager := if settings.recipientStoreManager = "" then recipients.storeManager
    else settings.recipientStoreManager
  admin := if settings.recipientAdmin = "" then recipients.admin else settings.recipientAdmin
  bank := if settings.recipientBank = "" then recipients.bank else settings.recipientBank
  paymentGateways :=
    let gateways := overrideGateway recipients.paymentGateways .razorpay settings.recipientPgRazorpay
    let gateways := overrideGateway gateways .payu settings.recipientPgPayu
    overrideGateway gateways .cashfree settings.recipientPgCashfree

end RecipientsConfig

namespace AppSettings

/-- The override of a gateway. -/
def recipientPg (settings : AppSettings) : PaymentGateway → String
  | .razorpay => settings.recipientPgRazorpay
  | .payu => settings.recipientPgPayu
  | .cashfree => settings.recipientPgCashfree

/-- The six override variables. -/
def overrides (settings : AppSettings) : List String :=
  [settings.recipientStoreManager, settings.recipientAdmin, settings.recipientBank,
    settings.recipientPgRazorpay, settings.recipientPgPayu, settings.recipientPgCashfree]

end AppSettings

/-- `load_app_config` behind the reading of the file. -/
def AppConfig.resolved (config : AppConfig) (settings : AppSettings) : AppConfig :=
  { config with recipients := config.recipients.applyOverrides settings }

end ReconcileFlow
