import ReconcileFlow.Model.Groq

/-! # Prompts

The texts of `agent/prompts.py` and the two row listings of `agent/llm.py`. The chat model sees nothing
else of a run: `TextModel` answers a prompt, and `asked` is the client's view of it by arguments.
-/

namespace ReconcileFlow

variable {ω : Type}

/-- `_DAYS_BEFORE_MONTH`, from January on. -/
def daysBeforeMonth : List ℤ := [0, 31, 59, 90, 120, 151, 181, 212, 243, 273, 304, 334]

/-- The month and the day of the `day`-th day of a year, counted from 0. -/
def monthAndDay (leap : Bool) (day : ℤ) : ℤ × ℤ :=
  let before (month : ℕ) : ℤ := daysBeforeMonth.getD month 0 + if leap && 2 ≤ month then 1 else 0
  let month := (List.range 12).countP fun month => before month ≤ day
  (month, day - before (month - 1) + 1)

/-- Year, month and day of an ordinal (`_ord2ymd`). -/
def ord2ymd (date : Date) : ℤ × ℤ × ℤ :=
  let n := date - 1
  let (n400, n) := (n / 146097, n % 146097)
  let (n100, n) := (n / 36524, n % 36524)
  let (n4, n) := (n / 1461, n % 1461)
  let (n1, n) := (n / 365, n % 365)
  let year := n400 * 400 + n100 * 100 + n4 * 4 + n1 + 1
  if n1 = 4 ∨ n100 = 4 then (year - 1, 12, 31)
  else
    let leap := decide (n1 = 3 ∧ (n4 ≠ 24 ∨ n100 = 3))
    (year, monthAndDay leap n)

/-- A number with leading zeros. -/
def zeroPadded (width : ℕ) (number : ℤ) : String :=
  let digits := toString number.natAbs
  String.ofList (List.replicate (width - digits.length) '0') ++ digits

/-- `str` of a date. -/
def isoformat (date : Date) : String :=
  let (year, month, day) := ord2ymd date
  "-".intercalate [zeroPadded 4 year, zeroPadded 2 month, zeroPadded 2 day]

example : [739775, 738945, 730485].map isoformat = ["2026-06-08", "2024-02-29", "2000-12-31"] := by decide

/-- `_SYSTEM`. -/
def systemPreamble : String :=
  "You are a meticulous finance-operations reconciliation assistant for an " ++
    "Indian retail business. You never invent numbers. You only choose from the " ++
    "actions you are given. Keep language clear and professional."

/-- `_ALLOWED_ACTIONS`: every member of the enumeration. -/
def allowedActions : String :=
  ", ".intercalate ([PlannerAction.wait, .emailStoreManager, .emailPg, .emailBank, .escalate,
    .requestRecheck].map PlannerAction.value)

/-- An interpolated optional value; an absent one reads `None`. -/
def orNone (text : Option String) : String := text.getD "None"

def boolText (value : Bool) : String := if value then "True" else "False"

def decidePrompt (exception : ExceptionRecord) (withinSla : Bool) (highValueThreshold : String) : String :=
  systemPreamble ++ "\n\n" ++
    "Decide how to handle this reconciliation exception.\n" ++
    "- reason: " ++ exception.reason.value ++ "\n" ++
    "- status: " ++ exception.status.value ++ "\n" ++
    "- payment_type: " ++ (exception.paymentType.map PaymentType.value).getD "n/a" ++ "\n" ++
    "- expected_amount: " ++ orNone (exception.expectedAmount.map Money.text) ++ "\n" ++
    "- actual_amount: " ++ orNone (exception.actualAmount.map Money.text) ++ "\n" ++
    "- order_id: " ++ orNone exception.orderId ++ "\n" ++
    "- settlement_id: " ++ orNone exception.settlementId ++ "\n" ++
    "- sla_status: " ++ exception.slaStatus.value ++ "\n" ++
    "- within_sla_grace: " ++ boolText withinSla ++ "\n" ++
    "- high_value_threshold: " ++ highValueThreshold ++ "\n\n" ++
    "Choose action from: " ++ allowedActions ++ ".\n" ++
    "Use WAIT only when the obligation is still within its SLA grace window. " ++
    "Use ESCALATE for ambiguous fuzzy-match reviews. Set severity to " ++
    "HIGH_VALUE when an amount meets or exceeds the high-value threshold."

def fuzzyPrompt (obligationsText settlementsText : String) : String :=
  systemPreamble ++ "\n\n" ++
    "Some orders and settlements could not be matched by exact keys. Propose " ++
    "likely pairings ONLY when the amounts match and the dates/sources are " ++
    "plausibly related. Give each a confidence in [0,1] and a short rationale. " ++
    "Do not pair rows with different amounts.\n\n" ++
    "Return ONLY real pairings: every item must have a concrete order_id AND " ++
    "settlement_id from the lists below. Do NOT include orders you cannot pair, " ++
    "and never use null for either id. If there are no plausible pairings, " ++
    "return an empty list.\n\n" ++
    "UNMATCHED ORDERS:\n" ++ obligationsText ++ "\n\n" ++
    "UNMATCHED SETTLEMENTS:\n" ++ settlementsText ++ "\n"

/-- `role.value.replace("_", " ").lower()`. -/
def RecipientRole.lower : RecipientRole → String
  | storeManager => "store manager"
  | paymentGateway => "payment gateway"
  | bank => "bank"
  | admin => "admin"

def draftPrompt (exception : ExceptionRecord) (role : RecipientRole) (tag : String) : String :=
  let intent :=
    if tag = "email" then "notify the recipient and ask them to investigate"
    else if tag = "recheck" then "ask the recipient to re-verify and re-upload corrected data"
    else if tag = "escalate" then "escalate for manual review"
    else "notify the recipient"
  systemPreamble ++ "\n\n" ++
    "Write a concise plain-text email to the " ++ role.lower ++ " to " ++ intent ++ ".\n" ++
    "Include the key facts and a clear call to action. No HTML, no markdown.\n\n" ++
    "- reason: " ++ exception.reason.value ++ "\n" ++
    "- order_id: " ++ orNone exception.orderId ++ "\n" ++
    "- settlement_id: " ++ orNone exception.settlementId ++ "\n" ++
    "- payment_type: " ++ (exception.paymentType.map PaymentType.value).getD "n/a" ++ "\n" ++
    "- expected_amount: " ++ orNone (exception.expectedAmount.map Money.text) ++ "\n" ++
    "- actual_amount: " ++ orNone (exception.actualAmount.map Money.text) ++ "\n" ++
    "- detail: " ++ orNone exception.detail ++ "\n"

def obligationLine (obligation : Obligation) : String :=
  "- order_id=" ++ obligation.orderId ++ " type=" ++ obligation.paymentType.value ++
    " amount=" ++ obligation.expectedAmount.text ++
    " gateway=" ++ (obligation.paymentGateway.map PaymentGateway.value).getD "n/a" ++
    " date=" ++ isoformat obligation.orderDate

def settlementLine (settlement : Settlement) : String :=
  "- settlement_id=" ++ settlement.settlementId ++ " type=" ++ settlement.paymentType.value ++
    " amount=" ++ settlement.amount.text ++ " source=" ++ settlement.source.value ++
    " date=" ++ isoformat settlement.settlementDate

/-- Lines, or `(none)` for no line. -/
def listing (lines : List String) : String := (truthy (some ("\n".intercalate lines))).getD "(none)"

/-- `_obligations_text`. -/
def obligationsText (obligations : List Obligation) : String := listing (obligations.map obligationLine)

/-- `_settlements_text`. -/
def settlementsText (settlements : List Settlement) : String := listing (settlements.map settlementLine)

/-- `structured.invoke(prompt)`, by schema. -/
structure TextModel (ω : Type) where
  fuzzyProposal : String → ω → ModelReply FuzzyProposal × ω
  exceptionDecision : String → ω → ModelReply ExceptionDecision × ω
  emailDraft : String → ω → ModelReply EmailDraft × ω

/-- The model as the client asks it; `decimalText` is `str` of the configured threshold. -/
def TextModel.asked (model : TextModel ω) (decimalText : ℚ → String) : ChatModel ω where
  fuzzyProposal obligations settlements :=
    model.fuzzyProposal (fuzzyPrompt (obligationsText obligations) (settlementsText settlements))
  exceptionDecision exception withinSla highValueThreshold :=
    model.exceptionDecision (decidePrompt exception withinSla (decimalText highValueThreshold))
  emailDraft exception role tag := model.emailDraft (draftPrompt exception role tag)

end ReconcileFlow
