import ReconcileFlow.Model.Decimal
import ReconcileFlow.Model.Domain
import ReconcileFlow.ToMathlib.Checked

/-! # Row validation

`validate_rows` and what `model_validate` does for an `Order` and a `Settlement`: the fields are checked
in the order of the model, their errors collected, and the cross-field validator runs on valid fields.
A `ValueError` of a validator is an error of the row; a decimal signal is not one, and aborts. How a
text is read as a date is a parameter.
-/

namespace ReconcileFlow

/-- `_to_money` of a text. -/
def toMoney (text : String) : Except DecimalSignal Decimal := do
  let stripped := String.ofList (strip text.toList)
  let amount ← Decimal.ofText (if stripped = "" then "0" else stripped)
  amount.quantizePaise

/-- One entry of `ValidationError.errors()`. -/
structure FieldError where
  loc : List String
  msg : String
deriving DecidableEq, Repr

abbrev Validated := Checked DecimalSignal FieldError

/-- The text of each field that has one. -/
abbrev Payload := List (String × String)

variable {α : Type}

def fieldError (loc : List String) (msg : String) : Validated α := .invalid ⟨loc, msg⟩ []

def textField (_ : List String) (text : String) : Validated String := .valid text

def dateField (parseDate : String → Except String Date) (loc : List String) (text : String) : Validated Date :=
  match parseDate text with
  | .ok date => .valid date
  | .error msg => fieldError loc msg

/-- A `Money` field: non-negative and finite. -/
def moneyField (loc : List String) (text : String) : Validated Money :=
  match toMoney text with
  | .error signal => .aborted signal
  | .ok (.finite negative paise _) =>
    if negative ∧ paise ≠ 0 then fieldError loc "Input should be greater than or equal to Decimal('0')" else .valid ⟨paise⟩
  | .ok _ => fieldError loc "Input should be a finite number"

/-- The members of an enumeration, as its error lists them. -/
def alternatives : List String → String
  | [] => ""
  | [last] => "'" ++ last ++ "'"
  | [first, last] => "'" ++ first ++ "' or '" ++ last ++ "'"
  | first :: rest => "'" ++ first ++ "', " ++ alternatives rest

/-- A field of an enumeration, by the values of its members. -/
def enumField (members : List α) (value : α → String) (loc : List String) (text : String) : Validated α :=
  match members.find? fun member => value member == text with
  | some member => .valid member
  | none => fieldError loc ("Input should be " ++ alternatives (members.map value))

def paymentTypeField := enumField [.cash, .upi, .card, .netbanking, .wallet] PaymentType.value

def paymentGatewayField := enumField [.razorpay, .payu, .cashfree] PaymentGateway.value

def recipientRoleField := enumField [.storeManager, .paymentGateway, .bank, .admin] RecipientRole.value

def settlementSourceField := enumField [.bank, .razorpay, .payu, .cashfree] SettlementSource.value

def OrderStatus.value : OrderStatus → String
  | placed => "PLACED"
  | cancelled => "CANCELLED"

def orderStatusField := enumField [.placed, .cancelled] OrderStatus.value

def required (payload : Payload) (name : String) (check : List String → String → Validated α) : Validated α :=
  match payload.lookup name with
  | some text => check [name] text
  | none => fieldError [name] "Field required"

def optional (payload : Payload) (name : String) (check : List String → String → Validated α) :
    Validated (Option α) :=
  match payload.lookup name with
  | some text => (Checked.valid some).ap (check [name] text)
  | none => .valid none

/-- A field with a default. -/
def defaulted (payload : Payload) (name : String) (check : List String → String → Validated α) (default : α) :
    Validated α :=
  match payload.lookup name with
  | some text => check [name] text
  | none => .valid default

/-- `extra="forbid"`. -/
def noExtra (payload : Payload) (fields : List String) : Validated Unit :=
  match payload.filter fun entry => !fields.contains entry.1 with
  | [] => .valid ()
  | first :: more => .invalid ⟨[first.1], "Extra inputs are not permitted"⟩
      (more.map fun entry => ⟨[entry.1], "Extra inputs are not permitted"⟩)

/-- The fields of an order, in the order of the model. -/
def orderFields : List String :=
  ["order_id", "order_date", "store_id", "amount", "payment_type", "payment_amount", "payment_gateway",
    "gateway_txn_id", "responsible_party", "status", "customer_name", "customer_email"]

/-- `_check_payment_fields` on valid fields. -/
def checkPaymentFields (orderId : String) (orderDate : Date) (storeId : String) (amount : Money)
    (paymentType : PaymentType) (paymentAmount : Money) (paymentGateway : Option PaymentGateway)
    (gatewayTxnId : Option String) (responsibleParty : Option RecipientRole) (status : OrderStatus)
    (customerName customerEmail : Option String) (_ : Unit) : Validated Order :=
  if complete : paymentType.isOnline = true → (truthy gatewayTxnId).isSome ∧ paymentGateway.isSome then
    .valid
      { orderId, orderDate, storeId, amount, paymentType, paymentAmount, paymentGateway, gatewayTxnId,
        responsibleParty, status, customerName, customerEmail, checkPaymentFields := complete }
  else if (truthy gatewayTxnId).isNone then
    fieldError [] "Value error, gateway_txn_id is required for non-cash payments"
  else fieldError [] "Value error, payment_gateway is required for non-cash payments"

/-- `Order.model_validate`. -/
def Order.modelValidate (parseDate : String → Except String Date) (payload : Payload) : Validated Order :=
  ((Checked.valid ReconcileFlow.checkPaymentFields)
    |>.ap (required payload "order_id" textField)
    |>.ap (required payload "order_date" (dateField parseDate))
    |>.ap (required payload "store_id" textField)
    |>.ap (required payload "amount" moneyField)
    |>.ap (required payload "payment_type" paymentTypeField)
    |>.ap (required payload "payment_amount" moneyField)
    |>.ap (optional payload "payment_gateway" paymentGatewayField)
    |>.ap (optional payload "gateway_txn_id" textField)
    |>.ap (optional payload "responsible_party" recipientRoleField)
    |>.ap (defaulted payload "status" orderStatusField .placed)
    |>.ap (optional payload "customer_name" textField)
    |>.ap (optional payload "customer_email" textField)
    |>.ap (noExtra payload orderFields)).andThen id

/-- The fields of a settlement, in the order of the model. -/
def settlementFields : List String :=
  ["settlement_id", "settlement_date", "payment_type", "amount", "net_amount", "source", "fee", "order_id",
    "gateway_txn_id", "reference_id"]

/-- `str(Decimal(amount) - Decimal(fee))`. -/
def netAmountText (amount fee : String) : Except DecimalSignal String := do
  let net ← (← Decimal.ofText amount).sub (← Decimal.ofText fee)
  pure net.text

/-- `_default_net_amount`: runs before the fields are checked. -/
def defaultNetAmount (payload : Payload) : Except DecimalSignal Payload :=
  match truthy (payload.lookup "net_amount"), truthy (payload.lookup "amount") with
  | none, some amount => do
    let net ← netAmountText amount ((truthy (payload.lookup "fee")).getD "0")
    pure (("net_amount", net) :: payload)
  | _, _ => pure payload

/-- A settlement has no check across its fields. -/
def settlementOfFields (settlementId : String) (settlementDate : Date) (paymentType : PaymentType)
    (amount netAmount : Money) (source : SettlementSource) (fee : Money)
    (orderId gatewayTxnId referenceId : Option String) (_ : Unit) : Settlement :=
  { settlementId, settlementDate, paymentType, amount, netAmount, source, fee, orderId, gatewayTxnId,
    referenceId }

/-- The fields of a settlement, checked after the default. -/
def checkSettlement (parseDate : String → Except String Date) (payload : Payload) : Validated Settlement :=
  (Checked.valid settlementOfFields)
    |>.ap (required payload "settlement_id" textField)
    |>.ap (required payload "settlement_date" (dateField parseDate))
    |>.ap (required payload "payment_type" paymentTypeField)
    |>.ap (required payload "amount" moneyField)
    |>.ap (required payload "net_amount" moneyField)
    |>.ap (required payload "source" settlementSourceField)
    |>.ap (defaulted payload "fee" moneyField 0)
    |>.ap (optional payload "order_id" textField)
    |>.ap (optional payload "gateway_txn_id" textField)
    |>.ap (optional payload "reference_id" textField)
    |>.ap (noExtra payload settlementFields)

/-- `Settlement.model_validate`. -/
def Settlement.modelValidate (parseDate : String → Except String Date) (payload : Payload) :
    Validated Settlement :=
  match defaultNetAmount payload with
  | .error signal => .aborted signal
  | .ok completed => checkSettlement parseDate completed

/-- `row.get(column)`. -/
abbrev Row := String → Option String

/-- `clean_cell`. -/
def cleanCell (value : Option String) : Option String :=
  truthy (value.map fun text => String.ofList (strip text.toList))

/-- The non-blank cells of a row, under the names of their fields. -/
def rowPayload (fieldMap : List (String × String)) (row : Row) : Payload :=
  fieldMap.filterMap fun entry => (cleanCell (row entry.1)).map fun value => (entry.2, value)

/-- What `validate_rows` can raise. -/
inductive ParserRaised where
  | parseError (message : String) (errors : List String)
  | decimal (signal : DecimalSignal)
deriving DecidableEq, Repr

/-- One line of a `ParseError`. -/
def rowError (rowNumber : ℕ) (error : FieldError) : String :=
  let joined := ".".intercalate error.loc
  "row " ++ toString rowNumber ++ ": " ++ (if joined = "" then "row" else joined) ++ ": " ++ error.msg

/-- The check of a row at its position, counted from zero. -/
def checkRow (modelValidate : Payload → Validated α) (fieldMap : List (String × String)) (numbered : Row × ℕ) :
    Validated α :=
  modelValidate (rowPayload fieldMap numbered.1)

/-- The line of an error at a position: the header is row 1. -/
def reportRow (numbered : Row × ℕ) (error : FieldError) : String := rowError (numbered.2 + 2) error

def validateRows (modelValidate : Payload → Validated α) (fileLabel : String)
    (fieldMap : List (String × String)) (frame : List Row) : Except ParserRaised (List α) :=
  if frame.isEmpty then .error (.parseError (fileLabel ++ " contains no data rows.") [])
  else
    match Checked.collect (checkRow modelValidate fieldMap) reportRow frame.zipIdx with
    | .error signal => .error (.decimal signal)
    | .ok collected =>
      if collected.errors.isEmpty then .ok collected.values
      else .error (.parseError (fileLabel ++ " has " ++ toString collected.errors.length ++
        " validation error(s).") collected.errors)

/-- `_FIELD_MAP` of the orders reader: every column keeps its name. -/
def orderFieldMap : List (String × String) := orderFields.map fun name => (name, name)

/-- `_FIELD_MAP` of the settlements reader. -/
def settlementFieldMap : List (String × String) :=
  ["settlement_id", "settlement_date", "payment_type", "amount", "fee", "net_amount", "source", "order_id",
    "gateway_txn_id", "reference_id"].map fun name => (name, name)

/-- `validate_rows` as the orders reader calls it. -/
def validateOrders (parseDate : String → Except String Date) (frame : List Row) :
    Except ParserRaised (List Order) :=
  validateRows (Order.modelValidate parseDate) "Orders file" orderFieldMap frame

/-- `validate_rows` as the settlements reader calls it. -/
def validateSettlements (parseDate : String → Except String Date) (frame : List Row) :
    Except ParserRaised (List Settlement) :=
  validateRows (Settlement.modelValidate parseDate) "Settlements file" settlementFieldMap frame

end ReconcileFlow
