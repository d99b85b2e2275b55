import ReconcileFlow.Model.Domain
import ReconcileFlow.ToMathlib.KeyedTable

/-! # Obligations and order sums

`build_obligations` explodes each `PLACED` row into one obligation, order by order, and checks that
the placed rows of an order sum to the total quoted on its first placed row. The sum is one of `Decimal`,
so every addition rounds to 28 digits.
-/

namespace ReconcileFlow

structure ObligationBuildResult where
  obligations : List Obligation
  orderSumExceptions : List ExceptionRecord
deriving DecidableEq, Repr

def toObligation (order : Order) (seq : ℕ) : Obligation where
  obligationId := makeObligationId order.orderId order.paymentType order.gatewayTxnId seq
  orderId := order.orderId
  orderDate := order.orderDate
  storeId := order.storeId
  paymentType := order.paymentType
  expectedAmount := order.paymentAmount
  paymentGateway := order.paymentGateway
  gatewayTxnId := order.gatewayTxnId
  responsibleParty := order.responsibleParty
  customerName := order.customerName
  customerEmail := order.customerEmail

/-- Rows by `order_id`, in first-seen order. -/
def groupByOrder (orders : List Order) : KeyedTable (Prod.fst : String × List Order → String) :=
  KeyedTable.group (fun order => some order.orderId) orders

/-- The `ORDER_SUM_MISMATCH` of an order whose rows do not sum to its total; `first` is `rows[0]`. -/
def orderSumException (orderId : String) (first : Order) (rows : List Order) (tolerance : ℚ) :
    Option ExceptionRecord :=
  let total := first.amount
  let paid := Money.total (rows.map Order.paymentAmount)
  let difference := Money.minus paid total
  if |(difference / 100 : ℚ)| ≤ tolerance then none
  else some
    { reason := .orderSumMismatch
      status := if paid.paise > total.paise then .excess else .partiallyMatched
      orderId := some orderId
      storeId := some first.storeId
      expectedAmount := some total
      actualAmount := some paid
      responsibleParty := rows.findSome? Order.responsibleParty
      detail := some ("Order payment rows sum to " ++ paid.text ++ " but the order total is " ++
        total.text ++ " (difference " ++ Money.decimalText difference ++ ").") }

/-- The placed rows of one order group. -/
def placedRows (rows : List Order) : List Order := rows.filter (fun row => row.status == .placed)

/-- Obligations and sum exception of one group; a group without placed rows is skipped. -/
def buildGroup (tolerance : ℚ) (group : String × List Order) : ObligationBuildResult :=
  match placedRows group.2 with
  | [] => ⟨[], []⟩
  | first :: rest =>
    { obligations := (first :: rest).zipIdx.map (fun indexed => toObligation indexed.1 indexed.2)
      orderSumExceptions := (orderSumException group.1 first (first :: rest) tolerance).toList }

/-- Explode the placed rows into obligations and validate the sum of every order. -/
def buildObligations (orders : List Order) (amountTolerance : ℚ) : ObligationBuildResult :=
  let built := (groupByOrder orders).rows.map (buildGroup amountTolerance)
  { obligations := built.flatMap ObligationBuildResult.obligations
    orderSumExceptions := built.flatMap ObligationBuildResult.orderSumExceptions }

end ReconcileFlow
