import ReconcileFlow.Model.Parsers

/-! # The two readers

`read_orders` and `read_settlements` on the frame that `load_dataframe` returns: the required columns
are checked on the header, then the rows are validated. How a file becomes a frame of texts is left to
pandas.
-/

namespace ReconcileFlow

/-- A string-typed frame: stripped column names, and one text for each column in every row. -/
structure DataFrame where
  columns : List String
  cells : List (List String)
  distinct : columns.Nodup := by decide
  rectangular : ∀ row ∈ cells, row.length = columns.length := by decide

/-- The rows by column name. -/
def DataFrame.rows (frame : DataFrame) : List Row :=
  frame.cells.map fun row column => (frame.columns.zip row).lookup column

/-- Raise if any required column is missing. -/
def requireColumns (frame : DataFrame) (required : List String) (fileLabel : String) :
    Except ParserRaised Unit :=
  let missing := (required.filter fun name => decide (name ∉ frame.columns)).insertionSort (· ≤ ·)
  if missing.isEmpty then .ok ()
  else .error (.parseError
    (fileLabel ++ " is missing required column(s): " ++ ", ".intercalate missing ++ ".")
    (missing.map fun name => "missing column: " ++ name))

/-- `_REQUIRED_COLUMNS` of the orders reader. -/
def orderRequiredColumns : List String :=
  ["order_id", "order_date", "store_id", "amount", "payment_type", "payment_amount", "status"]

/-- `_REQUIRED_COLUMNS` of the settlements reader. -/
def settlementRequiredColumns : List String :=
  ["settlement_id", "settlement_date", "payment_type", "amount", "source"]

def readOrders (parseDate : String → Except String Date) (frame : DataFrame) :
    Except ParserRaised (List Order) := do
  requireColumns frame orderRequiredColumns "Orders file"
  validateOrders parseDate frame.rows

def readSettlements (parseDate : String → Except String Date) (frame : DataFrame) :
    Except ParserRaised (List Settlement) := do
  requireColumns frame settlementRequiredColumns "Settlements file"
  validateSettlements parseDate frame.rows

end ReconcileFlow
