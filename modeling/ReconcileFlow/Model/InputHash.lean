import ReconcileFlow.Model.Database

/-! # Idempotency of runs

The two uploaded files are fed to one digest with a separator byte between them. The digest is
recorded with the run, and a caller may look up the newest completed run that has it.
-/

namespace ReconcileFlow

/-- The contents of a file. -/
abbrev Bytes := List UInt8

/-- The byte `|`. -/
def separatorByte : UInt8 := 124

/-- What the updates feed to the digest, one after another. -/
def inputStream (ordersBytes settlementsBytes : Bytes) : Bytes :=
  [ordersBytes, [separatorByte], settlementsBytes].flatten

/-- SHA-256 over the two input files. -/
def computeInputHash (ordersBytes settlementsBytes : Bytes) : String :=
  sha256Hex (inputStream ordersBytes settlementsBytes)

/-- The completed run with this input hash that started last. -/
def Database.findCompletedRunByHash (db : Database) (inputHash : String) : Option RunLogRow :=
  (db.runs.rows.filter fun run => run.inputHash = some inputHash ∧ run.status = .completed).argmax
    RunLogRow.startedAt

end ReconcileFlow
