import ReconcileFlow.Model.Domain
import ReconcileFlow.ToMathlib.KeyedTable

/-! # The database

The four tables of `models/db_models.py`. A table with a primary key or a unique constraint is a
keyed table, so no database value violates a constraint. Rows stay in insertion order, which is the
order of the autoincrement ids. The functions of `audit/repository.py`, `audit/idempotency.py` and
`agent/verifier.py` are functions on the database; they receive the time they stamp.
-/

namespace ReconcileFlow

/-- A UTC instant in microseconds. -/
abbrev Timestamp := ℕ

/-- A value in the JSON `details` of an audit event. -/
inductive DetailValue where
  | count (value : ℕ) | flag (value : Bool) | text (value : String)
deriving DecidableEq, Repr

/-- The summary dictionary of a completed run. -/
structure RunSummary where
  matched : ℕ
  exceptionsTotal : ℕ
  exceptionsByReason : List (String × ℕ)
  actions : List (String × ℕ)
  notifications : List (String × ℕ)
  fuzzyAutoApplied : ℕ
  resolved : ℕ
deriving DecidableEq, Repr

/-- The JSON in `run_log.summary_json`. -/
inductive SummaryJson where
  | summary (value : RunSummary)
  /-- The empty dictionary, when the final state has no summary. -/
  | empty
  | failure (error incident : String)
deriving DecidableEq, Repr

inductive RunStatus where
  | running | completed | failed
deriving DecidableEq, Repr, Inhabited

def RunStatus.value : RunStatus → String
  | running => "running"
  | completed => "completed"
  | failed => "failed"

structure RunLogRow where
  id : String
  startedAt : Timestamp
  finishedAt : Option Timestamp := none
  status : RunStatus := .running
  inputHash : Option String := none
  ordersCount : ℕ := 0
  settlementsCount : ℕ := 0
  summaryJson : Option SummaryJson := none
deriving DecidableEq, Repr

/-- The arguments of `log_event`. -/
structure AuditEvent where
  runId : String
  eventType : String
  orderId : Option String := none
  action : Option String := none
  reason : Option String := none
  status : Option String := none
  details : List (String × DetailValue) := []
deriving DecidableEq, Repr

structure AuditRow extends AuditEvent where
  ts : Timestamp
deriving DecidableEq, Repr

structure NotificationRow where
  runId : String
  mismatchKey : String
  recipientRole : RecipientRole
  recipientEmail : String
  channel : NotificationChannel := .email
  status : NotificationStatus
  error : Option String := none
  sentAt : Timestamp
deriving DecidableEq, Repr

/-- The unique constraint `uq_notification_mismatch_recipient`. -/
def NotificationRow.pair (row : NotificationRow) : String × String := (row.mismatchKey, row.recipientEmail)

structure ExceptionRow where
  mismatchKey : String
  runId : String
  reason : String
  status : ExceptionLifecycleStatus := .opened
  firstSeen : Timestamp
  lastSeen : Timestamp
deriving DecidableEq, Repr

structure Database where
  runs : KeyedTable RunLogRow.id := ∅
  audit : List AuditRow := []
  notifications : KeyedTable NotificationRow.pair := ∅
  exceptions : KeyedTable ExceptionRow.mismatchKey := ∅

namespace Database

/-- A successful notification already exists for this key and recipient. -/
def alreadyNotified (db : Database) (mismatchKey recipientEmail : String) : Bool :=
  db.notifications.rows.any fun row =>
    row.mismatchKey = mismatchKey ∧ row.recipientEmail = recipientEmail ∧ row.status = .sent

/-- Upsert the outcome of a notification attempt. -/
def recordNotification (db : Database) (row : NotificationRow) : Database :=
  { db with notifications := db.notifications.put row }

/-- Insert the run row; an existing id violates the primary key. -/
def startRun (db : Database) (row : RunLogRow) : Option Database :=
  match db.runs.find? row.id with
  | some _ => none
  | none => some { db with runs := db.runs.put row }

/-- Stamp the final status and summary; an unknown id is ignored. -/
def finishRun (db : Database) (runId : String) (status : RunStatus) (summary : SummaryJson)
    (now : Timestamp) : Database :=
  match db.runs.find? runId with
  | some run =>
    let finished := { run with finishedAt := some now, status, summaryJson := some summary }
    { db with runs := db.runs.put finished }
  | none => db

/-- Append one audit event. -/
def logEvent (db : Database) (event : AuditEvent) (now : Timestamp) : Database :=
  { db with audit := db.audit ++ [{ event with ts := now }] }

/-- Insert or update the lifecycle row of an exception; an update keeps `first_seen`. -/
def upsertException (db : Database) (mismatchKey runId reason : String) (status : ExceptionLifecycleStatus)
    (now : Timestamp) : Database :=
  let row : ExceptionRow :=
    match db.exceptions.find? mismatchKey with
    | some existing => { existing with runId, reason, status, lastSeen := now }
    | none => { mismatchKey, runId, reason, status, firstSeen := now, lastSeen := now }
  { db with exceptions := db.exceptions.put row }

/-- The notifications recorded under a run, in the order of their ids. -/
def listNotifications (db : Database) (runId : String) : List NotificationRow :=
  db.notifications.rows.filter fun row => row.runId = runId

/-- `_UNRESOLVED`. -/
def isUnresolved : ExceptionLifecycleStatus → Bool
  | .opened | .awaitingRecheck | .escalated => true
  | .resolved => false

/-- The rows `mark_resolved` updates. -/
def isStale (currentKeys : List String) (row : ExceptionRow) : Bool :=
  isUnresolved row.status && decide (row.mismatchKey ∉ currentKeys)

/-- The update of one row in the sweep. -/
def resolveRow (runId : String) (currentKeys : List String) (now : Timestamp) (row : ExceptionRow) :
    ExceptionRow :=
  if isStale currentKeys row then { row with status := .resolved, lastSeen := now, runId } else row

theorem mismatchKey_resolveRow (runId : String) (currentKeys : List String) (now : Timestamp)
    (row : ExceptionRow) : (resolveRow runId currentKeys now row).mismatchKey = row.mismatchKey := by
  unfold resolveRow
  split <;> rfl

/-- Resolve the unresolved rows absent from this run; the count is what was newly resolved. -/
def markResolved (db : Database) (runId : String) (currentKeys : List String) (now : Timestamp) :
    Database × ℕ :=
  let swept := db.exceptions.mapRows (resolveRow runId currentKeys now)
    (mismatchKey_resolveRow runId currentKeys now)
  ({ db with exceptions := swept }, db.exceptions.rows.countP (isStale currentKeys))

end Database

end ReconcileFlow
