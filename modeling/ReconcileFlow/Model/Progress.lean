import ReconcileFlow.Model.Database
import ReconcileFlow.Model.RunRegistry

/-! # Progress of a background run

The agent writes typed audit events in pipeline order, so the trail of a run doubles as its progress
feed: `compute_progress` ranks the events written so far. A run that its worker has ended is read off
the registry, as is the page of its result.
-/

namespace ReconcileFlow

namespace Database

def getRun (db : Database) (runId : String) : Option RunLogRow := db.runs.find? runId

/-- The events of a run, in the order of their ids. -/
def listEvents (db : Database) (runId : String) : List AuditRow :=
  db.audit.filter fun row => row.runId = runId

end Database

/-- `_EVENT_RANK`: the place of an event type in the pipeline. -/
def eventRank (eventType : String) : Option ℕ :=
  [("reconcile_completed", 1), ("fuzzy_auto_applied", 2), ("fuzzy_review_flagged", 2),
    ("fuzzy_match_skipped", 2), ("exceptions_finalized", 3), ("exception_decided", 4),
    ("notification_dispatched", 5), ("verify_completed", 6)].lookup eventType

/-- `_TOTAL_RANK`. -/
def totalRank : ℕ := 6

/-- `_PHASE_LABEL`; a rank is never above the last one. -/
def phaseLabel : ℕ → String
  | 0 => "Parsing and matching orders to settlements…"
  | 1 => "Matching complete — checking for leftovers…"
  | 2 => "Fuzzy-matching residual rows…"
  | 3 => "Reviewing exceptions…"
  | 4 => "Deciding the next action per exception…"
  | 5 => "Sending notifications…"
  | _ => "Finalizing and writing the audit trail…"

/-- The dictionary a poll answers. -/
structure ProgressInfo where
  status : String
  percent : ℤ
  label : String
  done : Bool
  redirect : Option String := none
deriving DecidableEq, Repr

/-- `max(3, round(rank / _TOTAL_RANK * 90))`. -/
def percentOf (rank : ℕ) : ℤ := max 3 (round ((rank : ℚ) / totalRank * 90))

/-- The highest rank among some events; 0 before the first. -/
def reachedRank (events : List AuditRow) : ℕ :=
  (events.filterMap fun event => eventRank event.eventType).foldr max 0

/-- The label of a pending run; while mails go out it counts them. -/
def pendingLabel (events : List AuditRow) : String :=
  let dispatched := events.countP fun event => event.eventType == "notification_dispatched"
  if reachedRank events = 5 ∧ dispatched ≠ 0 then
    "Sending notifications (" ++ toString dispatched ++ " processed)…"
  else phaseLabel (reachedRank events)

/-- The answer about a run whose worker has not ended. -/
def pendingProgress (events : List AuditRow) : ProgressInfo where
  status := "running"
  percent := percentOf (reachedRank events)
  label := pendingLabel events
  done := false

/-- The answer about a run whose worker has ended. -/
def endedProgress (runId : String) (failed : Bool) : ProgressInfo where
  status := if failed then "failed" else "completed"
  percent := 100
  label := if failed then "Run failed." else "Done."
  done := true
  redirect := some ("/results/" ++ runId)

/-- A progress snapshot of a run, or nothing if the registry does not know it. -/
def computeProgress (registry : RunRegistry) (db : Database) (runId : String) : Option ProgressInfo :=
  match registry.state runId with
  | .unknown => none
  | .done => some (endedProgress runId false)
  | .error => some (endedProgress runId true)
  | .pending =>
    let events := match db.getRun runId with
      | some _ => db.listEvents runId
      | none => []
    some (pendingProgress events)

/-- What `GET /results/{run_id}` renders. -/
inductive ResultsPage where
  | notFound
  | progress (demo : Bool)
  | failed (message : String)
  | results (outcome : RunOutcome) (demo : Bool)
deriving DecidableEq, Repr

def resultsPage (registry : RunRegistry) (runId : String) : ResultsPage :=
  match registry.get runId with
  | none => .notFound
  | some record =>
    if record.state = .pending then .progress record.demo
    else
      match record.error, record.outcome with
      | none, some outcome => .results outcome record.demo
      | error, _ => .failed ((truthy error).getD "The run failed unexpectedly.")

structure RunView where
  id : String
  status : String
  startedAt : Timestamp
  finishedAt : Option Timestamp
  ordersCount : ℕ
  settlementsCount : ℕ
  summary : Option SummaryJson
deriving DecidableEq, Repr

structure EventView where
  ts : Timestamp
  eventType : String
  orderId : Option String
  action : Option String
  reason : Option String
  status : Option String
  details : List (String × DetailValue)
deriving DecidableEq, Repr

structure NotificationView where
  mismatchKey : String
  recipientRole : String
  recipientEmail : String
  status : String
  error : Option String
  sentAt : Timestamp
deriving DecidableEq, Repr

def RunLogRow.view (row : RunLogRow) : RunView where
  id := row.id
  status := row.status.value
  startedAt := row.startedAt
  finishedAt := row.finishedAt
  ordersCount := row.ordersCount
  settlementsCount := row.settlementsCount
  summary := row.summaryJson

def AuditRow.view (row : AuditRow) : EventView where
  ts := row.ts
  eventType := row.eventType
  orderId := row.orderId
  action := row.action
  reason := row.reason
  status := row.status
  details := row.details

def NotificationRow.view (row : NotificationRow) : NotificationView where
  mismatchKey := row.mismatchKey
  recipientRole := row.recipientRole.value
  recipientEmail := row.recipientEmail
  status := row.status.value
  error := row.error
  sentAt := row.sentAt

structure RunDetail where
  run : RunView
  events : List EventView
  notifications : List NotificationView
deriving DecidableEq, Repr

/-- What `GET /runs/{run_id}` answers, or nothing for an unknown run. -/
def runDetail (db : Database) (runId : String) : Option RunDetail :=
  (db.getRun runId).map fun row =>
    { run := row.view
      events := (db.listEvents runId).map AuditRow.view
      notifications := (db.listNotifications runId).map NotificationRow.view }

end ReconcileFlow
