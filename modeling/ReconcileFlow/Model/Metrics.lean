import ReconcileFlow.Model.Decimal
import ReconcileFlow.Model.Incidents
import ReconcileFlow.Model.Nodes
import ReconcileFlow.ToMathlib.JsonLines

/-! # Incident files and metrics

An incident is stored as JSON, in a file of its own and as a line of `incidents.jsonl`. `GET /metrics` counts
the rows of the tables, and reads the incidents back from the text of that file.
-/

namespace ReconcileFlow

open JsonLines

variable {ω : Type}

def jsonText (text : String) : Json := .str text.toList

def jsonOptional : Option String → Json
  | none => .null
  | some text => jsonText text

/-- `Incident.to_json_dict`; `isoformat` writes the timestamp. -/
def Incident.toJsonDict (isoformat : Timestamp → String) (incident : Incident) : Json :=
  .obj
    [("incident_id".toList, jsonText incident.incidentId),
      ("run_id".toList, jsonText incident.runId),
      ("severity".toList, jsonText incident.severity.value),
      ("status".toList, jsonText "OPEN"),
      ("failure_type".toList, jsonText incident.failureType.value),
      ("root_cause".toList, jsonText incident.rootCause),
      ("timestamp".toList, jsonText (isoformat incident.timestamp)),
      ("remediation_recommendation".toList, jsonOptional incident.remediationRecommendation),
      ("order_id".toList, jsonOptional incident.orderId)]

/-- The text of `<incident_id>.json`. -/
def incidentFileText (isoformat : Timestamp → String) (incident : Incident) : List Char :=
  dumps (.indented 2) (incident.toJsonDict isoformat)

/-- The text of `incidents.jsonl` after some incidents. -/
def incidentStreamText (isoformat : Timestamp → String) (incidents : List Incident) : List Char :=
  fileOf (incidents.map (Incident.toJsonDict isoformat))

/-- `json.loads(line).get("status", "OPEN")`; nothing when it raises or is no text. -/
def lineStatus (line : List Char) : Option String :=
  match loads line with
  | some (.obj fields) =>
    -- The last of several fields of one name counts.
    match fields.reverse.lookup "status".toList with
    | none => some "OPEN"
    | some (.str status) => some (String.ofList status)
    | some _ => none
  | _ => none

/-- `IncidentStore.count_by_status` on the text of the file. -/
def countByStatus (text : List Char) : Option (List (String × ℕ)) :=
  ((((splitLines text).map strip).filter fun line => line ≠ []).mapM lineStatus).map counter

/-- The dictionary of `GET /metrics`, without the state of the breaker. -/
structure MetricsSnapshot where
  runsTotal : ℕ
  exceptionsByReason : List (String × ℕ)
  notifications : List (String × ℕ)
  incidents : List (String × ℕ)
deriving DecidableEq, Repr

/-- `build_metrics_snapshot`; nothing when the incident file cannot be read. -/
def buildMetricsSnapshot (isoformat : Timestamp → String) (sys : Sys ω) : Option MetricsSnapshot :=
  (countByStatus (incidentStreamText isoformat sys.incidentStream)).map fun incidents =>
    { runsTotal := sys.db.runs.rows.length
      exceptionsByReason := counter (sys.db.exceptions.rows.map ExceptionRow.reason)
      notifications := counter (sys.db.notifications.rows.map fun row => row.status.value)
      incidents }

end ReconcileFlow
