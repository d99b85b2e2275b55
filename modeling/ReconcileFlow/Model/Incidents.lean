import ReconcileFlow.Model.Notifications

/-! # Incidents

An unrecoverable failure is written to its JSON file and to the stream before an administrator mail
is attempted; nothing the mail raises escapes. The incident directory is taken to be writable.
-/

namespace ReconcileFlow

open EffectRun

variable {ω : Type}

/-- `_SEVERITY_BY_TYPE`. -/
def determineSeverity : FailureType → IncidentSeverity
  | .configError => .critical
  | .llmUnavailable => .high
  | .emailFailed => .high
  | .plannerError => .high
  | .invalidInput => .medium
  | .unsupportedPaymentType => .low
  | .unknown => .high

/-- Write the incident to its own file and append it to the stream. -/
def writeIncident (incident : Incident) : RunM ω Unit := fun sys =>
  .ok () { sys with incidentFiles := sys.incidentFiles.put incident,
                    incidentStream := sys.incidentStream ++ [incident],
                    calls := sys.calls ++ [.storeIncident incident] }

/-- `IncidentStore.create`. -/
def createIncident (host : Host ω) (runId : String) (failureType : FailureType) (rootCause : String)
    (orderId remediation : Option String) : RunM ω Incident := do
  let hex ← stepWorld host.newIncidentId
  let now ← readClock host
  let incident : Incident :=
    { incidentId := "inc-" ++ hex
      runId
      severity := determineSeverity failureType
      failureType
      rootCause
      timestamp := now
      remediationRecommendation := remediation
      orderId }
  writeIncident incident
  pure incident

def incidentEmailBody (incident : Incident) : String :=
  let order := match truthy incident.orderId with
    | some orderId => ["Order:       " ++ orderId]
    | none => []
  let remediation := match truthy incident.remediationRecommendation with
    | some recommendation => ["Remediation: " ++ recommendation]
    | none => []
  "\n".intercalate
    (["An unrecoverable failure occurred during reconciliation run " ++ incident.runId ++ ".",
      "",
      "Incident:    " ++ incident.incidentId,
      "Severity:    " ++ incident.severity.value,
      "Failure:     " ++ incident.failureType.value,
      "Root cause:  " ++ incident.rootCause] ++ order ++ remediation)

structure IncidentService (ω : Type) where
  adminEmail : String
  notificationService : Option (NotificationService ω) := none
  bestEffortEmail : Bool := true

/-- The administrator mail of an incident. -/
def incidentCall (adminEmail : String) (incident : Incident) : DispatchCall where
  runId := incident.runId
  mismatchKey := "incident:" ++ incident.incidentId
  recipientRole := .admin
  recipientEmail := adminEmail
  subject := "[" ++ incident.severity.value ++ "] Reconciliation incident " ++ incident.incidentId
  body := incidentEmailBody incident

namespace IncidentService

/-- Best-effort mail, never allowed to break incident handling. -/
def notifyAdmin (service : IncidentService ω) (host : Host ω) (incident : Incident) : RunM ω Unit := do
  match service.notificationService with
  | some notifications =>
    if service.bestEffortEmail && service.adminEmail != "" then
      let _ ← attempt (notifications.dispatch host (incidentCall service.adminEmail incident))
      pure ()
    else pure ()
  | none => pure ()

/-- Persist an incident and notify the admin. -/
def raiseIncident (service : IncidentService ω) (host : Host ω) (runId : String)
    (failureType : FailureType) (rootCause : String) (orderId remediation : Option String) :
    RunM ω Incident := do
  let incident ← createIncident host runId failureType rootCause orderId remediation
  service.notifyAdmin host incident
  pure incident

end IncidentService

end ReconcileFlow
