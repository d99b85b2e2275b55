import ReconcileFlow.Model.Database
import ReconcileFlow.Model.Schemas
import ReconcileFlow.ToMathlib.EffectRun

/-! # The runtime around a run

A run is a computation over a `Sys`: the database, the incident files and a `world` of an arbitrary
type, which holds whatever the outside collaborators remember (LLM client, mail provider, circuit
breaker, clock, random ids). The collaborators are functions on that world and may answer or raise
anything their types allow. `calls` is a ghost log of the outside calls with their replies and of the
incidents put on file; no modelled function reads it.

A session rolls the database back when its body raises; every session of the source commits as its
last statement.
-/

namespace ReconcileFlow

open EffectRun

/-- The classes of notifier failures. -/
inductive NotifyErrorKind where
  | base | transient | permanent
deriving DecidableEq, Repr

/-- What a modelled function can raise; the text is `str` of the exception. -/
inductive Raised where
  | notify (kind : NotifyErrorKind) (text : String)
  | circuitBreaker (text : String)
  | integrity (text : String)
  | value (text : String)
  | other (text : String)
deriving DecidableEq, Repr

namespace Raised

def text : Raised → String
  | notify _ text | circuitBreaker text | integrity text | value text | other text => text

def isTransient : Raised → Bool
  | notify .transient _ => true
  | _ => false

end Raised

/-- An immutable request to send one notification; `toEmail` is its field `to`. -/
structure SendRequest where
  toEmail : String
  subject : String
  body : String
  recipientRole : RecipientRole
  mismatchKey : String
  runId : String
  channel : NotificationChannel := .email
deriving DecidableEq, Repr

/-- The outcome of attempting to send a notification. -/
structure SendResult where
  status : NotificationStatus
  providerId : Option String := none
  error : Option String := none
  reason : Option String := none
deriving DecidableEq, Repr

inductive FailureType where
  | invalidInput | llmUnavailable | emailFailed | plannerError | configError | unsupportedPaymentType
  | unknown
deriving DecidableEq, Repr, Inhabited

def FailureType.value : FailureType → String
  | invalidInput => "INVALID_INPUT"
  | llmUnavailable => "LLM_UNAVAILABLE"
  | emailFailed => "EMAIL_FAILED"
  | plannerError => "PLANNER_ERROR"
  | configError => "CONFIG_ERROR"
  | unsupportedPaymentType => "UNSUPPORTED_PAYMENT_TYPE"
  | unknown => "UNKNOWN"

inductive IncidentSeverity where
  | low | medium | high | critical
deriving DecidableEq, Repr, Inhabited

def IncidentSeverity.value : IncidentSeverity → String
  | low => "LOW"
  | medium => "MEDIUM"
  | high => "HIGH"
  | critical => "CRITICAL"

/-- A recorded unrecoverable failure; its status is always `OPEN` here. -/
structure Incident where
  incidentId : String
  runId : String
  severity : IncidentSeverity
  failureType : FailureType
  rootCause : String
  timestamp : Timestamp
  remediationRecommendation : Option String := none
  orderId : Option String := none
deriving DecidableEq, Repr

/-- One call to an outside collaborator, with its reply, or one incident put on file. -/
inductive ExternalCall where
  | proposeFuzzy (obligations : List Obligation) (settlements : List Settlement)
      (reply : Except Raised FuzzyProposal)
  | decide (exception : ExceptionRecord) (withinSla : Bool) (reply : Except Raised ExceptionDecision)
  | draftEmail (exception : ExceptionRecord) (role : RecipientRole) (tag : String)
      (reply : Except Raised EmailDraft)
  | send (request : SendRequest) (reply : Except Raised SendResult)
  | storeIncident (incident : Incident)

structure Sys (ω : Type) where
  world : ω
  db : Database := {}
  /-- The `<incident_id>.json` files. -/
  incidentFiles : KeyedTable Incident.incidentId := ∅
  /-- The `incidents.jsonl` stream. -/
  incidentStream : List Incident := []
  /-- Ghost log of outside calls and stored incidents, oldest first. -/
  calls : List ExternalCall := []

/-- A computation that may raise; its effects stay when it does. -/
abbrev RunM (ω : Type) := EStateM Raised (Sys ω)

variable {ω α : Type}

/-- The judgement calls delegated to an LLM or its mock. -/
structure LlmClient (ω : Type) where
  proposeFuzzy : List Obligation → List Settlement → ω → Except Raised FuzzyProposal × ω
  decide : ExceptionRecord → Bool → ℚ → ω → Except Raised ExceptionDecision × ω
  draftEmail : ExceptionRecord → RecipientRole → String → ω → Except Raised EmailDraft × ω

/-- Anything that can send a request. -/
structure Notifier (ω : Type) where
  send : SendRequest → ω → Except Raised SendResult × ω

/-- A circuit breaker around a call: it admits the call or not, and is told how it ended. A failure
that trips it is raised as `CircuitBreakerError` in place of the original exception. -/
structure Breaker (ω : Type) where
  admits : ω → Bool × ω
  onSuccess : ω → ω
  onFailure : ω → Bool × ω

/-- Clock and random ids. Reading the clock does not change the world. -/
structure Host (ω : Type) where
  now : ω → Timestamp
  today : ω → Date
  newRunId : ω → String × ω
  newIncidentId : ω → String × ω

/-- A step of the outside world. -/
def stepWorld (act : ω → α × ω) : RunM ω α := fun sys =>
  .ok (act sys.world).1 { sys with world := (act sys.world).2 }

/-- A logged outside call, which raises when its reply does. -/
def callOutside (record : Except Raised α → ExternalCall) (act : ω → Except Raised α × ω) : RunM ω α :=
  fun sys =>
    let reply := act sys.world
    let after := { sys with world := reply.2, calls := sys.calls ++ [record reply.1] }
    match reply.1 with
    | .ok value => .ok value after
    | .error raised => .error raised after

/-- The current time. -/
def readClock (host : Host ω) : RunM ω Timestamp := fun sys => .ok (host.now sys.world) sys

def modifyDb (update : Database → Database) : RunM ω Unit := fun sys =>
  .ok () { sys with db := update sys.db }

/-- A session: the database is rolled back when the body raises. -/
def withSession (body : RunM ω α) : RunM ω α := fun sys =>
  match body.run sys with
  | .ok value after => .ok value after
  | .error raised after => .error raised { after with db := sys.db }

@[simp] theorem run_stepWorld (act : ω → α × ω) (sys : Sys ω) :
    (stepWorld act).run sys = .ok (act sys.world).1 { sys with world := (act sys.world).2 } := rfl

@[simp] theorem run_readClock (host : Host ω) (sys : Sys ω) :
    (readClock host).run sys = .ok (host.now sys.world) sys := rfl

@[simp] theorem run_modifyDb (update : Database → Database) (sys : Sys ω) :
    (modifyDb update).run sys = .ok () { sys with db := update sys.db } := rfl

theorem run_withSession (body : RunM ω α) (sys : Sys ω) :
    (withSession body).run sys = match body.run sys with
      | .ok value after => .ok value after
      | .error raised after => .error raised { after with db := sys.db } := rfl

end ReconcileFlow
