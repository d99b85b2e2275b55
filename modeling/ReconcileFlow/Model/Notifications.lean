import ReconcileFlow.Model.Runtime

/-! # Notification dispatch

`NotificationService.dispatch` in its three transactions: it reads whether the pair was already
notified, sends through the circuit breaker with retries on transient failures, and records the
outcome. An expected delivery failure becomes a result; anything else the notifier raises escapes
before the outcome is recorded.
-/

namespace ReconcileFlow

open EffectRun

variable {ω α : Type}

/-- Call once, and again at most `further` times while the failure is one to retry. -/
def retryLoop (func : RunM ω α) (retryOn : Raised → Bool) : ℕ → RunM ω α
  | 0 => func
  | further + 1 => do
    match ← attempt func with
    | .ok value => pure value
    | .error raised => if retryOn raised then retryLoop func retryOn further else throw raised

/-- `call_with_retry`: the attempt after which it stops is at least the first. -/
def callWithRetry (func : RunM ω α) (attempts : ℤ) (retryOn : Raised → Bool) : RunM ω α :=
  retryLoop func retryOn (attempts - 1).toNat

/-- `breaker.call`. -/
def Breaker.call (breaker : Breaker ω) (func : RunM ω α) : RunM ω α := do
  if ← stepWorld breaker.admits then
    match ← attempt func with
    | .ok value =>
      stepWorld fun world => ((), breaker.onSuccess world)
      pure value
    | .error raised =>
      if ← stepWorld breaker.onFailure then
        throw (.circuitBreaker "Failures threshold reached, circuit breaker opened")
      else throw raised
  else throw (.circuitBreaker "Timeout not elapsed yet, circuit breaker still open")

/-- `MockNotifier`: every request is captured and counts as sent. -/
def mockNotifier : Notifier ω where
  send request world :=
    let providerId := "mock-" ++ String.ofList (request.mismatchKey.toList.take 12)
    (.ok { status := .sent, providerId := some providerId }, world)

/-- A breaker that stays closed. -/
def closedBreaker : Breaker ω where
  admits world := (true, world)
  onSuccess := id
  onFailure world := (false, world)

structure NotificationService (ω : Type) where
  notifier : Notifier ω
  breaker : Breaker ω
  resilience : ResilienceConfig

/-- The keyword arguments of `dispatch`. -/
structure DispatchCall where
  runId : String
  mismatchKey : String
  recipientRole : RecipientRole
  recipientEmail : String
  subject : String
  body : String
deriving DecidableEq, Repr

namespace DispatchCall

/-- The pair the notification log is keyed by. -/
def pair (call : DispatchCall) : String × String := (call.mismatchKey, call.recipientEmail)

def request (call : DispatchCall) : SendRequest where
  toEmail := call.recipientEmail
  subject := call.subject
  body := call.body
  recipientRole := call.recipientRole
  mismatchKey := call.mismatchKey
  runId := call.runId

/-- The row that records an outcome. -/
def row (call : DispatchCall) (result : SendResult) (now : Timestamp) : NotificationRow where
  runId := call.runId
  mismatchKey := call.mismatchKey
  recipientRole := call.recipientRole
  recipientEmail := call.recipientEmail
  status := result.status
  error := result.error
  sentAt := now

end DispatchCall

/-- The result of an expected delivery failure; anything else escapes. -/
def expectedFailure : Raised → Option SendResult
  | .circuitBreaker _ => some { status := .skipped, reason := some "circuit_open" }
  | .notify _ text => some { status := .failed, error := some text }
  | _ => none

namespace NotificationService

variable (service : NotificationService ω)

/-- One attempt: the notifier behind the breaker. -/
def attemptSend (request : SendRequest) : RunM ω SendResult :=
  service.breaker.call (callOutside (.send request) (service.notifier.send request))

/-- Send with retries and turn the expected failures into results (`_send`). -/
def send (request : SendRequest) : RunM ω SendResult := do
  match ← attempt (callWithRetry (service.attemptSend request) service.resilience.emailRetryAttempts
      Raised.isTransient) with
  | .ok result => pure result
  | .error raised =>
    match expectedFailure raised with
    | some result => pure result
    | none => throw raised

/-- Record the outcome in its own transaction (`_record`). -/
def record (host : Host ω) (call : DispatchCall) (result : SendResult) : RunM ω Unit :=
  withSession do
    let now ← readClock host
    modifyDb fun db => db.recordNotification (call.row result now)

/-- Read in its own transaction whether the pair was already notified. -/
def checkNotified (call : DispatchCall) : RunM ω Bool :=
  withSession fun sys => .ok (sys.db.alreadyNotified call.mismatchKey call.recipientEmail) sys

/-- Send one notification, honouring idempotency and resilience policies. -/
def dispatch (host : Host ω) (call : DispatchCall) : RunM ω SendResult := do
  if ← checkNotified call then pure { status := .skipped, reason := some "duplicate" }
  else
    let result ← service.send call.request
    record host call result
    pure result

end NotificationService

end ReconcileFlow
