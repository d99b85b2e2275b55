import ReconcileFlow.Model.Notifications

/-! # Dispatches on several threads

Background runs share one notification service and one database. Each dispatch proceeds in the
atomic steps of the source: the transaction that reads `already_notified`, each attempt to send
(the breaker holds its lock around the call), and the transaction that records the outcome. A
schedule names the thread that moves next; between two steps of one thread any other may move.
-/

namespace ReconcileFlow

open EffectRun

variable {ω ι : Type}

/-- Where a dispatch stands between two of its steps. -/
inductive DispatchPhase where
  | unread
  /-- The check passed; `further` retries are left after the next attempt. -/
  | sending (further : ℕ)
  | unrecorded (result : SendResult)
  | returned (result : SendResult)
  | escaped (raised : Raised)
deriving DecidableEq, Repr

namespace DispatchPhase

/-- The check has passed and the outcome is not recorded yet. -/
def inFlight : DispatchPhase → Bool
  | sending _ | unrecorded _ => true
  | _ => false

/-- After the last attempt failed. -/
def ofFailure (raised : Raised) : DispatchPhase :=
  match expectedFailure raised with
  | some result => unrecorded result
  | none => escaped raised

/-- After a failed attempt: the next attempt, or the end of the send. -/
def afterFailure (raised : Raised) : ℕ → DispatchPhase
  | 0 => ofFailure raised
  | further + 1 => if raised.isTransient then sending further else ofFailure raised

end DispatchPhase

/-- One atomic step of a dispatch; a finished dispatch does not move. -/
def dispatchStep (service : NotificationService ω) (host : Host ω) (call : DispatchCall) :
    DispatchPhase × Sys ω → DispatchPhase × Sys ω
  | (.unread, sys) =>
    if sys.db.alreadyNotified call.mismatchKey call.recipientEmail then
      (.returned { status := .skipped, reason := some "duplicate" }, sys)
    else (.sending (service.resilience.emailRetryAttempts - 1).toNat, sys)
  | (.sending further, sys) =>
    match (service.attemptSend call.request).run sys with
    | .ok result after => (.unrecorded result, after)
    | .error raised after => (.afterFailure raised further, after)
  | (.unrecorded result, sys) =>
    (.returned result, { sys with db := sys.db.recordNotification (call.row result (host.now sys.world)) })
  | (.returned result, sys) => (.returned result, sys)
  | (.escaped raised, sys) => (.escaped raised, sys)

/-- The dispatches of all threads over the state they share. -/
structure Dispatches (ω ι : Type) where
  phases : ι → DispatchPhase
  sys : Sys ω

namespace Dispatches

variable [DecidableEq ι] (service : NotificationService ω) (host : Host ω) (calls : ι → DispatchCall)

/-- Every dispatch is about to start. -/
def start (sys : Sys ω) : Dispatches ω ι := ⟨fun _ => .unread, sys⟩

/-- The given thread moves. -/
def step (state : Dispatches ω ι) (thread : ι) : Dispatches ω ι :=
  let moved := dispatchStep service host (calls thread) (state.phases thread, state.sys)
  ⟨Function.update state.phases thread moved.1, moved.2⟩

/-- The state after a schedule. -/
def run (state : Dispatches ω ι) (schedule : List ι) : Dispatches ω ι :=
  schedule.foldl (step service host calls) state

/-- The thread's next step passes the check. -/
def PassesCheck (state : Dispatches ω ι) (thread : ι) : Prop :=
  state.phases thread = .unread ∧
    state.sys.db.alreadyNotified (calls thread).mismatchKey (calls thread).recipientEmail = false

/-- If the thread's next step passes the check, no dispatch for the same pair is in flight. -/
def NoOverlap (state : Dispatches ω ι) (thread : ι) : Prop :=
  PassesCheck calls state thread →
    ∀ other, (calls other).pair = (calls thread).pair → (state.phases other).inFlight = false

/-- The condition holds at every step of the schedule. -/
def NeverOverlaps (state : Dispatches ω ι) : List ι → Prop
  | [] => True
  | thread :: later =>
    NoOverlap calls state thread ∧ NeverOverlaps (step service host calls state thread) later

instance (state : Dispatches ω ι) (thread : ι) : Decidable (PassesCheck calls state thread) :=
  inferInstanceAs (Decidable (_ ∧ _))

instance [Fintype ι] (state : Dispatches ω ι) (thread : ι) : Decidable (NoOverlap calls state thread) :=
  inferInstanceAs (Decidable (_ → ∀ _, _))

instance decidableNeverOverlaps [Fintype ι] : (state : Dispatches ω ι) → (schedule : List ι) →
    Decidable (NeverOverlaps service host calls state schedule)
  | _, [] => isTrue trivial
  | state, thread :: later =>
    have := decidableNeverOverlaps (step service host calls state thread) later
    inferInstanceAs (Decidable (NoOverlap calls state thread ∧ _))

end Dispatches

end ReconcileFlow
