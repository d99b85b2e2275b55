import ReconcileFlow.Soundness.Delivery
import ReconcileFlow.ToMathlib.CircuitBreaker

/-! # The attempts of a dispatch

A dispatch is read off its attempts: each is refused by the breaker or answered by the notifier, and a
failed answer trips the breaker or not. Only untripped transient failures are retried, so the last
attempt alone decides the outcome (`dispatch_run`). At the end stands a breaker that counts.
-/

namespace ReconcileFlow

open EffectRun

variable {ω : Type}

/-- How one attempt to send goes. -/
inductive SendAttempt where
  /-- The breaker does not admit it. -/
  | refused
  /-- The notifier answers, and the failure opens the breaker or not. -/
  | answered (reply : Except Raised SendResult) (tripped : Bool)

namespace SendAttempt

/-- What the attempt passes on to the retry. -/
def outcome : SendAttempt → Except Raised SendResult
  | refused => .error (.circuitBreaker "Timeout not elapsed yet, circuit breaker still open")
  | answered _ true => .error (.circuitBreaker "Failures threshold reached, circuit breaker opened")
  | answered reply false => reply

/-- The answer of the notifier. -/
def reply? : SendAttempt → Option (Except Raised SendResult)
  | refused => none
  | answered reply _ => some reply

/-- The call to the notifier. -/
def call? (request : SendRequest) (attempt : SendAttempt) : Option ExternalCall :=
  attempt.reply?.map (.send request)

/-- The retry goes on behind the attempt. -/
def Retried (attempt : SendAttempt) : Prop :=
  ∃ text, attempt = answered (.error (.notify .transient text)) false

/-- Only an untripped transient failure is one to retry. -/
theorem retried_iff (attempt : SendAttempt) :
    attempt.Retried ↔ ∃ raised, attempt.outcome = .error raised ∧ raised.isTransient = true := by
  constructor
  · rintro ⟨text, rfl⟩
    exact ⟨_, rfl, rfl⟩
  · rintro ⟨raised, failed, transient⟩
    match attempt with
    | refused =>
      cases failed
      cases transient
    | answered reply true =>
      cases failed
      cases transient
    | answered reply false =>
      match raised with
      | .notify .transient text => exact ⟨text, congrArg (answered · false) failed⟩

end SendAttempt

/-- The attempts of a send: all but the last were retried. -/
structure SendTrace (ω : Type) where
  /-- Every earlier attempt with the world it was made in. -/
  earlier : List (ω × SendAttempt)
  last : ω × SendAttempt
  /-- The world behind the last attempt. -/
  world : ω

namespace SendTrace

def attempts (trace : SendTrace ω) : List (ω × SendAttempt) := trace.earlier ++ [trace.last]

/-- The answers of the notifier, in order. -/
def replies (trace : SendTrace ω) : List (Except Raised SendResult) :=
  trace.attempts.filterMap fun entry => entry.2.reply?

/-- The calls to the notifier, in order. -/
def calls (request : SendRequest) (trace : SendTrace ω) : List ExternalCall :=
  trace.attempts.filterMap fun entry => entry.2.call? request

theorem replies_cons (entry : ω × SendAttempt) (rest : SendTrace ω) :
    ({ rest with earlier := entry :: rest.earlier } : SendTrace ω).replies =
      entry.2.reply?.toList ++ rest.replies := by
  unfold replies attempts
  rw [List.cons_append, List.filterMap_cons]
  cases entry.2.reply? <;> rfl

theorem calls_eq (request : SendRequest) (trace : SendTrace ω) :
    trace.calls request = trace.replies.map (.send request) := by
  unfold calls replies
  rw [List.map_filterMap]
  rfl

end SendTrace

namespace NotificationService

variable (service : NotificationService ω) (request : SendRequest)

/-- One attempt in a world, and the world behind it. -/
def tryOnce (world : ω) : SendAttempt × ω :=
  let admitted := service.breaker.admits world
  if admitted.1 then
    let answer := service.notifier.send request admitted.2
    match answer.1 with
    | .ok result => (.answered (.ok result) false, service.breaker.onSuccess answer.2)
    | .error raised =>
      let failure := service.breaker.onFailure answer.2
      (.answered (.error raised) failure.1, failure.2)
  else (.refused, admitted.2)

/-- The attempts of `retryLoop`. -/
def sendTrace : ℕ → ω → SendTrace ω
  | 0, world => ⟨[], (world, (service.tryOnce request world).1), (service.tryOnce request world).2⟩
  | further + 1, world =>
    match (service.tryOnce request world).1.outcome with
    | .error raised =>
      if raised.isTransient then
        let rest := sendTrace further (service.tryOnce request world).2
        { rest with earlier := (world, (service.tryOnce request world).1) :: rest.earlier }
      else ⟨[], (world, (service.tryOnce request world).1), (service.tryOnce request world).2⟩
    | .ok _ => ⟨[], (world, (service.tryOnce request world).1), (service.tryOnce request world).2⟩

/-- The end of a computation with a given outcome. -/
def endsWith (outcome : Except Raised SendResult) (after : Sys ω) : EStateM.Result Raised (Sys ω) SendResult :=
  match outcome with
  | .ok result => .ok result after
  | .error raised => .error raised after

theorem attemptSend_run (sys : Sys ω) : (service.attemptSend request).run sys =
    endsWith (service.tryOnce request sys.world).1.outcome
      { sys with world := (service.tryOnce request sys.world).2
                 calls := sys.calls ++ ((service.tryOnce request sys.world).1.call? request).toList } := by
  unfold attemptSend Breaker.call tryOnce
  rw [bind_of_ok (run_stepWorld service.breaker.admits sys)]
  dsimp only
  cases (service.breaker.admits sys.world).1 with
  | false =>
    rw [if_neg Bool.false_ne_true, if_neg Bool.false_ne_true]
    simp only [SendAttempt.call?, SendAttempt.reply?, Option.map_none, Option.toList_none, List.append_nil]
    rfl
  | true =>
    rw [if_pos rfl, if_pos rfl, EStateM.run_bind, run_attempt]
    unfold callOutside
    dsimp only [EStateM.run]
    cases (service.notifier.send request (service.breaker.admits sys.world).2).1 with
    | ok result => rfl
    | error raised =>
      dsimp only [bind, EStateM.bind, stepWorld]
      cases (service.breaker.onFailure (service.notifier.send request
        (service.breaker.admits sys.world).2).2).1 <;> rfl

/-- The system behind the attempts. -/
def afterTrace (trace : SendTrace ω) (sys : Sys ω) : Sys ω :=
  { sys with world := trace.world, calls := sys.calls ++ trace.calls request }

theorem afterTrace_once (sys : Sys ω) (entry : ω × SendAttempt) (world : ω) :
    afterTrace request ⟨[], entry, world⟩ sys =
      { sys with world, calls := sys.calls ++ (entry.2.call? request).toList } := by
  unfold afterTrace SendTrace.calls SendTrace.attempts
  rw [List.nil_append, List.filterMap_cons, List.filterMap_nil]
  cases entry.2.call? request <;> rfl

theorem afterTrace_cons (sys : Sys ω) (entry : ω × SendAttempt) (between : ω) (rest : SendTrace ω) :
    afterTrace request { rest with earlier := entry :: rest.earlier } sys =
      afterTrace request rest
        { sys with world := between, calls := sys.calls ++ (entry.2.call? request).toList } := by
  unfold afterTrace SendTrace.calls SendTrace.attempts
  simp only [List.cons_append, List.filterMap_cons, List.append_assoc]
  cases entry.2.call? request <;> rfl

/-- The retry ends as its last attempt does. -/
theorem retryLoop_run (further : ℕ) (sys : Sys ω) :
    (retryLoop (service.attemptSend request) Raised.isTransient further).run sys =
      endsWith (service.sendTrace request further sys.world).last.2.outcome
        (afterTrace request (service.sendTrace request further sys.world) sys) := by
  induction further generalizing sys with
  | zero =>
    rw [retryLoop, attemptSend_run, sendTrace, afterTrace_once]
  | succ further ih =>
    rw [retryLoop, EStateM.run_bind, run_attempt, attemptSend_run, sendTrace]
    cases ended : (service.tryOnce request sys.world).1.outcome with
    | ok result =>
      rw [afterTrace_once, ended]
      rfl
    | error raised =>
      dsimp only [endsWith]
      split
      · next transient =>
        rw [ih, ← afterTrace_cons request sys (sys.world, _)]
        rfl
      · next final =>
        rw [afterTrace_once, ended]
        rfl

/-- Every attempt but the last failed transiently and did not trip the breaker. -/
theorem sendTrace_earlier (further : ℕ) (world : ω) :
    ∀ entry ∈ (service.sendTrace request further world).earlier, entry.2.Retried := by
  induction further generalizing world with
  | zero => exact fun _ none => (List.not_mem_nil none).elim
  | succ further ih =>
    rw [sendTrace]
    cases ended : (service.tryOnce request world).1.outcome with
    | ok result => exact fun _ none => (List.not_mem_nil none).elim
    | error raised =>
      dsimp only
      split
      · next transient =>
        exact List.forall_mem_cons.mpr
          ⟨(SendAttempt.retried_iff _).mpr ⟨raised, ended, transient⟩, ih _⟩
      · exact fun _ none => (List.not_mem_nil none).elim

theorem length_attempts_le (further : ℕ) (world : ω) :
    (service.sendTrace request further world).attempts.length ≤ further + 1 := by
  induction further generalizing world with
  | zero => exact le_rfl
  | succ further ih =>
    rw [sendTrace]
    cases (service.tryOnce request world).1.outcome with
    | ok result => exact Nat.succ_le_succ (Nat.zero_le _)
    | error raised =>
      dsimp only
      split
      · exact Nat.succ_le_succ (ih _)
      · exact Nat.succ_le_succ (Nat.zero_le _)

/-- The attempts of a dispatch that is not a duplicate. -/
def dispatchTrace (call : DispatchCall) (world : ω) : SendTrace ω :=
  service.sendTrace call.request (service.resilience.emailRetryAttempts - 1).toNat world

/-- How a dispatch ends: the outcome of the last attempt is recorded, unless it is unexpected. -/
def dispatchEnd (host : Host ω) (call : DispatchCall) (before : Sys ω) (trace : SendTrace ω) :
    EStateM.Result Raised (Sys ω) SendResult :=
  let sent := afterTrace call.request trace before
  let recorded := fun result => EStateM.Result.ok result
    { sent with db := before.db.recordNotification (call.row result (host.now trace.world)) }
  match trace.last.2.outcome with
  | .ok result => recorded result
  | .error raised =>
    match expectedFailure raised with
    | some result => recorded result
    | none => .error raised sent

theorem dispatch_run (host : Host ω) (call : DispatchCall) (before : Sys ω) :
    (service.dispatch host call).run before =
      if before.db.alreadyNotified call.mismatchKey call.recipientEmail then
        .ok { status := .skipped, reason := some "duplicate" } before
      else dispatchEnd host call before (service.dispatchTrace call before.world) := by
  have checked : (checkNotified call).run before =
    .ok (before.db.alreadyNotified call.mismatchKey call.recipientEmail) before := rfl
  unfold dispatch
  rw [bind_of_ok checked]
  split
  · rfl
  · unfold send callWithRetry dispatchEnd dispatchTrace
    rw [EStateM.run_bind, EStateM.run_bind, run_attempt, retryLoop_run]
    cases (service.sendTrace call.request (service.resilience.emailRetryAttempts - 1).toNat
        before.world).last.2.outcome with
    | ok result => rfl
    | error raised =>
      dsimp only [endsWith]
      cases expectedFailure raised with
      | some result => rfl
      | none => rfl

end NotificationService

open CircuitBreaker in
/-- The world of a breaker: its phase, and whether the timeout of an open one has elapsed. -/
structure BreakerWorld where
  phase : Phase
  elapsed : Bool := false
deriving DecidableEq, Repr

/-- `pybreaker.CircuitBreaker` with a maximum of consecutive failures. -/
def countingBreaker (failMax : ℕ) : Breaker BreakerWorld where
  admits world :=
    ((world.phase.admits world.elapsed).1, { world with phase := (world.phase.admits world.elapsed).2 })
  onSuccess world := { world with phase := .closed 0 }
  onFailure world :=
    (world.phase.trips failMax, { phase := world.phase.failed failMax, elapsed := false })

/-- A breaker that has counted no failure yet. -/
def closedStart : Sys BreakerWorld := { world := { phase := .closed 0 } }

/-- A provider that times out on every request. -/
def unreachableNotifier : Notifier ω where
  send _ world := (.error (.notify .transient "timed out"), world)

/-- The unreachable provider behind a counting breaker, with three attempts for each dispatch. -/
def unreachableService (failMax : ℕ) : NotificationService BreakerWorld where
  notifier := unreachableNotifier
  breaker := countingBreaker failMax
  resilience := {}

end ReconcileFlow
