import ReconcileFlow.Soundness.OutcomeTold

/-! # The load on a failing provider

The retry bounds the calls of one dispatch, and the breaker those of a stretch of dispatches. Every
failed call uses up the budget of the breaker's phase, and nothing but a success or an elapsed timeout
gives any of it back; so the calls of a stretch without either are at most the budget it starts with.
-/

namespace ReconcileFlow

open CircuitBreaker EffectRun

variable {ω : Type}

/-- Seen through its phase, the breaker counts consecutive failures; the notifier leaves it alone. -/
structure Follows (service : NotificationService ω) (failMax : ℕ) (phase : ω → Phase) (elapsed : ω → Bool) :
    Prop where
  admits : ∀ world, ((service.breaker.admits world).1, phase (service.breaker.admits world).2) =
    (phase world).admits (elapsed world)
  failure : ∀ world, phase world ≠ .opened →
    ((service.breaker.onFailure world).1, phase (service.breaker.onFailure world).2) =
      ((phase world).trips failMax, (phase world).failed failMax)
  notifier : ∀ request world, phase (service.notifier.send request world).2 = phase world

/-- The counting breaker follows its phase, with a notifier that does not touch the world. -/
theorem unreachableService_follows (failMax : ℕ) :
    Follows (unreachableService failMax) failMax BreakerWorld.phase BreakerWorld.elapsed where
  admits _ := rfl
  failure _ _ := rfl
  notifier _ _ := rfl

/-- The notifier returned a result. -/
def SendAttempt.succeeded : SendAttempt → Bool
  | .answered (.ok _) _ => true
  | _ => false

/-- How often the provider was called. -/
def providerCalls (sys : Sys ω) : ℕ := (sys.calls.filterMap ExternalCall.sendReply?).length

theorem providerCalls_of_calls {before after : Sys ω} {request : SendRequest} {trace : SendTrace ω}
    (calls : after.calls = before.calls ++ trace.calls request) :
    providerCalls after = providerCalls before + trace.replies.length := by
  unfold providerCalls
  rw [calls, SendTrace.calls_eq, List.filterMap_append, List.length_append, List.filterMap_map]
  exact congrArg (fun replies => _ + List.length replies) List.filterMap_some

section

variable {service : NotificationService ω} {failMax : ℕ} {phase : ω → Phase} {elapsed : ω → Bool}
  (follows : Follows service failMax phase elapsed) {request : SendRequest}

include follows

/-- An attempt before the timeout that does not succeed pays for its call. -/
theorem tryOnce_budget {world : ω} (unelapsed : elapsed world = false)
    (failed : (service.tryOnce request world).1.succeeded = false) :
    (service.tryOnce request world).1.reply?.toList.length +
        (phase (service.tryOnce request world).2).budget failMax ≤ (phase world).budget failMax := by
  have asked := follows.admits world
  rw [unelapsed] at asked
  have admitted : (service.breaker.admits world).1 = ((phase world).admits false).1 := congrArg Prod.fst asked
  have moved : phase (service.breaker.admits world).2 = phase world :=
    (congrArg Prod.snd asked).trans (Phase.admits_unelapsed _)
  revert failed
  unfold NotificationService.tryOnce
  dsimp only
  cases admits : (service.breaker.admits world).1 with
  | false =>
    intro _
    rw [if_neg Bool.false_ne_true]
    simp only [SendAttempt.reply?, Option.toList_none, List.length_nil, Nat.zero_add]
    exact le_of_eq (congrArg _ moved)
  | true =>
    rw [if_pos rfl]
    have asks := follows.notifier request (service.breaker.admits world).2
    rw [moved] at asks
    rw [admits] at admitted
    cases (service.notifier.send request (service.breaker.admits world).2).1 with
    | ok result =>
      intro failed
      cases failed
    | error raised =>
      intro _
      have closes : phase (service.notifier.send request (service.breaker.admits world).2).2 ≠ .opened := by
        rw [asks]
        intro opened
        rw [opened] at admitted
        cases admitted
      have failed := congrArg Prod.snd (follows.failure _ closes)
      dsimp only at failed
      simp only [SendAttempt.reply?, Option.toList_some, List.length_singleton]
      rw [failed, asks, Nat.add_comm]
      exact Phase.budget_failed failMax admitted.symm

/-- The attempts of a send before the timeout that all fail pay for their calls. -/
theorem sendTrace_budget (further : ℕ) {world : ω}
    (quiet : ∀ entry ∈ (service.sendTrace request further world).attempts,
      elapsed entry.1 = false ∧ entry.2.succeeded = false) :
    (service.sendTrace request further world).replies.length +
        (phase (service.sendTrace request further world).world).budget failMax ≤
      (phase world).budget failMax := by
  have once : ∀ {world : ω}, elapsed world = false → (service.tryOnce request world).1.succeeded = false →
      (SendTrace.mk [] (world, (service.tryOnce request world).1)
          (service.tryOnce request world).2).replies.length +
        (phase (service.tryOnce request world).2).budget failMax ≤ (phase world).budget failMax := by
    intro world unelapsed failed
    rw [SendTrace.replies_eq]
    exact tryOnce_budget follows unelapsed failed
  induction further generalizing world with
  | zero =>
    obtain ⟨unelapsed, failed⟩ := quiet _ List.mem_cons_self
    exact once unelapsed failed
  | succ further ih =>
    rw [NotificationService.sendTrace] at quiet ⊢
    cases ended : (service.tryOnce request world).1.outcome with
    | ok result =>
      rw [ended] at quiet
      obtain ⟨unelapsed, failed⟩ := quiet _ List.mem_cons_self
      exact once unelapsed failed
    | error raised =>
      rw [ended] at quiet
      dsimp only at quiet ⊢
      split
      · next transient =>
        rw [if_pos transient] at quiet
        obtain ⟨⟨unelapsed, failed⟩, rest⟩ := List.forall_mem_cons.mp quiet
        have now := tryOnce_budget follows unelapsed failed
        have later := ih rest
        rw [SendTrace.replies_cons, List.length_append]
        dsimp only at now ⊢
        omega
      · next final =>
        rw [if_neg final] at quiet
        obtain ⟨unelapsed, failed⟩ := quiet _ List.mem_cons_self
        exact once unelapsed failed

end

/-- Where a dispatch leaves the system. -/
def afterDispatch (service : NotificationService ω) (host : Host ω) (call : DispatchCall) (before : Sys ω) :
    Sys ω :=
  finalState ((service.dispatch host call).run before)

/-- The calls of one dispatch: none for a notified pair, else those of its attempts. They are no more than
the attempts that are configured, and each but the last fails transiently without tripping the breaker. -/
structure DispatchBounded (service : NotificationService ω) (host : Host ω) (call : DispatchCall)
    (before : Sys ω) : Prop where
  calls : (afterDispatch service host call before).calls = before.calls ++
    if before.db.alreadyNotified call.mismatchKey call.recipientEmail then []
    else (service.dispatchTrace call before.world).calls call.request
  bounded : (((service.dispatchTrace call before.world).calls call.request).length : ℤ) ≤
    service.resilience.emailRetryAttempts
  retried : ∀ entry ∈ (service.dispatchTrace call before.world).earlier, entry.2.Retried

/-- A dispatch leaves the world and the calls of its attempts. -/
theorem afterDispatch_of_fresh {service : NotificationService ω} {host : Host ω} {call : DispatchCall}
    {before : Sys ω} (fresh : before.db.alreadyNotified call.mismatchKey call.recipientEmail = false) :
    (afterDispatch service host call before).calls =
        before.calls ++ (service.dispatchTrace call before.world).calls call.request ∧
      (afterDispatch service host call before).world = (service.dispatchTrace call before.world).world := by
  unfold afterDispatch
  rw [service.dispatch_run, fresh, if_neg Bool.false_ne_true]
  unfold NotificationService.dispatchEnd
  cases (service.dispatchTrace call before.world).last.2.outcome with
  | ok result => exact ⟨rfl, rfl⟩
  | error raised =>
    dsimp only
    cases expectedFailure raised with
    | some result => exact ⟨rfl, rfl⟩
    | none => exact ⟨rfl, rfl⟩

theorem afterDispatch_of_notified {service : NotificationService ω} {host : Host ω} {call : DispatchCall}
    {before : Sys ω} (notified : before.db.alreadyNotified call.mismatchKey call.recipientEmail = true) :
    afterDispatch service host call before = before := by
  unfold afterDispatch
  rw [service.dispatch_run, if_pos notified]
  rfl

theorem dispatch_bounded {service : NotificationService ω}
    (attempts : 1 ≤ service.resilience.emailRetryAttempts) (host : Host ω) (call : DispatchCall)
    (before : Sys ω) : DispatchBounded service host call before where
  calls := by
    cases notified : before.db.alreadyNotified call.mismatchKey call.recipientEmail with
    | true => rw [afterDispatch_of_notified notified, if_pos rfl, List.append_nil]
    | false => exact (afterDispatch_of_fresh notified).1
  bounded := by
    have calls : ((service.dispatchTrace call before.world).calls call.request).length ≤
        (service.dispatchTrace call before.world).attempts.length := List.length_filterMap_le _ _
    have made := service.length_attempts_le call.request
      (service.resilience.emailRetryAttempts - 1).toNat before.world
    unfold NotificationService.dispatchTrace at calls ⊢
    omega
  retried := service.sendTrace_earlier _ _ _

/-- Dispatches in which no send succeeds and no timeout elapses, and in between whatever neither touches
the breaker nor calls the provider. -/
inductive QuietStretch (service : NotificationService ω) (host : Host ω) (phase : ω → Phase)
    (elapsed : ω → Bool) (before : Sys ω) : Sys ω → Prop
  | start : QuietStretch service host phase elapsed before before
  | elsewhere {between after : Sys ω} (stretch : QuietStretch service host phase elapsed before between)
      (untouched : phase after.world = phase between.world)
      (uncalled : providerCalls after = providerCalls between) :
      QuietStretch service host phase elapsed before after
  | dispatched {between : Sys ω} (stretch : QuietStretch service host phase elapsed before between)
      (call : DispatchCall)
      (quiet : between.db.alreadyNotified call.mismatchKey call.recipientEmail = false →
        ∀ entry ∈ (service.dispatchTrace call between.world).attempts,
          elapsed entry.1 = false ∧ entry.2.succeeded = false) :
      QuietStretch service host phase elapsed before (afterDispatch service host call between)

/-- Along a quiet stretch every call is paid for by the budget at its start. -/
theorem QuietStretch.budget {service : NotificationService ω} {host : Host ω} {failMax : ℕ}
    {phase : ω → Phase} {elapsed : ω → Bool} (follows : Follows service failMax phase elapsed)
    {before after : Sys ω} (stretch : QuietStretch service host phase elapsed before after) :
    providerCalls after + (phase after.world).budget failMax ≤
      providerCalls before + (phase before.world).budget failMax := by
  induction stretch with
  | start => exact le_rfl
  | elsewhere _ untouched uncalled ih =>
    rw [untouched, uncalled]
    exact ih
  | @dispatched between _ call quiet ih =>
    cases notified : between.db.alreadyNotified call.mismatchKey call.recipientEmail with
    | true =>
      rw [afterDispatch_of_notified notified]
      exact ih
    | false =>
      obtain ⟨calls, world⟩ := @afterDispatch_of_fresh _ service host _ _ notified
      have paid := sendTrace_budget follows _ (quiet notified)
      rw [providerCalls_of_calls calls, world]
      unfold NotificationService.dispatchTrace
      omega

/-- One dispatch makes at most the configured number of calls, all but the last of them transient failures
that leave the breaker closed; and a stretch of dispatches without a success and without an elapsed
timeout makes at most `failMax` calls. -/
theorem provider_load_bounded {service : NotificationService ω} {failMax : ℕ} {phase : ω → Phase}
    {elapsed : ω → Bool} (follows : Follows service failMax phase elapsed)
    (attempts : 1 ≤ service.resilience.emailRetryAttempts) (positive : 1 ≤ failMax) (host : Host ω) :
    (∀ call before, DispatchBounded service host call before) ∧
      ∀ before after, QuietStretch service host phase elapsed before after →
        providerCalls after ≤ providerCalls before + failMax := by
  refine ⟨dispatch_bounded attempts host, fun before after stretch => ?_⟩
  have paid := stretch.budget follows
  have most := (phase before.world).budget_le positive
  omega

/-- Two dispatches to an unreachable provider call it three times together. -/
theorem provider_load_bounded_unreachable :
    let first := afterDispatch (unreachableService 3) (fixedHost 0) makeCall closedStart
    let second := afterDispatch (unreachableService 3) (fixedHost 0) { makeCall with mismatchKey := "K2" } first
    QuietStretch (unreachableService 3) (fixedHost 0) BreakerWorld.phase BreakerWorld.elapsed closedStart second ∧
      providerCalls second = 3 ∧
      providerCalls second ≤ providerCalls closedStart + 3 := by
  intro first second
  have stretch : QuietStretch (unreachableService 3) (fixedHost 0) BreakerWorld.phase BreakerWorld.elapsed
      closedStart second := by
    refine .dispatched (.dispatched .start makeCall fun _ => ?_) { makeCall with mismatchKey := "K2" } fun _ => ?_
    · decide
    · decide
  exact ⟨stretch, rfl, (provider_load_bounded (unreachableService_follows 3) (by decide) (by decide)
    (fixedHost 0)).2 closedStart second stretch⟩

end ReconcileFlow
