import ReconcileFlow.Model.ConcurrentDispatch
import ReconcileFlow.Model.Offline
import ReconcileFlow.Soundness.Delivery

/-! # Delivery under interleaved dispatches

A dispatch run alone takes exactly the steps of `NotificationService.dispatch`
(`dispatch_eq_iterate`). Under interleaving the check and the record are apart: a pair is delivered
at most once more as long as no dispatch passes the check while another one for the pair is in
flight, and two overlapping dispatches can both deliver.
-/

namespace ReconcileFlow

open EffectRun

variable {ω ι : Type}

/-- Where a finished `dispatch` leaves its thread. -/
def finishedPhase : EStateM.Result Raised (Sys ω) SendResult → DispatchPhase × Sys ω
  | .ok result after => (.returned result, after)
  | .error raised after => (.escaped raised, after)

section Alone

variable (service : NotificationService ω) (host : Host ω) (call : DispatchCall)

/-- The sending steps perform the retry loop and record its outcome. -/
theorem sending_eq_iterate (further : ℕ) (sys : Sys ω) :
    ∃ steps, (dispatchStep service host call)^[steps] (.sending further, sys) =
      match (retryLoop (service.attemptSend call.request) Raised.isTransient further).run sys with
      | .ok result after => dispatchStep service host call (.unrecorded result, after)
      | .error raised after => dispatchStep service host call (.ofFailure raised, after) := by
  induction further generalizing sys with
  | zero =>
    refine ⟨2, ?_⟩
    rw [Function.iterate_succ_apply, Function.iterate_one, retryLoop]
    conv_lhs => rw [dispatchStep]
    cases (service.attemptSend call.request).run sys <;> rfl
  | succ further ih =>
    rw [retryLoop, EStateM.run_bind, run_attempt]
    cases sent : (service.attemptSend call.request).run sys with
    | ok result after =>
      refine ⟨2, ?_⟩
      rw [Function.iterate_succ_apply, Function.iterate_one]
      conv_lhs => rw [dispatchStep, sent]
      rfl
    | error raised after =>
      cases transient : raised.isTransient with
      | true =>
        obtain ⟨steps, continued⟩ := ih after
        refine ⟨steps + 1, ?_⟩
        rw [Function.iterate_succ_apply]
        have moved : dispatchStep service host call (.sending (further + 1), sys) =
            (.sending further, after) := by
          rw [dispatchStep, sent]
          simp only [DispatchPhase.afterFailure, transient, ↓reduceIte]
        simp only [moved, continued, transient, ↓reduceIte]
      | false =>
        refine ⟨2, ?_⟩
        have moved : dispatchStep service host call (.sending (further + 1), sys) =
            (.ofFailure raised, after) := by
          rw [dispatchStep, sent]
          simp only [DispatchPhase.afterFailure, transient, Bool.false_eq_true, ↓reduceIte]
        rw [Function.iterate_succ_apply, Function.iterate_one, moved]
        simp only [transient, Bool.false_eq_true, ↓reduceIte, run_throw]

/-- A dispatch whose thread runs alone is `NotificationService.dispatch`. -/
theorem dispatch_eq_iterate (sys : Sys ω) :
    ∃ steps, (dispatchStep service host call)^[steps] (.unread, sys) =
      finishedPhase ((service.dispatch host call).run sys) := by
  unfold NotificationService.dispatch
  have checked : (NotificationService.checkNotified call).run sys =
    .ok (sys.db.alreadyNotified call.mismatchKey call.recipientEmail) sys := rfl
  rw [bind_of_ok checked]
  cases notified : sys.db.alreadyNotified call.mismatchKey call.recipientEmail with
  | true =>
    refine ⟨1, ?_⟩
    rw [Function.iterate_one, dispatchStep, if_pos notified]
    rfl
  | false =>
    obtain ⟨steps, sent⟩ := sending_eq_iterate service host call
      (service.resilience.emailRetryAttempts - 1).toNat sys
    refine ⟨steps + 1, ?_⟩
    have passed : dispatchStep service host call (.unread, sys) =
        (.sending (service.resilience.emailRetryAttempts - 1).toNat, sys) := by
      rw [dispatchStep, if_neg (by simp [notified])]
    rw [Function.iterate_succ_apply, passed, sent]
    simp only [Bool.false_eq_true, ↓reduceIte]
    unfold NotificationService.send
    rw [EStateM.run_bind, EStateM.run_bind, run_attempt, callWithRetry]
    cases (retryLoop (service.attemptSend call.request) Raised.isTransient
        (service.resilience.emailRetryAttempts - 1).toNat).run sys with
    | ok result after => rfl
    | error raised after =>
      cases expected : expectedFailure raised with
      | some result =>
        simp only [DispatchPhase.ofFailure, expected]
        rfl
      | none =>
        simp only [DispatchPhase.ofFailure, expected]
        rfl

end Alone

theorem attemptSend_ends (service : NotificationService ω) (request : SendRequest) (sys : Sys ω) :
    SendEnds request sys ((service.attemptSend request).run sys) :=
  breakerCall_ends (callOutside_ends service.notifier request) service.breaker sys

/-- A call that is in flight holds an outcome that says `SENT`. -/
def HoldsSent (phase : DispatchPhase) : Prop := ∃ result, phase = .unrecorded result ∧ result.status = .sent

theorem not_holdsSent_afterFailure (raised : Raised) (further : ℕ) :
    ¬ HoldsSent (.afterFailure raised further) := by
  rintro ⟨result, same, sent⟩
  have settled : DispatchPhase.ofFailure raised ≠ .unrecorded result := by
    unfold DispatchPhase.ofFailure
    cases expected : expectedFailure raised with
    | some failure =>
      intro same
      cases same
      exact expectedFailure_not_sent expected sent
    | none => exact DispatchPhase.noConfusion
  cases further with
  | zero => exact settled same
  | succ further =>
    rw [DispatchPhase.afterFailure] at same
    split at same
    · cases same
    · exact settled same

/-- What one step of a dispatch does, by where the dispatch stands. -/
inductive StepEffect (host : Host ω) (call : DispatchCall) (before : Sys ω) :
    DispatchPhase → DispatchPhase × Sys ω → Prop
  | notified {result : SendResult}
      (notified : before.db.alreadyNotified call.mismatchKey call.recipientEmail = true) :
      StepEffect host call before .unread (.returned result, before)
  | passed (further : ℕ)
      (notNotified : before.db.alreadyNotified call.mismatchKey call.recipientEmail = false) :
      StepEffect host call before .unread (.sending further, before)
  | answered {further : ℕ} {result : SendResult} {after : Sys ω}
      (delivers : Delivers call.request before result after) :
      StepEffect host call before (.sending further) (.unrecorded result, after)
  | failed {further : ℕ} {next : DispatchPhase} {after : Sys ω} (undelivered : ¬ HoldsSent next)
      (fails : FailsToSend call.request before after) :
      StepEffect host call before (.sending further) (next, after)
  | recorded (result : SendResult) (now : Timestamp) :
      StepEffect host call before (.unrecorded result)
        (.returned result, { before with db := before.db.recordNotification (call.row result now) })
  | stopped {phase : DispatchPhase} (finished : phase.inFlight = false) :
      StepEffect host call before phase (phase, before)

theorem dispatchStep_effect (service : NotificationService ω) (host : Host ω) (call : DispatchCall)
    (phase : DispatchPhase) (before : Sys ω) :
    StepEffect host call before phase (dispatchStep service host call (phase, before)) := by
  cases phase with
  | unread =>
    rw [dispatchStep]
    split
    · next notified => exact .notified notified
    · next fresh => exact .passed _ (by simpa using fresh)
  | sending further =>
    rw [dispatchStep]
    have ends := attemptSend_ends service call.request before
    revert ends
    cases (service.attemptSend call.request).run before with
    | ok result after =>
      rintro (delivers)
      cases delivers with
      | delivered delivers => exact .answered delivers
    | error raised after =>
      rintro (_ | fails)
      exact .failed (not_holdsSent_afterFailure raised further) fails
  | unrecorded result => exact .recorded result _
  | returned result => exact .stopped rfl
  | escaped raised => exact .stopped rfl

/-! ## Interleavings -/

section Interleaved

variable [DecidableEq ι] {service : NotificationService ω} {host : Host ω} {calls : ι → DispatchCall}

/-- The invariant of the schedules without overlap, for one pair: at most one dispatch for it is in
flight, none once the pair is notified, and a delivery is recorded or held by the one in flight. -/
structure PairGuarded (calls : ι → DispatchCall) (pair : String × String) (already : ℕ)
    (state : Dispatches ω ι) : Prop where
  alone : ∀ thread other, (calls thread).pair = pair → (calls other).pair = pair →
    (state.phases thread).inFlight = true → (state.phases other).inFlight = true → thread = other
  settled : state.sys.db.alreadyNotified pair.1 pair.2 = true →
    ∀ thread, (calls thread).pair = pair → (state.phases thread).inFlight = false
  bound : deliveries pair state.sys.calls ≤ already + 1
  accounted : deliveries pair state.sys.calls ≤ already ∨
    state.sys.db.alreadyNotified pair.1 pair.2 = true ∨
      ∃ thread, (calls thread).pair = pair ∧ HoldsSent (state.phases thread)

theorem HoldsSent.inFlight {phase : DispatchPhase} (holds : HoldsSent phase) : phase.inFlight = true := by
  obtain ⟨result, rfl, -⟩ := holds
  rfl

omit [DecidableEq ι] in
theorem pairGuarded_start (pair : String × String) (sys : Sys ω) :
    PairGuarded calls pair (deliveries pair sys.calls) (Dispatches.start sys) where
  alone := fun _ _ _ _ flying => Bool.noConfusion flying
  settled := fun _ _ _ => rfl
  bound := Nat.le_succ _
  accounted := Or.inl le_rfl

/-- A step of a dispatch for another pair shows neither in the log nor among the deliveries. -/
theorem StepEffect.other_pair {call : DispatchCall} {before : Sys ω} {phase : DispatchPhase}
    {moved : DispatchPhase × Sys ω} (effect : StepEffect host call before phase moved)
    {pair : String × String} (different : call.pair ≠ pair) :
    deliveries pair moved.2.calls = deliveries pair before.calls ∧
      moved.2.db.alreadyNotified pair.1 pair.2 = before.db.alreadyNotified pair.1 pair.2 := by
  cases effect with
  | notified _ => exact ⟨rfl, rfl⟩
  | passed _ _ => exact ⟨rfl, rfl⟩
  | @answered further result after delivers =>
    have none := delivers.deliveries pair
    rw [decide_eq_false different, Bool.false_and, Bool.toNat_false, Nat.add_zero] at none
    exact ⟨none, by rw [delivers.db]⟩
  | failed undelivered fails => exact ⟨fails.deliveries pair, by rw [fails.db]⟩
  | recorded result now =>
    refine ⟨rfl, ?_⟩
    rw [alreadyNotified_recordNotification]
    exact if_neg different
  | stopped finished => exact ⟨rfl, rfl⟩

/-- The guard of a state in which the moved thread is the only one for the pair that can be in
flight. -/
theorem pairGuarded_of_others_quiet {pair : String × String} {already : ℕ} {state : Dispatches ω ι}
    {thread : ι} {moved : DispatchPhase × Sys ω}
    (quiet : ∀ other, (calls other).pair = pair → other ≠ thread → (state.phases other).inFlight = false)
    (settled : moved.1.inFlight = true → moved.2.db.alreadyNotified pair.1 pair.2 = false)
    (same : (calls thread).pair = pair) (bound : deliveries pair moved.2.calls ≤ already + 1)
    (accounted : deliveries pair moved.2.calls ≤ already ∨
      moved.2.db.alreadyNotified pair.1 pair.2 = true ∨ HoldsSent moved.1) :
    PairGuarded calls pair already ⟨Function.update state.phases thread moved.1, moved.2⟩ := by
  have quietAfter : ∀ other, (calls other).pair = pair → other ≠ thread →
      (Function.update state.phases thread moved.1 other).inFlight = false := by
    intro other samePair different
    rw [Function.update_of_ne different]
    exact quiet other samePair different
  have onlyThread : ∀ other, (calls other).pair = pair →
      (Function.update state.phases thread moved.1 other).inFlight = true → other = thread := by
    intro other samePair flying
    by_contra different
    rw [quietAfter other samePair different] at flying
    exact Bool.false_ne_true flying
  refine ⟨?_, ?_, bound, ?_⟩
  · intro first second firstPair secondPair firstFlying secondFlying
    exact (onlyThread first firstPair firstFlying).trans (onlyThread second secondPair secondFlying).symm
  · intro notified other samePair
    by_cases different : other = thread
    · subst different
      dsimp only
      rw [Function.update_self]
      cases flying : moved.1.inFlight with
      | false => rfl
      | true => exact (Bool.false_ne_true ((settled flying).symm.trans notified)).elim
    · exact quietAfter other samePair different
  · rcases accounted with none | notified | holds
    · exact Or.inl none
    · exact Or.inr (Or.inl notified)
    · refine Or.inr (Or.inr ⟨thread, same, ?_⟩)
      dsimp only
      rwa [Function.update_self]

omit [DecidableEq ι] in
/-- The guard carries over to a state that looks the same for the pair. -/
theorem PairGuarded.frame {pair : String × String} {already : ℕ} {before after : Dispatches ω ι}
    (guarded : PairGuarded calls pair already before)
    (flying : ∀ thread, (calls thread).pair = pair →
      (after.phases thread).inFlight = (before.phases thread).inFlight)
    (holds : ∀ thread, (calls thread).pair = pair →
      HoldsSent (before.phases thread) → HoldsSent (after.phases thread))
    (count : deliveries pair after.sys.calls = deliveries pair before.sys.calls)
    (log : after.sys.db.alreadyNotified pair.1 pair.2 = before.sys.db.alreadyNotified pair.1 pair.2) :
    PairGuarded calls pair already after where
  alone := by
    intro first second firstPair secondPair firstFlying secondFlying
    rw [flying first firstPair] at firstFlying
    rw [flying second secondPair] at secondFlying
    exact guarded.alone first second firstPair secondPair firstFlying secondFlying
  settled := by
    intro notified thread same
    rw [flying thread same]
    exact guarded.settled (log.symm.trans notified) thread same
  bound := count ▸ guarded.bound
  accounted := by
    rw [count, log]
    refine guarded.accounted.imp_right (Or.imp_right ?_)
    rintro ⟨thread, same, held⟩
    exact ⟨thread, same, holds thread same held⟩

/-- A thread that is on the ground before and after its step leaves the guard alone. -/
theorem PairGuarded.grounded {pair : String × String} {already : ℕ} {state : Dispatches ω ι} {thread : ι}
    {next : DispatchPhase} (guarded : PairGuarded calls pair already state)
    (before : (state.phases thread).inFlight = false) (after : next.inFlight = false) :
    PairGuarded calls pair already ⟨Function.update state.phases thread next, state.sys⟩ := by
  refine guarded.frame ?_ ?_ rfl rfl
  · intro other _
    dsimp only
    by_cases moved : other = thread
    · rw [moved, Function.update_self, before, after]
    · rw [Function.update_of_ne moved]
  · intro other _ held
    dsimp only
    by_cases moved : other = thread
    · have flying := held.inFlight
      rw [moved, before] at flying
      exact Bool.noConfusion flying
    · rwa [Function.update_of_ne moved]

omit [DecidableEq ι] in
/-- While a dispatch for the pair is in flight, the others are on the ground. -/
theorem PairGuarded.others_grounded {pair : String × String} {already : ℕ} {state : Dispatches ω ι}
    {thread other : ι} (guarded : PairGuarded calls pair already state) (same : (calls thread).pair = pair)
    (flying : (state.phases thread).inFlight = true) (samePair : (calls other).pair = pair)
    (different : other ≠ thread) : (state.phases other).inFlight = false := by
  cases otherFlying : (state.phases other).inFlight with
  | false => rfl
  | true => exact (different (guarded.alone other thread samePair same otherFlying flying)).elim

omit [DecidableEq ι] in
/-- While a dispatch for the pair is in flight, the log has no success for it. -/
theorem PairGuarded.unnotified {pair : String × String} {already : ℕ} {state : Dispatches ω ι}
    {thread : ι} (guarded : PairGuarded calls pair already state) (same : (calls thread).pair = pair)
    (flying : (state.phases thread).inFlight = true) :
    state.sys.db.alreadyNotified pair.1 pair.2 = false := by
  cases notified : state.sys.db.alreadyNotified pair.1 pair.2 with
  | false => rfl
  | true => exact (Bool.false_ne_true ((guarded.settled notified thread same).symm.trans flying)).elim

omit [DecidableEq ι] in
/-- While a dispatch for the pair is in flight without a delivered outcome, nothing was delivered. -/
theorem PairGuarded.undelivered {pair : String × String} {already : ℕ} {state : Dispatches ω ι}
    {thread : ι} (guarded : PairGuarded calls pair already state) (same : (calls thread).pair = pair)
    (flying : (state.phases thread).inFlight = true) (holdsNone : ¬ HoldsSent (state.phases thread)) :
    deliveries pair state.sys.calls ≤ already := by
  rcases guarded.accounted with none | notified | ⟨other, samePair, holds⟩
  · exact none
  · exact (Bool.false_ne_true ((guarded.unnotified same flying).symm.trans notified)).elim
  · have one := guarded.alone thread other same samePair flying holds.inFlight
    exact (holdsNone (one ▸ holds)).elim

/-- A step of a dispatch for the pair keeps the guard when it does not overlap another one. -/
theorem PairGuarded.own_step {pair : String × String} {already : ℕ} {state : Dispatches ω ι} {thread : ι}
    {moved : DispatchPhase × Sys ω} (guarded : PairGuarded calls pair already state)
    (noOverlap : Dispatches.NoOverlap calls state thread) (same : (calls thread).pair = pair)
    (effect : StepEffect host (calls thread) state.sys (state.phases thread) moved) :
    PairGuarded calls pair already ⟨Function.update state.phases thread moved.1, moved.2⟩ := by
  have others (flying : (state.phases thread).inFlight = true) (other : ι)
      (samePair : (calls other).pair = pair) (different : other ≠ thread) :=
    guarded.others_grounded same flying samePair different
  have unnotified := guarded.unnotified same
  have none := guarded.undelivered same
  generalize phase : state.phases thread = before at effect others unnotified none
  cases effect with
  | notified found => exact guarded.grounded (phase ▸ rfl) rfl
  | stopped finished => exact guarded.grounded (phase ▸ finished) finished
  | passed further fresh =>
    have quiet := noOverlap ⟨phase, fresh⟩
    refine pairGuarded_of_others_quiet (fun other samePair _ => quiet other (samePair.trans same.symm))
      (fun _ => same ▸ fresh) same guarded.bound ?_
    rcases guarded.accounted with none | notified | ⟨other, samePair, holds⟩
    · exact Or.inl none
    · exact Or.inr (Or.inl notified)
    · have flying := holds.inFlight
      rw [quiet other (samePair.trans same.symm)] at flying
      exact Bool.noConfusion flying
  | @answered further result after delivers =>
    have noneYet := none rfl (by rintro ⟨_, impossible, -⟩; cases impossible)
    have total := delivers.deliveries pair
    rw [decide_eq_true same, Bool.true_and] at total
    refine pairGuarded_of_others_quiet (others rfl) (fun _ => ?_) same ?_ ?_
    · rw [delivers.db]
      exact unnotified rfl
    · have small := Bool.toNat_le (decide (result.status = .sent))
      dsimp only
      omega
    · by_cases delivered : result.status = .sent
      · exact Or.inr (Or.inr ⟨result, rfl, delivered⟩)
      · rw [decide_eq_false delivered, Bool.toNat_false, Nat.add_zero] at total
        exact Or.inl (total ▸ noneYet)
  | @failed further next after undelivered fails =>
    have noneYet := none rfl (by rintro ⟨_, impossible, -⟩; cases impossible)
    have total := fails.deliveries pair
    refine pairGuarded_of_others_quiet (others rfl) (fun _ => ?_) same ?_ ?_
    · rw [fails.db]
      exact unnotified rfl
    · exact total ▸ guarded.bound
    · exact Or.inl (total ▸ noneYet)
  | recorded result now =>
    have log := alreadyNotified_recordNotification state.sys.db ((calls thread).row result now) pair
    rw [if_pos (show ((calls thread).row result now).pair = pair from same)] at log
    refine pairGuarded_of_others_quiet (others rfl) (fun flying => Bool.noConfusion flying) same
      guarded.bound ?_
    by_cases delivered : result.status = .sent
    · exact Or.inr (Or.inl (log.trans (decide_eq_true delivered)))
    · refine Or.inl (none rfl ?_)
      rintro ⟨held, equal, sent⟩
      cases equal
      exact delivered sent

theorem pairGuarded_step {pair : String × String} {already : ℕ} {state : Dispatches ω ι} {thread : ι}
    (guarded : PairGuarded calls pair already state)
    (noOverlap : Dispatches.NoOverlap calls state thread) :
    PairGuarded calls pair already (Dispatches.step service host calls state thread) := by
  have effect := dispatchStep_effect service host (calls thread) (state.phases thread) state.sys
  by_cases same : (calls thread).pair = pair
  · exact guarded.own_step noOverlap same effect
  · obtain ⟨count, log⟩ := effect.other_pair same
    have unmoved (other : ι) (samePair : (calls other).pair = pair) :
        (Dispatches.step service host calls state thread).phases other = state.phases other := by
      refine Function.update_of_ne (fun equal => same ?_) _ _
      rwa [← equal]
    refine guarded.frame (fun other samePair => ?_) (fun other samePair held => ?_) count log
    · rw [unmoved other samePair]
    · rwa [unmoved other samePair]

theorem pairGuarded_run {pair : String × String} {already : ℕ} {state : Dispatches ω ι}
    (guarded : PairGuarded calls pair already state) (schedule : List ι)
    (neverOverlaps : Dispatches.NeverOverlaps service host calls state schedule) :
    PairGuarded calls pair already (Dispatches.run service host calls state schedule) := by
  induction schedule generalizing state with
  | nil => exact guarded
  | cons thread later ih =>
    exact ih (pairGuarded_step guarded neverOverlaps.1) neverOverlaps.2

/-- Over every interleaving in which no dispatch passes the check while another one for its pair is
in flight, every pair is delivered at most once more. -/
theorem run_delivers_once (service : NotificationService ω) (host : Host ω) (calls : ι → DispatchCall)
    (sys : Sys ω) (schedule : List ι)
    (neverOverlaps : Dispatches.NeverOverlaps service host calls (Dispatches.start sys) schedule)
    (pair : String × String) :
    deliveries pair (Dispatches.run service host calls (Dispatches.start sys) schedule).sys.calls ≤
      deliveries pair sys.calls + 1 :=
  (pairGuarded_run (pairGuarded_start pair sys) schedule neverOverlaps).bound

end Interleaved

/-- The dispatches of two background runs over the same files. -/
def twoRuns (second : Bool) : DispatchCall := makeCall (if second then "run-2" else "run-1")

/-- The second run starts once the first has recorded its outcome. -/
theorem run_delivers_once_serial :
    deliveries ("K1", "store-manager@demo.local") (Dispatches.run
        (scriptedDependencies (.ok {})).notifications (fixedHost defaultDate) twoRuns
        (Dispatches.start emptyStart) [false, false, false, true]).sys.calls ≤
      deliveries ("K1", "store-manager@demo.local") emptyStart.calls + 1 :=
  run_delivers_once _ _ _ _ _ (by decide +kernel) _

/-- Both runs pass the check before either sends. -/
theorem interleaved_delivers_twice :
    ¬ deliveries ("K1", "store-manager@demo.local") (Dispatches.run
        (scriptedDependencies (.ok {})).notifications (fixedHost defaultDate) twoRuns
        (Dispatches.start emptyStart) [false, true, false, true, false, true]).sys.calls ≤ 1 := by
  decide +kernel

/-! ## Overlapping dispatches -/

/-- The breaker admits every call and the provider delivers every request. -/
structure AlwaysDelivers (service : NotificationService ω) : Prop where
  admits : ∀ world, (service.breaker.admits world).1 = true
  sends : ∀ request world, ∃ result,
    (service.notifier.send request world).1 = .ok result ∧ result.status = .sent

theorem AlwaysDelivers.attemptSend {service : NotificationService ω} (always : AlwaysDelivers service)
    (request : SendRequest) (sys : Sys ω) :
    ∃ result after, (service.attemptSend request).run sys = .ok result after ∧ result.status = .sent := by
  unfold NotificationService.attemptSend Breaker.call
  rw [bind_of_ok (run_stepWorld service.breaker.admits sys), if_pos (always.admits sys.world)]
  obtain ⟨result, reply, sent⟩ := always.sends request (service.breaker.admits sys.world).2
  have called : ∃ after, (callOutside (.send request) (service.notifier.send request)).run
      { sys with world := (service.breaker.admits sys.world).2 } = .ok result after := by
    unfold callOutside
    dsimp only [EStateM.run]
    rw [reply]
    exact ⟨_, rfl⟩
  obtain ⟨after, called⟩ := called
  exact ⟨result, { after with world := service.breaker.onSuccess after.world },
    by rw [bind_of_ok (attempt_of_ok called)]; rfl, sent⟩

section Overlap

variable [DecidableEq ι] (service : NotificationService ω) (host : Host ω) (calls : ι → DispatchCall)

theorem deliveries_le_step (state : Dispatches ω ι) (thread : ι) (pair : String × String) :
    deliveries pair state.sys.calls ≤
      deliveries pair (Dispatches.step service host calls state thread).sys.calls := by
  have effect := dispatchStep_effect service host (calls thread) (state.phases thread) state.sys
  unfold Dispatches.step
  dsimp only
  generalize dispatchStep service host (calls thread) (state.phases thread, state.sys) = moved at effect ⊢
  generalize state.phases thread = phase at effect
  cases effect with
  | notified _ | passed _ _ | recorded _ _ | stopped _ => exact le_rfl
  | answered delivers =>
    rw [delivers.deliveries pair]
    exact Nat.le_add_right _ _
  | failed undelivered fails => exact (fails.deliveries pair).ge

theorem deliveries_le_run (state : Dispatches ω ι) (schedule : List ι) (pair : String × String) :
    deliveries pair state.sys.calls ≤
      deliveries pair (Dispatches.run service host calls state schedule).sys.calls := by
  induction schedule generalizing state with
  | nil => exact le_rfl
  | cons thread later ih => exact (deliveries_le_step service host calls state thread pair).trans (ih _)

theorem phases_step_of_ne (state : Dispatches ω ι) {thread other : ι} (different : other ≠ thread) :
    (Dispatches.step service host calls state thread).phases other = state.phases other :=
  Function.update_of_ne different _ _

variable {service}

theorem AlwaysDelivers.step (always : AlwaysDelivers service) {state : Dispatches ω ι} {thread : ι}
    {further : ℕ} (sending : state.phases thread = .sending further) :
    deliveries (calls thread).pair (Dispatches.step service host calls state thread).sys.calls =
      deliveries (calls thread).pair state.sys.calls + 1 := by
  obtain ⟨result, after, sent, delivered⟩ := always.attemptSend (calls thread).request state.sys
  have effect := attemptSend_ends service (calls thread).request state.sys
  rw [sent] at effect
  have moved : (Dispatches.step service host calls state thread).sys = after := by
    rw [Dispatches.step, sending, dispatchStep, sent]
  cases effect with
  | delivered delivers =>
    have count := delivers.deliveries (calls thread).pair
    rw [decide_eq_true rfl, decide_eq_true delivered] at count
    rw [moved, count]
    rfl

theorem AlwaysDelivers.run_once (always : AlwaysDelivers service) {state : Dispatches ω ι} {thread : ι}
    {further : ℕ} (sending : state.phases thread = .sending further) {schedule : List ι}
    (moves : thread ∈ schedule) :
    deliveries (calls thread).pair state.sys.calls + 1 ≤
      deliveries (calls thread).pair (Dispatches.run service host calls state schedule).sys.calls := by
  induction schedule generalizing state with
  | nil => exact (List.not_mem_nil moves).elim
  | cons next later ih =>
    by_cases now : thread = next
    · subst now
      rw [← always.step host calls sending]
      exact deliveries_le_run service host calls _ later _
    · have stays := (phases_step_of_ne service host calls state now).trans
        sending
      have before := deliveries_le_step service host calls state next
        (calls thread).pair
      have rest := ih stays ((List.mem_cons.mp moves).resolve_left now)
      exact (Nat.succ_le_succ before).trans rest

/-- Two dispatches for one pair that are past the check together both deliver, if the provider
delivers and both move again. -/
theorem AlwaysDelivers.overlap_delivers_twice (always : AlwaysDelivers service) {state : Dispatches ω ι}
    {first second : ι} {firstFurther secondFurther : ℕ} (different : first ≠ second)
    (same : (calls first).pair = (calls second).pair)
    (firstSending : state.phases first = .sending firstFurther)
    (secondSending : state.phases second = .sending secondFurther) {schedule : List ι}
    (firstMoves : first ∈ schedule) (secondMoves : second ∈ schedule) :
    deliveries (calls first).pair state.sys.calls + 2 ≤
      deliveries (calls first).pair (Dispatches.run service host calls state schedule).sys.calls := by
  induction schedule generalizing state with
  | nil => exact (List.not_mem_nil firstMoves).elim
  | cons next later ih =>
    by_cases firstNow : first = next
    · subst firstNow
      have one := always.step host calls firstSending
      have stays := (phases_step_of_ne service host calls state
        different.symm).trans secondSending
      have two := always.run_once host calls stays
        ((List.mem_cons.mp secondMoves).resolve_left different.symm)
      rw [← same, one] at two
      exact two
    · by_cases secondNow : second = next
      · subst secondNow
        have one := always.step host calls secondSending
        have stays := (phases_step_of_ne service host calls state
          different).trans firstSending
        have two := always.run_once host calls stays
          ((List.mem_cons.mp firstMoves).resolve_left different)
        rw [← same] at one
        rw [one] at two
        exact two
      · have before := deliveries_le_step service host calls state next
          (calls first).pair
        have rest := ih
          ((phases_step_of_ne service host calls state firstNow).trans
            firstSending)
          ((phases_step_of_ne service host calls state secondNow).trans
            secondSending)
          ((List.mem_cons.mp firstMoves).resolve_left firstNow)
          ((List.mem_cons.mp secondMoves).resolve_left secondNow)
        exact (Nat.add_le_add_right before 2).trans rest

end Overlap

end ReconcileFlow
