import ReconcileFlow.Model.Notifications

/-! # At-most-once delivery over sequential histories

`dispatch_cases` says once what a dispatch can do: skip a notified pair without touching anything,
record an outcome after its calls to the notifier, or let an unexpected exception escape. The
calls of one dispatch are all for one pair, at most the last of them succeeds, and a success is
recorded before the dispatch returns. So the number of delivered calls for a pair is always one or
zero, as the notification log says (`LogAgrees`), and no later dispatch writes a notified pair.
-/

namespace ReconcileFlow

open EffectRun

variable {ω α : Type}

/-- From one state to another only the world and the call log moved, by the given calls. -/
structure CallsOnly (before after : Sys ω) (new : List ExternalCall) : Prop where
  db : after.db = before.db
  incidentFiles : after.incidentFiles = before.incidentFiles
  incidentStream : after.incidentStream = before.incidentStream
  calls : after.calls = before.calls ++ new

namespace CallsOnly

variable {before between after : Sys ω} {first second : List ExternalCall}

theorem refl (sys : Sys ω) : CallsOnly sys sys [] := ⟨rfl, rfl, rfl, (List.append_nil _).symm⟩

theorem trans (start : CallsOnly before between first) (next : CallsOnly between after second) :
    CallsOnly before after (first ++ second) where
  db := next.db.trans start.db
  incidentFiles := next.incidentFiles.trans start.incidentFiles
  incidentStream := next.incidentStream.trans start.incidentStream
  calls := by rw [next.calls, start.calls, List.append_assoc]

/-- A step of the world adds no call. -/
theorem world (start : CallsOnly before between first) (world : ω) :
    CallsOnly before { between with world } first :=
  ⟨start.db, start.incidentFiles, start.incidentStream, start.calls⟩

end CallsOnly

/-- The failed attempts to send one request. -/
def failedSends (request : SendRequest) (errors : List Raised) : List ExternalCall :=
  errors.map fun raised => .send request (.error raised)

theorem failedSends_append (request : SendRequest) (first second : List Raised) :
    failedSends request (first ++ second) = failedSends request first ++ failedSends request second :=
  List.map_append

/-- The calls of a computation that ends by delivering `result`: failures, then one success. -/
def Delivers (request : SendRequest) (before : Sys ω) (result : SendResult) (after : Sys ω) : Prop :=
  ∃ errors, CallsOnly before after (failedSends request errors ++ [.send request (.ok result)])

/-- The calls of a computation that delivers nothing. -/
def FailsToSend (request : SendRequest) (before after : Sys ω) : Prop :=
  ∃ errors, CallsOnly before after (failedSends request errors)

theorem FailsToSend.deliver {request : SendRequest} {before between after : Sys ω} {result : SendResult}
    (failed : FailsToSend request before between) (delivers : Delivers request between result after) :
    Delivers request before result after := by
  obtain ⟨first, start⟩ := failed
  obtain ⟨second, next⟩ := delivers
  refine ⟨first ++ second, ?_⟩
  rw [failedSends_append, List.append_assoc]
  exact start.trans next

theorem FailsToSend.trans {request : SendRequest} {before between after : Sys ω}
    (first : FailsToSend request before between) (second : FailsToSend request between after) :
    FailsToSend request before after := by
  obtain ⟨firstErrors, start⟩ := first
  obtain ⟨secondErrors, next⟩ := second
  refine ⟨firstErrors ++ secondErrors, ?_⟩
  rw [failedSends_append]
  exact start.trans next

/-- How a send ends: a result with one delivered call, or an exception with none. -/
inductive SendEnds (request : SendRequest) (before : Sys ω) : EStateM.Result Raised (Sys ω) SendResult → Prop
  | delivered {result : SendResult} {after : Sys ω} (delivers : Delivers request before result after) :
      SendEnds request before (.ok result after)
  | failed {raised : Raised} {after : Sys ω} (fails : FailsToSend request before after) :
      SendEnds request before (.error raised after)

theorem callOutside_ends (notifier : Notifier ω) (request : SendRequest) (sys : Sys ω) :
    SendEnds request sys ((callOutside (.send request) (notifier.send request)).run sys) := by
  unfold callOutside
  dsimp only [EStateM.run]
  cases reply : (notifier.send request sys.world).1 with
  | ok result => exact .delivered ⟨[], rfl, rfl, rfl, rfl⟩
  | error raised => exact .failed ⟨[raised], rfl, rfl, rfl, rfl⟩

/-- The breaker refuses, or passes the call's end on, possibly under another exception. -/
theorem breakerCall_ends {request : SendRequest} {func : RunM ω SendResult}
    (ends : ∀ sys, SendEnds request sys (func.run sys)) (breaker : Breaker ω) (sys : Sys ω) :
    SendEnds request sys ((breaker.call func).run sys) := by
  unfold Breaker.call
  rw [bind_of_ok (run_stepWorld breaker.admits sys)]
  cases (breaker.admits sys.world).1 with
  | false => exact .failed ⟨[], (CallsOnly.refl sys).world _⟩
  | true =>
    have tried := ends { sys with world := (breaker.admits sys.world).2 }
    rw [if_pos rfl, EStateM.run_bind, run_attempt]
    revert tried
    cases func.run { sys with world := (breaker.admits sys.world).2 } with
    | ok result after =>
      rintro (⟨errors, calls⟩)
      exact .delivered ⟨errors, calls.db, calls.incidentFiles, calls.incidentStream, calls.calls⟩
    | error raised after =>
      rintro (_ | ⟨errors, calls⟩)
      dsimp only
      rw [bind_of_ok (run_stepWorld breaker.onFailure after)]
      split <;>
        exact .failed ⟨errors, calls.db, calls.incidentFiles, calls.incidentStream, calls.calls⟩

theorem retryLoop_ends {request : SendRequest} {func : RunM ω SendResult}
    (ends : ∀ sys, SendEnds request sys (func.run sys)) (retryOn : Raised → Bool) (further : ℕ)
    (sys : Sys ω) : SendEnds request sys ((retryLoop func retryOn further).run sys) := by
  induction further generalizing sys with
  | zero => exact ends sys
  | succ further ih =>
    have tried := ends sys
    rw [retryLoop, EStateM.run_bind, run_attempt]
    revert tried
    cases func.run sys with
    | ok result after => exact id
    | error raised between =>
      rintro (_ | fails)
      dsimp only
      split
      · cases again : (retryLoop func retryOn further).run between with
        | ok result after =>
          have next := ih between
          rw [again] at next
          cases next with
          | delivered delivers => exact .delivered (fails.deliver delivers)
        | error raised after =>
          have next := ih between
          rw [again] at next
          cases next with
          | failed later => exact .failed (fails.trans later)
      · exact .failed fails

/-- The calls behind the result of a send: at most the last one answered, with that result. -/
inductive SendCalls (request : SendRequest) (result : SendResult) : List ExternalCall → Prop
  | answered (errors : List Raised) :
      SendCalls request result (failedSends request errors ++ [.send request (.ok result)])
  | unanswered (errors : List Raised) (undelivered : result.status ≠ .sent) :
      SendCalls request result (failedSends request errors)

/-- The three ways a dispatch ends. -/
inductive DispatchEnds (host : Host ω) (call : DispatchCall) (before : Sys ω) :
    EStateM.Result Raised (Sys ω) SendResult → Prop
  | duplicate (notified : before.db.alreadyNotified call.mismatchKey call.recipientEmail = true) :
      DispatchEnds host call before (.ok { status := .skipped, reason := some "duplicate" } before)
  | recorded {result : SendResult} {sent : Sys ω} {new : List ExternalCall}
      (notNotified : before.db.alreadyNotified call.mismatchKey call.recipientEmail = false)
      (calls : CallsOnly before sent new) (sends : SendCalls call.request result new) :
      DispatchEnds host call before (.ok result
        { sent with db := before.db.recordNotification (call.row result (host.now sent.world)) })
  | escaped {raised : Raised} {after : Sys ω}
      (notNotified : before.db.alreadyNotified call.mismatchKey call.recipientEmail = false)
      (unexpected : expectedFailure raised = none) (fails : FailsToSend call.request before after) :
      DispatchEnds host call before (.error raised after)

theorem expectedFailure_not_sent {raised : Raised} {result : SendResult}
    (expected : expectedFailure raised = some result) : result.status ≠ .sent := by
  cases raised <;> cases expected <;> simp

theorem send_ends (service : NotificationService ω) (request : SendRequest) (before : Sys ω) :
    (∃ result after new, (service.send request).run before = .ok result after ∧
      CallsOnly before after new ∧ SendCalls request result new) ∨
    ∃ raised after, (service.send request).run before = .error raised after ∧
      expectedFailure raised = none ∧ FailsToSend request before after := by
  have ends : SendEnds request before ((callWithRetry (service.attemptSend request)
      service.resilience.emailRetryAttempts Raised.isTransient).run before) :=
    retryLoop_ends (breakerCall_ends (callOutside_ends service.notifier request) service.breaker) _ _ _
  unfold NotificationService.send
  rw [EStateM.run_bind, run_attempt]
  revert ends
  cases (callWithRetry (service.attemptSend request) service.resilience.emailRetryAttempts
      Raised.isTransient).run before with
  | ok result after =>
    rintro (⟨errors, calls⟩)
    exact Or.inl ⟨result, after, _, rfl, calls, .answered errors⟩
  | error raised after =>
    rintro (_ | ⟨errors, calls⟩)
    cases expected : expectedFailure raised with
    | some result =>
      refine Or.inl ⟨result, after, _, ?_, calls, .unanswered errors (expectedFailure_not_sent expected)⟩
      simp only [expected]
      rfl
    | none =>
      refine Or.inr ⟨raised, after, ?_, expected, errors, calls⟩
      simp only [expected]
      rfl

theorem dispatch_cases (service : NotificationService ω) (host : Host ω) (call : DispatchCall)
    (before : Sys ω) : DispatchEnds host call before ((service.dispatch host call).run before) := by
  unfold NotificationService.dispatch
  have checked : (NotificationService.checkNotified call).run before =
    .ok (before.db.alreadyNotified call.mismatchKey call.recipientEmail) before := rfl
  rw [bind_of_ok checked]
  cases notified : before.db.alreadyNotified call.mismatchKey call.recipientEmail with
  | true => exact .duplicate notified
  | false =>
    rcases send_ends service call.request before with
      ⟨result, sent, new, success, calls, sends⟩ | ⟨raised, after, failure, unexpected, fails⟩
    · simp only [Bool.false_eq_true, ↓reduceIte]
      rw [bind_of_ok success]
      have stored : DispatchEnds host call before _ := .recorded notified calls sends
      rw [← calls.db] at stored
      exact stored
    · simp only [Bool.false_eq_true, ↓reduceIte]
      rw [bind_of_error failure]
      exact .escaped notified unexpected fails

/-! ## Deliveries and the notification log -/

/-- The call is a send for the pair that returned `SENT`. -/
def deliversTo (pair : String × String) : ExternalCall → Bool
  | .send request (.ok result) =>
    decide ((request.mismatchKey, request.toEmail) = pair) && decide (result.status = .sent)
  | _ => false

/-- How many sends for the pair returned `SENT`. -/
def deliveries (pair : String × String) (calls : List ExternalCall) : ℕ :=
  calls.countP (deliversTo pair)

theorem deliveries_append (pair : String × String) (first second : List ExternalCall) :
    deliveries pair (first ++ second) = deliveries pair first + deliveries pair second :=
  List.countP_append

theorem deliveries_failedSends (pair : String × String) (request : SendRequest) (errors : List Raised) :
    deliveries pair (failedSends request errors) = 0 := by
  rw [deliveries, List.countP_eq_zero]
  intro call member
  obtain ⟨raised, _, rfl⟩ := List.mem_map.mp member
  exact Bool.false_ne_true

/-- The calls of a dispatch that was answered deliver to its pair, if the answer is `SENT`. -/
theorem deliveries_answered (pair : String × String) (call : DispatchCall) (result : SendResult)
    (errors : List Raised) :
    deliveries pair (failedSends call.request errors ++ [.send call.request (.ok result)]) =
      (decide (call.pair = pair) && decide (result.status = .sent)).toNat := by
  rw [deliveries_append, deliveries_failedSends, Nat.zero_add, deliveries, List.countP_singleton]
  cases delivered : deliversTo pair (.send call.request (.ok result)) with
  | true => exact congrArg Bool.toNat delivered.symm
  | false => exact congrArg Bool.toNat delivered.symm

theorem Delivers.deliveries {call : DispatchCall} {before after : Sys ω} {result : SendResult}
    (delivers : Delivers call.request before result after) (pair : String × String) :
    deliveries pair after.calls = deliveries pair before.calls +
      (decide (call.pair = pair) && decide (result.status = .sent)).toNat := by
  obtain ⟨errors, sent⟩ := delivers
  rw [sent.calls, deliveries_append, deliveries_answered]

theorem FailsToSend.deliveries {request : SendRequest} {before after : Sys ω}
    (fails : FailsToSend request before after) (pair : String × String) :
    deliveries pair after.calls = deliveries pair before.calls := by
  obtain ⟨errors, sent⟩ := fails
  rw [sent.calls, deliveries_append, deliveries_failedSends, Nat.add_zero]

theorem Delivers.db {request : SendRequest} {before after : Sys ω} {result : SendResult}
    (delivers : Delivers request before result after) : after.db = before.db := by
  obtain ⟨errors, sent⟩ := delivers
  exact sent.db

theorem FailsToSend.db {request : SendRequest} {before after : Sys ω}
    (fails : FailsToSend request before after) : after.db = before.db := by
  obtain ⟨errors, sent⟩ := fails
  exact sent.db

theorem deliveries_sendCalls {pair : String × String} {call : DispatchCall} {result : SendResult}
    {new : List ExternalCall} (sends : SendCalls call.request result new) :
    deliveries pair new = (decide (call.pair = pair) && decide (result.status = .sent)).toNat := by
  cases sends with
  | answered errors => exact deliveries_answered pair call result errors
  | unanswered errors undelivered =>
    rw [deliveries_failedSends, decide_eq_false undelivered, Bool.and_false, Bool.toNat_false]

theorem deliveries_pos_iff {pair : String × String} {calls : List ExternalCall} :
    0 < deliveries pair calls ↔ ∃ request result, .send request (.ok result) ∈ calls ∧
      (request.mismatchKey, request.toEmail) = pair ∧ result.status = .sent := by
  rw [deliveries, List.countP_pos_iff]
  constructor
  · rintro ⟨call, member, delivered⟩
    cases call with
    | send request reply =>
      cases reply with
      | ok result =>
        simp only [deliversTo, Bool.and_eq_true, decide_eq_true_eq] at delivered
        exact ⟨request, result, member, delivered⟩
      | error raised => exact (Bool.false_ne_true delivered).elim
    | proposeFuzzy => exact (Bool.false_ne_true delivered).elim
    | decide => exact (Bool.false_ne_true delivered).elim
    | draftEmail => exact (Bool.false_ne_true delivered).elim
    | storeIncident => exact (Bool.false_ne_true delivered).elim
  · rintro ⟨request, result, member, same, sent⟩
    refine ⟨_, member, ?_⟩
    simp only [deliversTo, Bool.and_eq_true, decide_eq_true_eq]
    exact ⟨same, sent⟩

theorem alreadyNotified_iff {db : Database} {mismatchKey recipientEmail : String} :
    db.alreadyNotified mismatchKey recipientEmail = true ↔
      ∃ row ∈ db.notifications.rows, row.pair = (mismatchKey, recipientEmail) ∧ row.status = .sent := by
  simp [Database.alreadyNotified, NotificationRow.pair, and_assoc]

/-- Recording decides the recorded pair and leaves every other pair as it was. -/
theorem alreadyNotified_recordNotification (db : Database) (row : NotificationRow)
    (pair : String × String) : (db.recordNotification row).alreadyNotified pair.1 pair.2 =
      if row.pair = pair then decide (row.status = .sent) else db.alreadyNotified pair.1 pair.2 := by
  rw [Bool.eq_iff_iff, alreadyNotified_iff]
  simp only [Database.recordNotification, KeyedTable.mem_put]
  split
  · next same =>
    rw [decide_eq_true_eq]
    constructor
    · rintro ⟨other, rfl | ⟨_, different⟩, samePair, sent⟩
      · exact sent
      · exact (different (samePair.trans same.symm)).elim
    · intro sent
      exact ⟨row, Or.inl rfl, same, sent⟩
  · next different =>
    rw [alreadyNotified_iff]
    constructor
    · rintro ⟨other, rfl | ⟨member, _⟩, samePair, sent⟩
      · exact (different samePair).elim
      · exact ⟨other, member, samePair, sent⟩
    · rintro ⟨other, member, samePair, sent⟩
      exact ⟨other, Or.inr ⟨member, fun same => different (same.symm.trans samePair)⟩, samePair, sent⟩

/-- The notification log marks a pair `SENT` exactly when one send for it was delivered, and no
pair was delivered twice. -/
def LogAgrees (sys : Sys ω) : Prop :=
  ∀ pair : String × String,
    deliveries pair sys.calls = (sys.db.alreadyNotified pair.1 pair.2).toNat

theorem logAgrees_fresh (world : ω) : LogAgrees ({ world } : Sys ω) := fun _ => rfl

theorem DispatchEnds.logAgrees {host : Host ω} {call : DispatchCall} {before : Sys ω}
    {ended : EStateM.Result Raised (Sys ω) SendResult} (ends : DispatchEnds host call before ended)
    (agrees : LogAgrees before) : LogAgrees (finalState ended) := by
  cases ends with
  | duplicate notified => exact agrees
  | @recorded result sent new notNotified calls sends =>
    intro pair
    have recordedPair : (call.row result (host.now sent.world)).pair = call.pair := rfl
    rw [finalState_ok, calls.calls, deliveries_append, agrees pair, deliveries_sendCalls sends,
      alreadyNotified_recordNotification, recordedPair]
    by_cases same : call.pair = pair
    · have unsent : before.db.alreadyNotified pair.1 pair.2 = false := same ▸ notNotified
      rw [unsent, if_pos same, decide_eq_true same, Bool.true_and, Bool.toNat_false, Nat.zero_add]
      rfl
    · rw [if_neg same, decide_eq_false same, Bool.false_and, Bool.toNat_false, Nat.add_zero]
  | @escaped raised after notNotified unexpected fails =>
    intro pair
    rw [finalState_error, fails.deliveries, agrees pair, fails.db]

/-! ## Histories -/

/-- Every `SENT` row of one state is in the other, unchanged. -/
def SentKept (before after : Sys ω) : Prop :=
  ∀ row ∈ before.db.notifications.rows, row.status = .sent → row ∈ after.db.notifications.rows

theorem DispatchEnds.sentKept {host : Host ω} {call : DispatchCall} {before : Sys ω}
    {ended : EStateM.Result Raised (Sys ω) SendResult} (ends : DispatchEnds host call before ended) :
    SentKept before (finalState ended) := by
  intro row member sent
  cases ends with
  | duplicate notified => exact member
  | recorded notNotified calls sends =>
    refine KeyedTable.mem_put.mpr (Or.inr ⟨member, fun same => ?_⟩)
    have notified := alreadyNotified_iff.mpr ⟨row, member, same, sent⟩
    exact Bool.false_ne_true (notNotified.symm.trans notified)
  | escaped notNotified unexpected fails =>
    rwa [finalState_error, fails.db]

/-- Dispatches executed one after another; a dispatch that raises leaves its effects. -/
def dispatchAll (service : NotificationService ω) (host : Host ω) (history : List DispatchCall)
    (start : Sys ω) : Sys ω :=
  history.foldl (fun sys call => finalState ((service.dispatch host call).run sys)) start

theorem logAgrees_dispatchAll (service : NotificationService ω) (host : Host ω)
    (history : List DispatchCall) {start : Sys ω} (agrees : LogAgrees start) :
    LogAgrees (dispatchAll service host history start) := by
  induction history generalizing start with
  | nil => exact agrees
  | cons call later ih => exact ih ((dispatch_cases service host call start).logAgrees agrees)

theorem sentKept_dispatchAll (service : NotificationService ω) (host : Host ω)
    (history : List DispatchCall) (start : Sys ω) :
    SentKept start (dispatchAll service host history start) := by
  induction history generalizing start with
  | nil => exact fun _ member _ => member
  | cons call later ih =>
    intro row member sent
    exact ih _ row ((dispatch_cases service host call start).sentKept row member sent) sent

/-- Over any history of dispatches from an empty log, a pair is delivered at most once, has at most
one row, has a `SENT` row exactly when it was delivered, and keeps that row for ever. -/
theorem dispatchAll_at_most_once (service : NotificationService ω) (host : Host ω)
    (history : List DispatchCall) (world : ω) (pair : String × String) :
    let reached := dispatchAll service host history { world }
    deliveries pair reached.calls ≤ 1 ∧
    (reached.db.notifications.rows.map NotificationRow.pair).count pair ≤ 1 ∧
    ((∃ row ∈ reached.db.notifications.rows, row.pair = pair ∧ row.status = .sent) ↔
      ∃ request result, .send request (.ok result) ∈ reached.calls ∧
        (request.mismatchKey, request.toEmail) = pair ∧ result.status = .sent) ∧
    ∀ row ∈ reached.db.notifications.rows, row.pair = pair → row.status = .sent →
      ∀ later, row ∈ (dispatchAll service host later reached).db.notifications.rows := by
  intro reached
  have agrees : LogAgrees reached := logAgrees_dispatchAll service host history (logAgrees_fresh world)
  refine ⟨?_, ?_, ?_, ?_⟩
  · rw [agrees pair]
    exact Bool.toNat_le _
  · exact List.nodup_iff_count_le_one.mp reached.db.notifications.unique pair
  · rw [← deliveries_pos_iff, agrees pair, ← alreadyNotified_iff]
    cases reached.db.alreadyNotified pair.1 pair.2 <;> simp
  · intro row member _ sent later
    exact sentKept_dispatchAll service host later reached row member sent

end ReconcileFlow
