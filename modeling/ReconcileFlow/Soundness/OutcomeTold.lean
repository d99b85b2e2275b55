import ReconcileFlow.Model.Offline
import ReconcileFlow.Soundness.SendAttempts

/-! # Whether an outcome tells that the provider was tried

A skipped dispatch should mean that the provider was left alone, and a failed one that it was asked in
vain. The breaker speaks in place of the provider when a failure of the dispatch trips it, or when it
refuses a retry; the outcome is then the same as without any call. With other answers of the provider
the outcome tells the truth (`dispatch_tells_iff`).
-/

namespace ReconcileFlow

variable {ω : Type}

/-- The answer to a send. -/
def ExternalCall.sendReply? : ExternalCall → Option (Except Raised SendResult)
  | .send _ reply => some reply
  | _ => none

/-- The answers of the notifier from one state to another. -/
def repliesSince (before after : Sys ω) : List (Except Raised SendResult) :=
  (after.calls.drop before.calls.length).filterMap ExternalCall.sendReply?

/-- The result of a dispatch that the breaker kept from the provider. -/
def SendResult.ReportsOpenCircuit (result : SendResult) : Prop :=
  result.status = .skipped ∧ result.reason = some "circuit_open"

/-- The notifier was asked, and raised every time. -/
def NeverSucceeded (replies : List (Except Raised SendResult)) : Prop :=
  replies ≠ [] ∧ ∀ reply ∈ replies, ∃ raised, reply = .error raised

/-- The result is `FAILED` with the error of the last answer, and so is the row of the pair. -/
def RecordsFailure (call : DispatchCall) (replies : List (Except Raised SendResult)) (result : SendResult)
    (after : Sys ω) : Prop :=
  ∃ raised, replies.getLast? = some (.error raised) ∧
    result.status = .failed ∧ result.error = some raised.text ∧
    (after.db.notifications.find? call.pair).map (fun row => (row.status, row.error)) =
      some (.failed, some raised.text)

/-- An open circuit is only reported where the notifier was not asked, and where it was asked in vain its
error is returned and recorded. -/
def TellsWhetherTried (call : DispatchCall) (before : Sys ω) :
    EStateM.Result Raised (Sys ω) SendResult → Prop
  | .ok result after =>
    (result.ReportsOpenCircuit → repliesSince before after = []) ∧
      (NeverSucceeded (repliesSince before after) →
        RecordsFailure call (repliesSince before after) result after)
  | .error _ after => ¬ NeverSucceeded (repliesSince before after)

/-- The last word is the provider's: a result that is not the breaker's own, or an expected error that
does not trip the breaker. -/
inductive SendAttempt.ProviderSpeaks : SendAttempt → Prop
  | returned {result : SendResult} (own : ¬ result.ReportsOpenCircuit) :
      ProviderSpeaks (.answered (.ok result) false)
  | failed (kind : NotifyErrorKind) (text : String) :
      ProviderSpeaks (.answered (.error (.notify kind text)) false)

/-- The breaker refuses the first attempt. -/
def SendTrace.Untried (trace : SendTrace ω) : Prop := trace.earlier = [] ∧ trace.last.2 = .refused

theorem repliesSince_trace (trace : SendTrace ω) {before after : Sys ω} {request : SendRequest}
    (calls : after.calls = before.calls ++ trace.calls request) :
    repliesSince before after = trace.replies := by
  unfold repliesSince
  rw [calls, List.drop_left, SendTrace.calls_eq, List.filterMap_map]
  exact List.filterMap_some

section

variable {trace : SendTrace ω} (retried : ∀ entry ∈ trace.earlier, entry.2.Retried)

theorem SendTrace.replies_eq (trace : SendTrace ω) : trace.replies =
    trace.earlier.filterMap (fun entry => entry.2.reply?) ++ trace.last.2.reply?.toList := by
  unfold SendTrace.replies SendTrace.attempts
  rw [List.filterMap_append, List.filterMap_cons, List.filterMap_nil]
  cases trace.last.2.reply? <;> rfl

include retried

/-- Only a dispatch whose first attempt is refused leaves the notifier alone. -/
theorem SendTrace.replies_eq_nil_iff : trace.replies = [] ↔ trace.Untried := by
  rw [trace.replies_eq, List.append_eq_nil_iff, Option.toList_eq_nil_iff]
  constructor
  · rintro ⟨early, last⟩
    constructor
    · refine List.eq_nil_iff_forall_not_mem.mpr fun entry member => ?_
      obtain ⟨text, failed⟩ := retried entry member
      have unanswered := List.filterMap_eq_nil_iff.mp early entry member
      rw [failed] at unanswered
      cases unanswered
    · cases ended : trace.last.2 with
      | refused => rfl
      | answered reply tripped =>
        rw [ended] at last
        cases last
  · rintro ⟨none, refused⟩
    rw [none, refused]
    exact ⟨rfl, rfl⟩

/-- The answers before the last one are errors. -/
theorem SendTrace.earlier_error {reply : Except Raised SendResult}
    (member : reply ∈ trace.earlier.filterMap fun entry => entry.2.reply?) :
    ∃ raised, reply = .error raised := by
  obtain ⟨entry, present, answer⟩ := List.mem_filterMap.mp member
  obtain ⟨text, failed⟩ := retried entry present
  rw [failed] at answer
  cases answer
  exact ⟨_, rfl⟩

/-- Where the last attempt fails at the notifier, the dispatch never succeeded. -/
theorem SendTrace.neverSucceeded {raised : Raised} {tripped : Bool}
    (last : trace.last.2 = .answered (.error raised) tripped) :
    NeverSucceeded trace.replies ∧ trace.replies.getLast? = some (.error raised) := by
  rw [trace.replies_eq, last]
  refine ⟨⟨List.append_ne_nil_of_right_ne_nil _ (List.cons_ne_nil _ _), fun reply member => ?_⟩, ?_⟩
  · rcases List.mem_append.mp member with early | now
    · exact trace.earlier_error retried early
    · obtain rfl := List.mem_singleton.mp now
      exact ⟨raised, rfl⟩
  · exact List.getLast?_concat

omit retried in
/-- Where the last attempt succeeds, the dispatch succeeded. -/
theorem SendTrace.not_neverSucceeded {result : SendResult} {tripped : Bool}
    (last : trace.last.2 = .answered (.ok result) tripped) : ¬ NeverSucceeded trace.replies := by
  rintro ⟨-, errors⟩
  rw [trace.replies_eq, last] at errors
  obtain ⟨raised, failed⟩ := errors (.ok result) (List.mem_append_right _ List.mem_cons_self)
  cases failed

omit retried in
/-- What is asked of a recorded result. -/
theorem tells_recorded_iff (host : Host ω) (call : DispatchCall) (before : Sys ω) (result : SendResult) :
    TellsWhetherTried call before (.ok result
        { NotificationService.afterTrace call.request trace before with
          db := before.db.recordNotification (call.row result (host.now trace.world)) }) ↔
      (result.ReportsOpenCircuit → trace.replies = []) ∧
        (NeverSucceeded trace.replies → ∃ raised, trace.replies.getLast? = some (.error raised) ∧
          result.status = .failed ∧ result.error = some raised.text) := by
  unfold TellsWhetherTried RecordsFailure
  dsimp only
  rw [repliesSince_trace trace rfl]
  refine and_congr_right fun _ => imp_congr_right fun _ => exists_congr fun raised => and_congr_right fun _ =>
    and_congr_right fun failed => and_iff_left_of_imp fun error => ?_
  have stored := KeyedTable.find?_put before.db.notifications (call.row result (host.now trace.world)) call.pair
  rw [if_pos (show (call.row result (host.now trace.world)).pair = call.pair from rfl)] at stored
  rw [Database.recordNotification, stored, Option.map_some]
  exact congrArg some (Prod.ext failed error)

/-- Reporting an open circuit tells the truth where the first attempt is refused. -/
theorem tells_open_iff (host : Host ω) (call : DispatchCall) (before : Sys ω) {result : SendResult}
    (reports : result.ReportsOpenCircuit) :
    TellsWhetherTried call before (.ok result
        { NotificationService.afterTrace call.request trace before with
          db := before.db.recordNotification (call.row result (host.now trace.world)) }) ↔ trace.Untried := by
  rw [tells_recorded_iff, trace.replies_eq_nil_iff retried]
  refine ⟨fun tells => tells.1 reports, fun untried => ⟨fun _ => untried, fun never => ?_⟩⟩
  exact (never.1 ((trace.replies_eq_nil_iff retried).mpr untried)).elim

/-- The outcome of a dispatch tells whether the provider was tried exactly where its first attempt is
refused or its last word is the provider's. -/
theorem dispatchEnd_tells_iff (host : Host ω) (call : DispatchCall) (before : Sys ω) :
    TellsWhetherTried call before (NotificationService.dispatchEnd host call before trace) ↔
      trace.Untried ∨ trace.last.2.ProviderSpeaks := by
  have tried : ∀ {reply tripped}, trace.last.2 = .answered reply tripped → ¬ trace.Untried := by
    rintro reply tripped last ⟨-, refused⟩
    rw [refused] at last
    cases last
  unfold NotificationService.dispatchEnd
  match last : trace.last.2 with
  | .refused =>
    refine (tells_open_iff retried host call before ⟨rfl, rfl⟩).trans (or_iff_left ?_).symm
    rintro ⟨⟩
  | .answered reply true =>
    refine (tells_open_iff retried host call before ⟨rfl, rfl⟩).trans (or_iff_left ?_).symm
    rintro ⟨⟩
  | .answered (.ok result) false =>
    rw [or_iff_right (tried last)]
    refine (tells_recorded_iff host call before _).trans ?_
    rw [trace.replies_eq_nil_iff retried]
    constructor
    · exact fun tells => .returned fun reports => tried last (tells.1 reports)
    · rintro ⟨own⟩
      exact ⟨fun reports => (own reports).elim, fun never => (trace.not_neverSucceeded last never).elim⟩
  | .answered (.error raised) false =>
    obtain ⟨never, lastReply⟩ := trace.neverSucceeded retried last
    have silent : ∀ after, after.calls = before.calls ++ trace.calls call.request →
        ¬ TellsWhetherTried call before (.error raised after) := by
      intro after calls tells
      rw [TellsWhetherTried, repliesSince_trace trace calls] at tells
      exact tells never
    rw [or_iff_right (tried last)]
    cases raised with
    | notify kind text =>
      refine (tells_recorded_iff host call before _).trans ?_
      refine iff_of_true ⟨?_, fun _ => ⟨.notify kind text, lastReply, rfl, rfl⟩⟩ (.failed kind text)
      rintro ⟨skipped, -⟩
      cases skipped
    | circuitBreaker text =>
      refine (tells_open_iff retried host call before ⟨rfl, rfl⟩).trans (iff_of_false (tried last) ?_)
      rintro ⟨⟩
    | integrity text | value text | other text =>
      refine iff_of_false (silent _ rfl) ?_
      rintro ⟨⟩

end

/-- The outcome of a dispatch tells whether the provider was tried exactly where the pair was notified
before, the breaker refuses the first attempt, or the last attempt is answered by the provider without
tripping the breaker: by a result that is not the breaker's own, or by a notifier error. -/
theorem dispatch_tells_iff (service : NotificationService ω) (host : Host ω) (call : DispatchCall)
    (before : Sys ω) :
    TellsWhetherTried call before ((service.dispatch host call).run before) ↔
      before.db.alreadyNotified call.mismatchKey call.recipientEmail = true ∨
        (service.dispatchTrace call before.world).Untried ∨
        (service.dispatchTrace call before.world).last.2.ProviderSpeaks := by
  rw [service.dispatch_run]
  split
  · next notified =>
    refine iff_of_true ?_ (Or.inl notified)
    have silent : repliesSince before before = [] := by simp [repliesSince]
    rw [TellsWhetherTried, silent]
    exact ⟨fun _ => rfl, fun never => (never.1 rfl).elim⟩
  · next fresh =>
    rw [or_iff_right fresh]
    exact dispatchEnd_tells_iff (service.sendTrace_earlier _ _ _) host call before

/-- Three failed attempts open a breaker that allows three failures: the provider was tried three times,
and the dispatch is returned and recorded as skipped. -/
theorem tripping_dispatch_skipped :
    ∃ result after, ((unreachableService 3).dispatch (fixedHost 0) makeCall).run closedStart = .ok result after ∧
      result.ReportsOpenCircuit ∧ (repliesSince closedStart after).length = 3 ∧
      (after.db.notifications.find? makeCall.pair).map NotificationRow.status = some .skipped ∧
      ¬ TellsWhetherTried makeCall closedStart (.ok result after) := by
  refine ⟨_, _, rfl, ⟨rfl, rfl⟩, rfl, rfl, fun tells => ?_⟩
  have untried := congrArg List.length (tells.1 ⟨rfl, rfl⟩)
  cases untried

end ReconcileFlow
