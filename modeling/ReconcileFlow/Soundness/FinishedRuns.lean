import ReconcileFlow.Soundness.History
import ReconcileFlow.Soundness.RunRecords

/-! # The notifications of a finished run

The notification log has one row for a pair, whichever run recorded it last. A later run writes the
row of a pair it dispatches under its own id, so it can take rows out of the list of an earlier run.
It takes none that is `SENT`, since such a pair is not dispatched again, and it never adds to the
list, since the id of a recorded run is not given out twice.
-/

namespace ReconcileFlow

open EffectRun ReconciliationAgent ScheduledRun

variable {ω : Type}

/-- The notifications of the run lost at most rows that are not `SENT` and whose pair is now recorded
under another id. -/
structure NotificationsKept (runId : String) (before after : Sys ω) : Prop where
  sublist : (after.db.listNotifications runId).Sublist (before.db.listNotifications runId)
  sent : SentKept before after
  moved : ∀ row ∈ before.db.notifications.rows, row ∉ after.db.notifications.rows →
    ∃ row' ∈ after.db.notifications.rows, row'.pair = row.pair ∧ row'.runId ≠ runId

namespace NotificationsKept

variable {runId : String}

theorem of_notifications {before after : Sys ω} (same : after.db.notifications = before.db.notifications) :
    NotificationsKept runId before after where
  sublist := by
    unfold Database.listNotifications
    rw [same]
  sent row member _ := same ▸ member
  moved row member gone := (gone (same ▸ member)).elim

instance : IsPreorder (Sys ω) (NotificationsKept runId) where
  refl _ := .of_notifications rfl
  trans before between after first second := by
    refine ⟨second.sublist.trans first.sublist, first.sent.trans second.sent, fun row member gone => ?_⟩
    by_cases present : row ∈ between.db.notifications.rows
    · exact second.moved row present gone
    · obtain ⟨row', stored, pair, other⟩ := first.moved row member present
      by_cases kept : row' ∈ after.db.notifications.rows
      · exact ⟨row', kept, pair, other⟩
      · obtain ⟨row'', last, lastPair, lastOther⟩ := second.moved row' stored kept
        exact ⟨row'', last, lastPair.trans pair, lastOther⟩

theorem nodeFrame : NodeFrame (NotificationsKept runId : Sys ω → Sys ω → Prop) where
  world _ _ := .of_notifications rfl
  rollback _ := .of_notifications rfl
  audit _ _ _ := .of_notifications rfl
  judge _ _ _ := .of_notifications rfl

theorem lifecycleFrame : LifecycleFrame (NotificationsKept runId : Sys ω → Sys ω → Prop) where
  upsert _ _ _ _ _ _ := .of_notifications rfl
  sweep _ _ _ _ := .of_notifications rfl

theorem runFrame : RunFrame (NotificationsKept runId : Sys ω → Sys ω → Prop) where
  runs _ _ := .of_notifications rfl
  incident _ _ _ := .of_notifications rfl
  stored _ _ := .of_notifications rfl

end NotificationsKept

/-- A dispatch of another run. -/
theorem DispatchEnds.notificationsKept {host : Host ω} {call : DispatchCall} {before : Sys ω}
    {ended : EStateM.Result Raised (Sys ω) SendResult} (ends : DispatchEnds host call before ended)
    {runId : String} (other : call.runId ≠ runId) : NotificationsKept runId before (finalState ended) := by
  have sent := ends.sentKept
  cases ends with
  | duplicate notified => exact .of_notifications rfl
  | @recorded result between new notNotified calls sends =>
    let row := call.row result (host.now between.world)
    have outside : decide (row.runId = runId) = false := decide_eq_false other
    refine ⟨KeyedTable.filter_put_sublist outside, sent, fun old member gone => ?_⟩
    refine ⟨row, KeyedTable.mem_put.mpr (.inl rfl), ?_, other⟩
    by_contra different
    exact gone (KeyedTable.mem_put.mpr (.inr ⟨member, Ne.symm different⟩))
  | escaped notNotified unexpected fails =>
    exact .of_notifications (congrArg Database.notifications fails.db)

theorem mailsWithin_notificationsKept (service : NotificationService ω) (host : Host ω)
    {runId other : String} (different : other ≠ runId) :
    MailsWithin (NotificationsKept runId) service host other := by
  rintro call rfl sys
  exact (dispatch_cases service host call sys).notificationsKept different

/-- A run that starts closes the record it started with. -/
theorem run_closes {deps : AgentDependencies ω} {request : RunRequest} {before : Sys ω}
    (fresh : before.db.runs.find? (chosenRunId deps.host request before.world) = none) :
    ∃ row, row.id = chosenRunId deps.host request before.world ∧
      RecordClosed before row (finalState ((ReconciliationAgent.run deps request).run before)) := by
  have kept := graphRun_keeps deps request before
  cases graph : graphRun deps request before with
  | ok final ended =>
    rw [graph] at kept
    rw [run_of_graph_returns fresh graph]
    exact ⟨_, rfl, recordClosed_finishRun deps request kept.runs _ _ _⟩
  | error raised ended =>
    rw [graph, finalState_error] at kept
    obtain ⟨incident, written, mailed, outcome, after, ran, recorded⟩ := handleFailure_recorded kept raised
    rw [run_of_graph_raises fresh graph, ran]
    exact ⟨_, rfl, recorded.record⟩

/-- A later run leaves the run recorded, and takes from its notifications only what it may. -/
theorem leaves_notificationsKept (run : ScheduledRun ω) {sys : Sys ω} {runId : String}
    (recorded : (sys.db.runs.find? runId).isSome = true) :
    ((run.leaves sys).db.runs.find? runId).isSome = true ∧ NotificationsKept runId sys (run.leaves sys) := by
  have moved : NotificationsKept runId sys (run.finds sys) := .of_notifications rfl
  unfold ScheduledRun.leaves
  cases found : (run.finds sys).db.runs.find? (chosenRunId run.deps.host run.request (run.finds sys).world) with
  | some row =>
    rw [run_of_taken found]
    exact ⟨recorded, .of_notifications rfl⟩
  | none =>
    have different : chosenRunId run.deps.host run.request (run.finds sys).world ≠ runId := by
      intro same
      rw [same] at found
      rw [show sys.db.runs.find? runId = none from found] at recorded
      cases recorded
    obtain ⟨row, id, closed⟩ := run_closes found
    rw [closed.others runId (by rw [id]; exact different.symm)]
    refine ⟨recorded, trans_of _ moved ?_⟩
    exact run_keeps NotificationsKept.nodeFrame.session (NotificationsKept.nodeFrame.graph _) (NotificationsKept.nodeFrame.host _)
      NotificationsKept.lifecycleFrame NotificationsKept.runFrame run.request (run.finds sys)
      (mailsWithin_notificationsKept _ _ different)
      fun notifications _ => mailsWithin_notificationsKept notifications _ different

/-- Whatever runs follow, the notifications of a recorded run stay as they are, in their order, except
that a row which is not `SENT` leaves the list when its pair is recorded again under another run. -/
theorem notifications_over_history {start : Sys ω} {runId : String}
    (recorded : (start.db.runs.find? runId).isSome = true) (later : List (ScheduledRun ω)) :
    let first := start.db.listNotifications runId
    let last := (runAll start later).db.listNotifications runId
    last.Sublist first ∧ ∀ row ∈ first, row ∉ last → row.status ≠ .sent ∧
      ∃ row' ∈ (runAll start later).db.notifications.rows, row'.pair = row.pair ∧ row'.runId ≠ runId := by
  intro first last
  have kept : NotificationsKept runId start (runAll start later) := by
    suffices all : ∀ sys : Sys ω, (sys.db.runs.find? runId).isSome = true →
        NotificationsKept runId sys (runAll sys later) from all start recorded
    induction later with
    | nil => exact fun sys _ => refl_of _ sys
    | cons run rest ih =>
      intro sys stored
      obtain ⟨still, moved⟩ := leaves_notificationsKept run stored
      exact trans_of _ moved (ih (run.leaves sys) still)
  refine ⟨kept.sublist, fun row member gone => ?_⟩
  obtain ⟨present, own⟩ := List.mem_filter.mp member
  have absent : row ∉ (runAll start later).db.notifications.rows := fun stored =>
    gone (List.mem_filter.mpr ⟨stored, own⟩)
  exact ⟨fun sent => absent (kept.sent row present sent), kept.moved row present absent⟩

/-- A notifier whose mailbox is gone. -/
def rejectingNotifier : Notifier ω where
  send _ world := (.error (.notify .permanent "mailbox unavailable"), world)

/-- One file in two runs: the first cannot deliver its mail, the second can. -/
def retriedHistory : List (ScheduledRun Unit) :=
  let unpaid : RunRequest := { orders := [makeOrder], settlements := [] }
  [⟨buildDependencies shippedConfig (scriptedLlm (.ok {})) rejectingNotifier closedBreaker
      (fixedHost (defaultDate + 2)), { unpaid with runId := some "run-1" }, ()⟩,
    ⟨scriptedDependencies (.ok {}), { unpaid with runId := some "run-2" }, ()⟩]

theorem notifications_over_retried :
    ∃ row ∈ (runAll emptyStart (retriedHistory.take 1)).db.listNotifications "run-1", row.status ≠ .sent ∧
      ∃ row' ∈ (runAll (runAll emptyStart (retriedHistory.take 1)) (retriedHistory.drop 1)).db.notifications.rows,
        row'.pair = row.pair ∧ row'.runId ≠ "run-1" := by
  have recorded : ((runAll emptyStart (retriedHistory.take 1)).db.runs.find? "run-1").isSome = true := by
    decide +kernel
  have gone : ∃ row ∈ (runAll emptyStart (retriedHistory.take 1)).db.listNotifications "run-1",
      row ∉ (runAll (runAll emptyStart (retriedHistory.take 1)) (retriedHistory.drop 1)).db.listNotifications
        "run-1" := by
    decide +kernel
  obtain ⟨row, member, absent⟩ := gone
  exact ⟨row, member, (notifications_over_history recorded (retriedHistory.drop 1)).2 row member absent⟩

/-- The failed notification of the first run is gone from its record after the second. -/
theorem retried_notification_leaves_record :
    ((runAll emptyStart (retriedHistory.take 1)).db.runs.find? "run-1").map RunLogRow.status = some .completed ∧
      (runAll (runAll emptyStart (retriedHistory.take 1)) (retriedHistory.drop 1)).db.listNotifications "run-1" ≠
        (runAll emptyStart (retriedHistory.take 1)).db.listNotifications "run-1" := by
  decide +kernel

end ReconcileFlow
