import ReconcileFlow.Soundness.FinishedRuns
import ReconcileFlow.Soundness.RunTrail

/-! # The page of a run

`GET /runs/{run_id}` shows the record of a run, its audit events and its notifications. Later runs have ids
of their own, close their own records and log under their own ids, so the page stays as it is but for
notifications that were not delivered: a pair that is tried again moves to the run that tries it.
-/

namespace ReconcileFlow

open EffectRun ReconciliationAgent ScheduledRun

variable {ω : Type}

/-- A run logs under its own id, behind what was logged before. -/
theorem run_logs_own (deps : AgentDependencies ω) (request : RunRequest) (before : Sys ω) :
    ∃ rows, (finalState ((ReconciliationAgent.run deps request).run before)).db.audit = before.db.audit ++ rows ∧
      ∀ row ∈ rows, row.runId = chosenRunId deps.host request before.world := by
  cases completed : completedRun deps request before with
  | some ended =>
    obtain ⟨outcome, completes⟩ := completes_of_completedRun completed
    obtain ⟨decided, lists, drafted, opened, verified, stages, -, same⟩ := completes.stages
    obtain ⟨rows, audit, own, -⟩ := stages.reachesLast
    rw [completes.ran, finalState_ok, same, audit_concluded, audit]
    exact ⟨rows, rfl, own⟩
  | none =>
    obtain ⟨rows, audit, own, -⟩ := trail_of_incomplete completed
    exact ⟨rows, audit, own⟩

/-- What a later run may do to the page of a recorded run. -/
structure PageKept (runId : String) (before after : Sys ω) : Prop where
  run : after.db.getRun runId = before.db.getRun runId
  events : after.db.listEvents runId = before.db.listEvents runId
  notifications : NotificationsKept runId before after

namespace PageKept

variable {runId : String}

instance : IsPreorder (Sys ω) (PageKept runId) where
  refl sys := ⟨rfl, rfl, refl_of (NotificationsKept runId) sys⟩
  trans _ _ _ first second := ⟨second.run.trans first.run, second.events.trans first.events,
    trans_of (NotificationsKept runId) first.notifications second.notifications⟩

/-- The page after a stretch that keeps it. -/
theorem page {before after : Sys ω} (kept : PageKept runId before after) {shown : RunDetail}
    (page : runDetail before.db runId = some shown) :
    ∃ shown', runDetail after.db runId = some shown' ∧ shown'.run = shown.run ∧ shown'.events = shown.events ∧
      shown'.notifications.Sublist shown.notifications ∧
      ∀ view ∈ shown.notifications, view.status = NotificationStatus.sent.value → view ∈ shown'.notifications := by
  obtain ⟨row, found, rfl⟩ := Option.map_eq_some_iff.mp page
  have stored : after.db.getRun runId = some row := kept.run.trans found
  refine ⟨_, Option.map_eq_some_iff.mpr ⟨row, stored, rfl⟩, rfl, ?_, kept.notifications.sublist.map _, ?_⟩
  · dsimp only
    rw [kept.events]
  · intro view member delivered
    obtain ⟨notification, listed, rfl⟩ := List.mem_map.mp member
    obtain ⟨present, own⟩ := List.mem_filter.mp listed
    have value : notification.status.value = NotificationStatus.sent.value := delivered
    have sent : notification.status = .sent := by
      revert value
      cases notification.status <;> decide
    have still := kept.notifications.sent notification present sent
    exact List.mem_map_of_mem (List.mem_filter.mpr ⟨still, own⟩)

end PageKept

/-- A later run leaves the run recorded, and its page as far as it must. -/
theorem leaves_pageKept (run : ScheduledRun ω) {sys : Sys ω} {runId : String}
    (recorded : (sys.db.runs.find? runId).isSome = true) :
    ((run.leaves sys).db.runs.find? runId).isSome = true ∧ PageKept runId sys (run.leaves sys) := by
  obtain ⟨still, notifications⟩ := leaves_notificationsKept run recorded
  refine ⟨still, ?_⟩
  cases found : (run.finds sys).db.runs.find? (chosenRunId run.deps.host run.request (run.finds sys).world) with
  | some row =>
    have unchanged : (run.leaves sys).db = sys.db := by
      unfold ScheduledRun.leaves
      rw [run_of_taken found]
      rfl
    exact ⟨by rw [unchanged], by rw [unchanged], notifications⟩
  | none =>
    have different : chosenRunId run.deps.host run.request (run.finds sys).world ≠ runId := by
      rintro rfl
      rw [show sys.db.runs.find? _ = none from found] at recorded
      cases recorded
    obtain ⟨row, id, closed⟩ := run_closes found
    obtain ⟨rows, audit, own⟩ := run_logs_own run.deps run.request (run.finds sys)
    have others : rows.filter (fun row => row.runId = runId) = [] := by
      refine List.filter_eq_nil_iff.mpr fun row member => ?_
      rw [decide_eq_true_eq, own row member]
      exact different
    refine ⟨closed.others runId (by rw [id]; exact different.symm), ?_, notifications⟩
    unfold Database.listEvents ScheduledRun.leaves
    rw [audit, List.filter_append, others, List.append_nil]
    rfl

/-- Whatever runs follow, a recorded run keeps its page: its record, its events in their order and every
delivered notification stay; only notifications that were not delivered may leave the page. -/
theorem run_page_over_history {start : Sys ω} {runId : String} {shown : RunDetail}
    (page : runDetail start.db runId = some shown) (later : List (ScheduledRun ω)) :
    ∃ shown', runDetail (runAll start later).db runId = some shown' ∧
      shown'.run = shown.run ∧ shown'.events = shown.events ∧
      shown'.notifications.Sublist shown.notifications ∧
      ∀ view ∈ shown.notifications, view.status = NotificationStatus.sent.value → view ∈ shown'.notifications := by
  obtain ⟨row, found, -⟩ := Option.map_eq_some_iff.mp page
  have recorded : (start.db.runs.find? runId).isSome = true := Option.isSome_iff_exists.mpr ⟨row, found⟩
  have kept : PageKept runId start (runAll start later) := by
    suffices all : ∀ sys : Sys ω, (sys.db.runs.find? runId).isSome = true → PageKept runId sys (runAll sys later) from
      all start recorded
    induction later with
    | nil => exact fun sys _ => refl_of (PageKept runId) sys
    | cons run rest ih =>
      intro sys stored
      obtain ⟨still, moved⟩ := leaves_pageKept run stored
      exact trans_of (PageKept runId) moved (ih (run.leaves sys) still)
  exact kept.page page

/-- The failed mail of the first run leaves its page when the second delivers it. -/
theorem run_page_over_retried :
    ∃ shown shown', runDetail (runAll emptyStart (retriedHistory.take 1)).db "run-1" = some shown ∧
      runDetail (runAll (runAll emptyStart (retriedHistory.take 1)) (retriedHistory.drop 1)).db "run-1" = some shown' ∧
      shown.events.length = 5 ∧ shown'.events = shown.events ∧
      shown'.notifications.length < shown.notifications.length := by
  have reached : (runDetail (runAll emptyStart (retriedHistory.take 1)).db "run-1").any
      (fun shown => shown.events.length = 5 ∧ shown.notifications.length = 1) = true := by
    decide +kernel
  have emptied : ((runDetail (runAll (runAll emptyStart (retriedHistory.take 1)) (retriedHistory.drop 1)).db
      "run-1").all fun shown => shown.notifications = []) = true := by
    decide +kernel
  obtain ⟨shown, page, passes⟩ := (Option.any_eq_true _ _).mp reached
  obtain ⟨five, one⟩ := of_decide_eq_true passes
  obtain ⟨shown', page', -, events, -⟩ := run_page_over_history page (retriedHistory.drop 1)
  have none := of_decide_eq_true ((Option.all_eq_true _ _).mp emptied shown' page')
  refine ⟨shown, shown', page, page', five, events, ?_⟩
  rw [none, one]
  exact Nat.zero_lt_one

end ReconcileFlow
