import ReconcileFlow.Soundness.Closing
import ReconcileFlow.Soundness.DryRunLifecycle
import ReconcileFlow.Soundness.SendAttempts

/-! # Whether a recorded contact was made

A lifecycle row that is `ESCALATED` or `AWAITING_RECHECK` says that somebody was written to. The dispatch
loop lists its entries whatever becomes of the mails, so the table says so as well where every attempt
failed or the breaker refused it. Over every history the rows of a run are right exactly when each key
it marks so was contacted before or has a mail in the run that goes out (`contacts_kept_iff`).
-/

namespace ReconcileFlow

open EffectRun ReconciliationAgent ScheduledRun

variable {ω : Type}

/-- The status says that somebody was written to. -/
def ExceptionLifecycleStatus.claimsContact : ExceptionLifecycleStatus → Bool
  | .escalated | .awaitingRecheck => true
  | .opened | .resolved => false

/-- A mail under the key was sent. -/
def Database.Contacted (db : Database) (mismatchKey : String) : Prop :=
  ∃ row ∈ db.notifications.rows, row.mismatchKey = mismatchKey ∧ row.status = .sent

/-- Whoever a row of the run claims was written to was sent a mail under its key. -/
def ContactsMade (runId : String) (after : Sys ω) : Prop :=
  ∀ row ∈ after.db.exceptions.rows, row.runId = runId → row.status.claimsContact = true →
    after.db.Contacted row.mismatchKey

/-- Right after every completed run of the history the rows it wrote claim no contact in vain. -/
def ContactsKept (start : Sys ω) (runs : List (ScheduledRun ω)) : Prop :=
  ∀ past run later, runs = past ++ run :: later → ∀ final outcome after,
    Completes run.deps run.request (run.finds (runAll start past)) final outcome after →
      ContactsMade outcome.runId after

/-- What `dispatch_node` hands to the service for a target. -/
def targetCall (state : ReconciliationState) (target : RecipientTarget) (draft : EmailDraft) : DispatchCall where
  runId := state.runId
  mismatchKey := target.mismatchKey
  recipientRole := target.role
  recipientEmail := target.email
  subject := draft.subject
  body := draft.body

/-- The last attempt of the call is admitted by the breaker, and answered with `SENT`. -/
def NotificationService.Delivers (service : NotificationService ω) (call : DispatchCall) (world : ω) : Prop :=
  ∃ result, (service.dispatchTrace call world).last.2.outcome = .ok result ∧ result.status = .sent

/-- The mail to the target is drafted and delivered when its turn comes in this state. -/
def GoesOut (deps : AgentDependencies ω) (state : ReconciliationState)
    (one : ExceptionRecord × ExceptionDecision) (target : RecipientTarget) (sys : Sys ω) : Prop :=
  let tag := (targetsForAction deps.config one.1 one.2.action).1
  ∃ draft drafted, (callOutside (.draftEmail one.1 target.role tag)
      (deps.llm.draftEmail one.1 target.role tag)).run sys = .ok draft drafted ∧
    deps.notifications.Delivers (targetCall state target draft) drafted.world

/-- Among the targets of one pass comes one with the key whose mail goes out. -/
def PassContacts (deps : AgentDependencies ω) (state : ReconciliationState) (mismatchKey : String)
    (one : ExceptionRecord × ExceptionDecision) (lists : DispatchLists) (sys : Sys ω) : Prop :=
  let (tag, status, _) := targetsForAction deps.config one.1 one.2.action
  ∃ target reached met, LoopReaches (dispatchTarget deps state one.1 one.2.action tag status)
      (mailedTargets deps.config one) lists sys target reached met ∧
    target.mismatchKey = mismatchKey ∧ GoesOut deps state one target met

/-- The run comes to a target with the key whose mail goes out. -/
def RunContacts (deps : AgentDependencies ω) (request : RunRequest) (before : Sys ω)
    (mismatchKey : String) : Prop :=
  ∃ decided decidedSys, ReachesDispatch deps request before decided decidedSys ∧
    ∃ one lists sys, LoopReaches (dispatchException deps decided) (decidedPairs decided) {} decidedSys
      one lists sys ∧ PassContacts deps decided mismatchKey one lists sys

/-- Whatever the history, a key that a completed run marks last as `ESCALATED` or `AWAITING_RECHECK` was
contacted before the run, or a mail under it goes out in the run. -/
def MarksContacted (start : Sys ω) (runs : List (ScheduledRun ω)) : Prop :=
  ∀ past run later, runs = past ++ run :: later →
    (completedRun run.deps run.request (run.finds (runAll start past))).isSome = true →
    ∀ key status, Snapshot.lastValue
        (fileEntries run.deps run.request (run.finds (runAll start past))) key = some status →
      status.claimsContact = true →
        (runAll start past).db.Contacted key ∨ RunContacts run.deps run.request (run.finds (runAll start past)) key

/-- A pair that was not notified is contacted by its own row alone. -/
theorem contacted_recordNotification {db : Database} {row : NotificationRow}
    (fresh : db.alreadyNotified row.mismatchKey row.recipientEmail = false) (mismatchKey : String) :
    (db.recordNotification row).Contacted mismatchKey ↔
      db.Contacted mismatchKey ∨ row.mismatchKey = mismatchKey ∧ row.status = .sent := by
  unfold Database.Contacted Database.recordNotification
  simp only [KeyedTable.mem_put]
  constructor
  · rintro ⟨other, rfl | ⟨member, -⟩, key, sent⟩
    · exact .inr ⟨key, sent⟩
    · exact .inl ⟨other, member, key, sent⟩
  · rintro (⟨other, member, key, sent⟩ | ⟨key, sent⟩)
    · refine ⟨other, .inr ⟨member, fun same => ?_⟩, key, sent⟩
      have notified := alreadyNotified_iff.mpr ⟨other, member, same, sent⟩
      exact Bool.false_ne_true (fresh.symm.trans notified)
    · exact ⟨row, .inl rfl, key, sent⟩

theorem dispatch_contacts {service : NotificationService ω} {host : Host ω} {call : DispatchCall}
    {before after : Sys ω} {result : SendResult}
    (success : (service.dispatch host call).run before = .ok result after) (mismatchKey : String) :
    after.db.Contacted mismatchKey ↔ before.db.Contacted mismatchKey ∨
      call.mismatchKey = mismatchKey ∧ service.Delivers call before.world := by
  rw [service.dispatch_run] at success
  split at success
  · next notified =>
    cases success
    refine (or_iff_left_of_imp ?_).symm
    rintro ⟨rfl, -⟩
    obtain ⟨row, member, same, sent⟩ := alreadyNotified_iff.mp notified
    exact ⟨row, member, congrArg Prod.fst same, sent⟩
  · next fresh =>
    rw [Bool.not_eq_true] at fresh
    unfold NotificationService.dispatchEnd at success
    unfold NotificationService.Delivers
    dsimp only at success
    split at success
    · next answer answered =>
      cases success
      rw [answered]
      refine (contacted_recordNotification fresh mismatchKey).trans (or_congr_right (and_congr_right fun _ => ?_))
      constructor
      · exact fun sent => ⟨_, rfl, sent⟩
      · rintro ⟨_, ⟨⟩, sent⟩
        exact sent
    · next raised failed =>
      rw [failed]
      split at success
      · next undelivered expected =>
        cases success
        refine (contacted_recordNotification fresh mismatchKey).trans (or_congr_right (and_congr_right fun _ => ?_))
        refine iff_of_false (expectedFailure_not_sent expected) ?_
        rintro ⟨_, ⟨⟩, -⟩
      · cases success

section Loop

variable {deps : AgentDependencies ω} {state : ReconciliationState} (wet : state.dryRun = false)
include wet

theorem dispatchOne_contacts {target : RecipientTarget} {draft : EmailDraft} {result : SendResult}
    {before after : Sys ω} (success : (dispatchOne deps state target draft).run before = .ok result after)
    (mismatchKey : String) : after.db.Contacted mismatchKey ↔ before.db.Contacted mismatchKey ∨
      target.mismatchKey = mismatchKey ∧
        deps.notifications.Delivers (targetCall state target draft) before.world := by
  unfold dispatchOne at success
  rw [wet, if_neg Bool.false_ne_true] at success
  exact dispatch_contacts success mismatchKey

theorem dispatchTarget_contacts {one : ExceptionRecord × ExceptionDecision}
    {status : ExceptionLifecycleStatus} {target : RecipientTarget} {lists lists' : DispatchLists}
    {before after : Sys ω} (success : (dispatchTarget deps state one.1 one.2.action
      (targetsForAction deps.config one.1 one.2.action).1 status lists target).run before = .ok lists' after)
    (mismatchKey : String) : after.db.Contacted mismatchKey ↔ before.db.Contacted mismatchKey ∨
      target.mismatchKey = mismatchKey ∧ GoesOut deps state one target before := by
  obtain ⟨draft, drafted, drafts, success⟩ := bind_eq_ok_iff.mp success
  obtain ⟨result, mailed, sends, finished⟩ := bind_eq_ok_iff.mp success
  cases finished
  have quiet : Quiet before drafted := ((quiet_nodeFrame.graph deps.llm).draftEmail _ _ _).of_ok drafts
  have same : drafted.db.Contacted mismatchKey ↔ before.db.Contacted mismatchKey := by
    unfold Database.Contacted
    rw [quiet.notifications]
  rw [dispatchOne_contacts wet sends, same]
  refine or_congr_right (and_congr_right fun _ => ⟨fun delivers => ⟨draft, drafted, drafts, delivers⟩, ?_⟩)
  rintro ⟨_, _, again, delivers⟩
  rw [drafts] at again
  cases again
  exact delivers

/-- A pass contacts nobody but by a mail to one of its targets that goes out. -/
theorem dispatchException_contacts {one : ExceptionRecord × ExceptionDecision} {lists lists' : DispatchLists}
    {before after : Sys ω} (success : (dispatchException deps state lists one).run before = .ok lists' after)
    (mismatchKey : String) : after.db.Contacted mismatchKey ↔ before.db.Contacted mismatchKey ∨
      PassContacts deps state mismatchKey one lists before := by
  unfold dispatchException at success
  unfold PassContacts mailedTargets
  split at success
  · next waits =>
    cases success
    refine (or_iff_left ?_).symm
    rw [if_pos waits]
    rintro ⟨target, reached, met, ⟨⟩, -⟩
  · next acts =>
    rw [if_neg acts]
    exact foldlM_brings_iff (fun _ sys => sys.db.Contacted mismatchKey)
      (fun target _ sys => target.mismatchKey = mismatchKey ∧ GoesOut deps state one target sys)
      (fun _ _ _ _ _ stepped => dispatchTarget_contacts wet stepped mismatchKey) success

theorem dispatchLoop_contacts {decided : List (ExceptionRecord × ExceptionDecision)} {lists : DispatchLists}
    {before after : Sys ω}
    (success : (decided.foldlM (dispatchException deps state) {}).run before = .ok lists after)
    (mismatchKey : String) : after.db.Contacted mismatchKey ↔ before.db.Contacted mismatchKey ∨
      ∃ one reached met, LoopReaches (dispatchException deps state) decided {} before one reached met ∧
        PassContacts deps state mismatchKey one reached met :=
  foldlM_brings_iff (fun _ sys => sys.db.Contacted mismatchKey) (PassContacts deps state mismatchKey)
    (fun _ _ _ _ _ stepped => dispatchException_contacts wet stepped mismatchKey) success

end Loop

theorem contacted_congr {before after : Sys ω} (same : after.db.notifications = before.db.notifications)
    (mismatchKey : String) : after.db.Contacted mismatchKey ↔ before.db.Contacted mismatchKey := by
  unfold Database.Contacted
  rw [same]

/-- Up to the dispatch loop nobody is written to, and the dry-run flag stays. -/
theorem ReconciliationAgent.ReachesDispatch.quiet {deps : AgentDependencies ω} {request : RunRequest} {before decidedSys : Sys ω}
    {decided : ReconciliationState} (reached : ReachesDispatch deps request before decided decidedSys) :
    Quiet before decidedSys ∧ decided.dryRun = request.dryRun := by
  obtain ⟨begun, started, sorted, sortedSys, begins, sorts, decides⟩ := reached
  obtain ⟨-, rfl, rfl⟩ := beginRun_ok begins
  have starts : Quiet before (startedSys deps request before) := ⟨rfl, rfl, rfl, fun _ => rfl⟩
  have sorting := (keeps_sortNodes (quiet_nodeFrame.graph deps.llm) _).of_ok sorts
  have deciding := (keeps_decideNode (quiet_nodeFrame.graph deps.llm) _).of_ok decides
  refine ⟨trans_of Quiet starts (trans_of Quiet sorting deciding), ?_⟩
  rw [decideNode_ok decides]
  exact sortNodes_dryRun sorts

/-- A run comes to its dispatch loop in one way. -/
theorem ReconciliationAgent.ReachesDispatch.unique {deps : AgentDependencies ω} {request : RunRequest} {before : Sys ω}
    {decided decided' : ReconciliationState} {decidedSys decidedSys' : Sys ω}
    (first : ReachesDispatch deps request before decided decidedSys)
    (second : ReachesDispatch deps request before decided' decidedSys') :
    decided' = decided ∧ decidedSys' = decidedSys := by
  obtain ⟨begun, started, sorted, sortedSys, begins, sorts, decides⟩ := first
  obtain ⟨begun', started', sorted', sortedSys', begins', sorts', decides'⟩ := second
  rw [begins] at begins'
  cases begins'
  rw [sorts] at sorts'
  cases sorts'
  rw [decides] at decides'
  cases decides'
  exact ⟨rfl, rfl⟩

/-- The rows under the keys of the lifecycle list are written under the id of the run. -/
theorem recordDispatch_writes {deps : AgentDependencies ω} {runId : String} {lists : DispatchLists}
    {before after : Sys ω} (success : (recordDispatch deps runId lists).run before = .ok () after) :
    ∀ row ∈ after.db.exceptions.rows, row.mismatchKey ∈ lists.lifecycle.map LifecycleEntry.mismatchKey →
      row.runId = runId := by
  obtain ⟨_, upserted, upserts, logs⟩ := bind_eq_ok_iff.mp (of_withSession_ok success)
  have same : after.db.exceptions = upserted.db.exceptions :=
    foldlM_invariant (fun _ _ (sys : Sys ω) => sys.db.exceptions = upserted.db.exceptions)
      (fun _ _ _ _ _ _ kept stepped => by
        cases stepped
        exact kept) rfl logs
  rw [same]
  refine foldlM_invariant (fun done _ (sys : Sys ω) => ∀ row ∈ sys.db.exceptions.rows,
    row.mismatchKey ∈ done.map LifecycleEntry.mismatchKey → row.runId = runId) ?_ ?_ upserts
  · intro done entry _ between _ ended written stepped row member listed
    cases stepped
    rcases KeyedTable.mem_put.mp member with rfl | ⟨present, other⟩
    · split <;> rfl
    · refine written row present ?_
      rw [List.map_append, List.mem_append, List.map_singleton, List.mem_singleton] at listed
      refine listed.resolve_right fun key => other (key.trans ?_)
      split
      · next existing found => exact (KeyedTable.find?_eq_some_iff.mp found).2.symm
      · rfl
  · exact fun _ _ none => (List.not_mem_nil none).elim

namespace ReconciliationAgent.Stages

variable {deps : AgentDependencies ω} {request : RunRequest} {before drafted opened verified : Sys ω}
  {decided final : ReconciliationState} {lists : DispatchLists}
  (stages : Stages deps request before decided lists drafted opened final verified)
include stages

/-- A key is contacted behind a run exactly when it was before, or a mail under it goes out. -/
theorem contacted_iff (wet : request.dryRun = false) (mismatchKey : String) :
    verified.db.Contacted mismatchKey ↔
      before.db.Contacted mismatchKey ∨ RunContacts deps request before mismatchKey := by
  obtain ⟨decidedSys, reached, loop⟩ := reachesDispatch_of_drafts stages.drafts
  obtain ⟨quiet, dry⟩ := reached.quiet
  obtain ⟨_, recorded, opens, -⟩ := recordDispatch_run deps decided.runId lists drafted
  rw [stages.opens] at recorded
  cases recorded
  obtain ⟨_, swept, verifies, -⟩ := verifyNode_run deps (decided.withLists lists) opened
  rw [stages.verifies] at swept
  cases swept
  rw [contacted_congr (verifies.notifications.trans opens.notifications),
    dispatchLoop_contacts (dry.trans wet) loop, contacted_congr quiet.notifications]
  refine or_congr_right ⟨fun contacts => ⟨decided, decidedSys, reached, contacts⟩, ?_⟩
  rintro ⟨_, _, again, contacts⟩
  obtain ⟨rfl, rfl⟩ := reached.unique again
  exact contacts

/-- The unresolved rows behind a run were written by it. -/
theorem runId_of_current {row : ExceptionRow} (member : row ∈ verified.db.exceptions.rows)
    (current : row.mismatchKey ∈ final.currentKeys) : row.runId = decided.runId := by
  obtain ⟨keys, -, -⟩ := stages.statuses
  rw [keys, map_fst_recorded] at current
  rw [verifyNode_rows stages.verifies] at member
  obtain ⟨old, present, rfl⟩ := List.mem_map.mp member
  rw [Database.mismatchKey_resolveRow] at current
  have written := recordDispatch_writes stages.opens old present current
  unfold Database.resolveRow
  split
  · rfl
  · exact written

/-- The rows of a run claim no contact in vain exactly when each key that it marks last as escalated or
asked to be rechecked was contacted before, or a mail under it goes out. -/
theorem contactsMade_iff (wet : request.dryRun = false) :
    ContactsMade decided.runId (concluded deps decided.runId final verified) ↔
      ∀ key status, Snapshot.lastValue (fileEntries deps request before) key = some status →
        status.claimsContact = true → before.db.Contacted key ∨ RunContacts deps request before key := by
  have quiet := quiet_finishRun verified decided.runId .completed (finalSummary final)
    (deps.host.now verified.world)
  have contacted (key : String) : (concluded deps decided.runId final verified).db.Contacted key ↔
      before.db.Contacted key ∨ RunContacts deps request before key :=
    (contacted_congr quiet.notifications key).trans (stages.contacted_iff wet key)
  have entries := lifecycle_eq_fileEntries stages.drafts
  obtain ⟨-, -, statuses⟩ := stages.statuses
  rw [entries] at statuses
  have unresolved {status : ExceptionLifecycleStatus} (claims : status.claimsContact = true) :
      Database.isUnresolved status = true := by
    cases status with
    | escalated | awaitingRecheck | opened => rfl
    | resolved => cases claims
  have left := stages.lifecycleLeft decided.runId
  constructor
  · intro made key status last claims
    rw [← contacted]
    -- The last entry of a key is what the table says about it.
    have stored : verified.db.statuses key = some status := by
      rw [statuses, Snapshot.sync_of_lastValue last]
    obtain ⟨row, member, rfl, same⟩ := (exists_row_iff (· = status)).mpr ⟨status, stored, rfl⟩
    rw [← exceptions_concluded deps decided.runId final verified] at member
    have current := (left.unresolved row.mismatchKey).mp ⟨row, member, rfl, unresolved (same ▸ claims)⟩
    refine made row member ?_ (same ▸ claims)
    rw [exceptions_concluded] at member
    exact stages.runId_of_current member current
  · intro marked row member _ claims
    have last := left.lastStatus row member (unresolved claims)
    rw [entries] at last
    rw [contacted]
    exact marked row.mismatchKey row.status last claims

end ReconciliationAgent.Stages

theorem ReconciliationAgent.Completes.contactsMade_iff {deps : AgentDependencies ω} {request : RunRequest}
    {before after : Sys ω} {final : ReconciliationState} {outcome : RunOutcome}
    (completes : Completes deps request before final outcome after) (wet : request.dryRun = false) :
    ContactsMade outcome.runId after ↔
      ∀ key status, Snapshot.lastValue (fileEntries deps request before) key = some status →
        status.claimsContact = true → before.db.Contacted key ∨ RunContacts deps request before key := by
  obtain ⟨decided, lists, drafted, opened, verified, stages, rfl, rfl⟩ := completes.stages
  obtain ⟨sameId, -⟩ := draftRun_facts stages.drafts
  rw [← sameId]
  exact stages.contactsMade_iff wet

/-- Along every history of runs that are not dry, the rows written by the completed runs claim no contact
in vain exactly when each key that such a run marks last as `ESCALATED` or `AWAITING_RECHECK` was
contacted before it, or the last attempt for one of its targets under the key is answered with `SENT`. -/
theorem contacts_kept_iff (start : Sys ω) (runs : List (ScheduledRun ω))
    (wet : ∀ run ∈ runs, run.request.dryRun = false) :
    ContactsKept start runs ↔ MarksContacted start runs := by
  constructor
  · rintro kept past run later rfl completed
    obtain ⟨⟨final, after⟩, returned⟩ := Option.isSome_iff_exists.mp completed
    obtain ⟨outcome, completes⟩ := completes_of_completedRun returned
    have notDry := wet run (List.mem_append_right _ List.mem_cons_self)
    exact (completes.contactsMade_iff notDry).mp (kept past run later rfl final outcome after completes)
  · rintro marked past run later rfl final outcome after completes
    have notDry := wet run (List.mem_append_right _ List.mem_cons_self)
    obtain ⟨decided, lists, drafted, opened, verified, stages, -, -⟩ := completes.stages
    refine (completes.contactsMade_iff notDry).mpr (marked past run later rfl ?_)
    rw [stages.completedRun]
    rfl

/-- A run of a fresh process on three exceptions that are all escalated, behind a breaker that opens
after three failures. -/
def escalatingRun (notifier : Notifier BreakerWorld) : ScheduledRun BreakerWorld :=
  ⟨buildDependencies shippedConfig escalatingLlm notifier (countingBreaker 3) (fixedHost (defaultDate + 2)),
    separateRequest, closedStart.world⟩

/-- With the mock notifier the administrator is told. -/
theorem contacts_kept_delivered :
    (∃ row ∈ ((escalatingRun mockNotifier).leaves closedStart).db.exceptions.rows, row.status = .escalated) ∧
      (ContactsKept closedStart [escalatingRun mockNotifier] ↔
        MarksContacted closedStart [escalatingRun mockNotifier]) :=
  ⟨by decide +kernel, contacts_kept_iff closedStart _ (List.forall_mem_singleton.mpr rfl)⟩

/-- With a provider that times out the first dispatch opens the breaker and the others are refused:
nobody is told, and the three rows are escalated all the same. -/
theorem escalated_unsent :
    (∀ run ∈ [escalatingRun unreachableNotifier], run.request.dryRun = false) ∧
      ((escalatingRun unreachableNotifier).leaves closedStart).db.notifications.rows.map
        NotificationRow.status = [.skipped, .skipped, .skipped] ∧
      ¬ContactsKept closedStart [escalatingRun unreachableNotifier] := by
  refine ⟨List.forall_mem_singleton.mpr rfl, by decide +kernel, fun kept => ?_⟩
  let run := escalatingRun unreachableNotifier
  have unsent : (completedRun run.deps run.request (run.finds closedStart)).any (fun ended =>
      ended.2.db.notifications.rows.all (fun row => decide (row.status ≠ .sent)) &&
        ended.2.db.exceptions.rows.any fun row => decide (row.runId = "run-1" ∧ row.status = .escalated)) = true := by
    decide +kernel
  obtain ⟨final, outcome, after, completes, test⟩ := completes_passing unsent
  rw [Bool.and_eq_true] at test
  obtain ⟨silent, escalated⟩ := test
  obtain ⟨row, member, found⟩ := List.any_eq_true.mp escalated
  obtain ⟨own, status⟩ := of_decide_eq_true found
  have claims : row.status.claimsContact = true := by
    rw [status]
    rfl
  obtain ⟨-, -, -, -, -, -, rfl, -⟩ := completes.stages
  obtain ⟨note, logged, -, sent⟩ := kept [] run [] rfl final _ after completes row member own claims
  exact of_decide_eq_true (List.all_eq_true.mp silent note logged) sent

end ReconcileFlow
