import ReconcileFlow.Soundness.DispatchLoop
import ReconcileFlow.Soundness.RunRecords

/-! # Dry runs

The graph of a dry run mails nobody, and it returns exactly when the LLM client answers every decision
and every draft it is asked for. When it does not, the run ends in the incident of a failed run, whose
administrator mail does not know about dry runs: the run is free of mail exactly when its graph returns
or that mail is switched off.
-/

namespace ReconcileFlow

open EffectRun ReconciliationAgent

variable {ω : Type}

/-- Nothing was handed to the notifier and no row of the notification log was written. -/
structure MailFree (before after : Sys ω) : Prop where
  requests : sendRequests after.calls = sendRequests before.calls
  notifications : after.db.notifications = before.db.notifications

instance : IsPreorder (Sys ω) MailFree where
  refl _ := ⟨rfl, rfl⟩
  trans _ _ _ first second := ⟨second.requests.trans first.requests,
    second.notifications.trans first.notifications⟩

theorem mailFree_nodeFrame : NodeFrame (MailFree : Sys ω → Sys ω → Prop) where
  world _ _ := ⟨rfl, rfl⟩
  rollback free := ⟨free.requests, rfl⟩
  audit _ _ _ := ⟨rfl, rfl⟩
  judge sys _ asked := ⟨sendRequests_judgement sys.calls (ExternalCall.unsent_of_judgement asked), rfl⟩

theorem mailFree_lifecycleFrame : LifecycleFrame (MailFree : Sys ω → Sys ω → Prop) where
  upsert _ _ _ _ _ _ := ⟨rfl, rfl⟩
  sweep _ _ _ _ := ⟨rfl, rfl⟩

theorem mailFree_runFrame : RunFrame (MailFree : Sys ω → Sys ω → Prop) where
  runs _ _ := ⟨rfl, rfl⟩
  incident _ _ _ := ⟨rfl, rfl⟩
  stored sys _ := ⟨sendRequests_judgement sys.calls rfl, rfl⟩

/-- No request was taken back. -/
def SendsKept (before after : Sys ω) : Prop :=
  (sendRequests before.calls).length ≤ (sendRequests after.calls).length

instance : IsPreorder (Sys ω) SendsKept where
  refl _ := Nat.le_refl _
  trans _ _ _ := Nat.le_trans

theorem sendsKept_nodeFrame : NodeFrame (SendsKept : Sys ω → Sys ω → Prop) where
  world _ _ := Nat.le_refl _
  rollback kept := kept
  audit _ _ _ := Nat.le_refl _
  judge sys _ asked :=
    (congrArg List.length (sendRequests_judgement sys.calls (ExternalCall.unsent_of_judgement asked))).ge

theorem sendRequests_send (calls : List ExternalCall) (request : SendRequest)
    (reply : Except Raised SendResult) :
    sendRequests (calls ++ [.send request reply]) = sendRequests calls ++ [request] :=
  sendRequests_append calls [.send request reply]

theorem sendsKept_mailFrame : MailFrame (SendsKept : Sys ω → Sys ω → Prop) where
  send sys request reply := by
    unfold SendsKept
    rw [sendRequests_send, List.length_append]
    exact Nat.le_add_right _ _
  record _ _ := Nat.le_refl _

/-- A request was handed over. -/
def SendsMore (before after : Sys ω) : Prop :=
  (sendRequests before.calls).length < (sendRequests after.calls).length

/-- An exception that the service does not expect comes from the notifier. -/
theorem attemptSend_raises (service : NotificationService ω) (request : SendRequest) :
    RaisesExpectedOr SendsMore (service.attemptSend request) := by
  have calls : RaisesExpectedOr SendsMore (callOutside (.send request) (service.notifier.send request)) := by
    intro before raised after failure
    unfold callOutside at failure
    dsimp only [EStateM.run] at failure
    split at failure
    · cases failure
    · cases failure
      right
      unfold SendsMore
      rw [sendRequests_send, List.length_append]
      exact Nat.lt_succ_self _
  exact calls.breakerCall service.breaker fun _ _ _ _ => id

theorem send_raises {service : NotificationService ω} {request : SendRequest} {before after : Sys ω}
    {raised : Raised} (failure : (service.send request).run before = .error raised after) :
    SendsMore before after := by
  have attempts : Keeps SendsKept (service.attemptSend request) :=
    sendsKept_nodeFrame.attemptSend sendsKept_mailFrame service request
  have tries : RaisesExpectedOr SendsMore (callWithRetry (service.attemptSend request)
      service.resilience.emailRetryAttempts Raised.isTransient) := by
    refine (attemptSend_raises service request).retryLoop (fun before raised between after ran more => ?_) _ _
    have kept := attempts before
    rw [ran] at kept
    exact Nat.lt_of_le_of_lt kept more
  unfold NotificationService.send at failure
  rw [EStateM.run_bind, run_attempt] at failure
  cases ran : (callWithRetry (service.attemptSend request) service.resilience.emailRetryAttempts
      Raised.isTransient).run before with
  | ok result ended =>
    rw [ran] at failure
    cases failure
  | error thrown ended =>
    rw [ran] at failure
    dsimp only at failure
    split at failure
    · cases failure
    · next unexpected =>
      cases failure
      refine (tries _ _ _ ran).resolve_left fun expected => ?_
      rw [unexpected] at expected
      cases expected

/-- Dispatching a call whose key has no row yet hands over a request or writes a row. -/
theorem dispatch_leaves_trace (service : NotificationService ω) (host : Host ω) (call : DispatchCall)
    (before : Sys ω) (unused : ∀ row ∈ before.db.notifications.rows, row.mismatchKey ≠ call.mismatchKey) :
    ¬MailFree before (finalState ((service.dispatch host call).run before)) := by
  intro free
  have notNotified : before.db.alreadyNotified call.mismatchKey call.recipientEmail = false := by
    rw [Bool.eq_false_iff]
    intro notified
    obtain ⟨row, member, same, -⟩ := alreadyNotified_iff.mp notified
    exact unused row member (congrArg Prod.fst same)
  have checked : (NotificationService.checkNotified call).run before = .ok false before := by
    rw [← notNotified]
    rfl
  unfold NotificationService.dispatch at free
  rw [bind_of_ok checked, if_neg Bool.false_ne_true] at free
  cases sent : (service.send call.request).run before with
  | error raised after =>
    rw [bind_of_error sent] at free
    exact (send_raises sent).ne (congrArg List.length free.requests).symm
  | ok result after =>
    rw [bind_of_ok sent] at free
    have stored : call.row result (host.now after.world) ∈
        (after.db.notifications.put (call.row result (host.now after.world))).rows :=
      KeyedTable.mem_put.mpr (.inl rfl)
    have same : after.db.notifications.put (call.row result (host.now after.world)) =
      before.db.notifications := free.notifications
    rw [same] at stored
    exact unused _ stored rfl

/-- The drafts a decided exception asks for: exception, role and tag. -/
def draftQuestions (config : AppConfig) (one : ExceptionRecord × ExceptionDecision) :
    List (ExceptionRecord × RecipientRole × String) :=
  (mailedTargets config one).map fun target =>
    (one.1, target.role, (targetsForAction config one.1 one.2.action).1)

/-- Ask the client for one more draft; it has answered when there is a result. -/
def askDraft (deps : AgentDependencies ω) (world : ω) (question : ExceptionRecord × RecipientRole × String) :
    Option ω :=
  match deps.llm.draftEmail question.1 question.2.1 question.2.2 world with
  | (.ok _, after) => some after
  | (.error _, _) => none

/-- The world after all drafts of the decided exceptions, when the client answers them all and nobody
else moves it. -/
def askDrafts (deps : AgentDependencies ω) (pairs : List (ExceptionRecord × ExceptionDecision)) (world : ω) :
    Option ω :=
  pairs.foldlM (fun world one => (draftQuestions deps.config one).foldlM (askDraft deps) world) world

/-- The world at the end of the dispatch loop of a dry run, when the client answers every decision and
every draft. -/
def askGraph (deps : AgentDependencies ω) (initial : ReconciliationState) (world : ω) : Option ω :=
  let keyed := afterKeys deps.config initial
  let exceptions := (sortedState deps initial (fuzzyReply deps keyed world)).exceptions
  (askDecisions deps exceptions (fuzzyEdgeWorld deps keyed world)).bind fun asked =>
    askDrafts deps (exceptions.zip asked.1) asked.2

/-- The world of a system is the one the questions have led to. -/
def InWorld {α : Type} (world : ω) (_ : α) (sys : Sys ω) : Prop := sys.world = world

section Dry

variable {deps : AgentDependencies ω} {state : ReconciliationState} (dry : state.dryRun = true)
include dry

theorem dispatchTarget_mirrors (exception : ExceptionRecord) (action : PlannerAction) (tag : String)
    (status : ExceptionLifecycleStatus) (world : ω) (lists : DispatchLists) (sys : Sys ω)
    (target : RecipientTarget) (here : InWorld world lists sys) :
    Mirrors InWorld (askDraft deps world (exception, target.role, tag))
      ((dispatchTarget deps state exception action tag status lists target).run sys) := by
  unfold InWorld at here
  unfold askDraft dispatchTarget dispatchOne
  rw [← here, EStateM.run_bind]
  unfold callOutside
  dsimp only [EStateM.run]
  rcases deps.llm.draftEmail exception target.role tag sys.world with ⟨reply, next⟩
  cases reply with
  | ok draft =>
    dsimp only
    rw [if_pos dry]
    exact ⟨_, _, rfl, rfl⟩
  | error raised => rfl

theorem dispatchException_mirrors (world : ω) (lists : DispatchLists) (sys : Sys ω)
    (one : ExceptionRecord × ExceptionDecision) (here : InWorld world lists sys) :
    Mirrors InWorld ((draftQuestions deps.config one).foldlM (askDraft deps) world)
      ((dispatchException deps state lists one).run sys) := by
  unfold draftQuestions mailedTargets dispatchException
  split
  · exact ⟨_, _, rfl, here⟩
  · rw [List.foldlM_map]
    exact mirrors_foldlM (dispatchTarget_mirrors dry one.1 one.2.action _ _) _ here

theorem draftNodes_mirrors (before : Sys ω) :
    Mirrors InWorld (askGraph deps state before.world) ((draftNodes deps state).run before) := by
  obtain ⟨sortedSys, sorted, moved⟩ := sortNodes_run deps state before
  have sortedDry := (sortNodes_dryRun sorted).trans dry
  unfold draftNodes
  rw [bind_of_ok sorted]
  have decides := decideNode_mirrors deps
    (sortedState deps state (fuzzyReply deps (afterKeys deps.config state) before.world)) sortedSys
  rw [moved] at decides
  refine mirrors_bind decides fun asked decided sys related => ?_
  obtain ⟨rfl, here⟩ := related
  exact Mirrors.map (mirrors_foldlM (dispatchException_mirrors sortedDry) _ here) fun _ _ _ there => there

end Dry

/-- The client answers every decision and every draft that a dry run asks for. -/
def dryRunAnswered (deps : AgentDependencies ω) (request : RunRequest) (before : Sys ω) : Bool :=
  (askGraph deps (initialState deps.config request (chosenRunId deps.host request before.world)
    (startedAsOf deps request before)) (graphWorld deps request before.world)).isSome

/-- The graph of a dry run raises exactly when a question is not answered. -/
theorem graphRun_raises_iff {deps : AgentDependencies ω} {request : RunRequest}
    (dry : request.dryRun = true) (before : Sys ω) :
    EffectRun.raises (graphRun deps request before) = true ↔ dryRunAnswered deps request before = false := by
  unfold graphRun dryRunAnswered
  rw [raises_invokeGraph, (draftNodes_mirrors dry (startedSys deps request before)).raises_iff,
    Option.isSome_eq_false_iff, Option.isNone_iff_eq_none]
  rfl

/-- With the mail switched on, notifying the administrator ends where its dispatch ends. -/
theorem notifyAdmin_of_on {service : IncidentService ω} (mails : service.mailsAdmin = true) :
    ∃ notifications, ∀ (host : Host ω) incident sys, (service.notifyAdmin host incident).run sys =
      .ok () (finalState
        ((NotificationService.dispatch notifications host (incidentCall service.adminEmail incident)).run sys)) := by
  unfold IncidentService.mailsAdmin at mails
  cases configured : service.notificationService with
  | none =>
    rw [configured] at mails
    cases mails
  | some notifications =>
    rw [configured, Option.isSome_some, Bool.true_and] at mails
    refine ⟨notifications, fun host incident sys => ?_⟩
    unfold IncidentService.notifyAdmin
    rw [configured]
    dsimp only
    rw [if_pos mails]
    cases sent : (notifications.dispatch host (incidentCall service.adminEmail incident)).run sys with
    | ok result after => exact bind_of_ok (attempt_of_ok sent)
    | error raised after => exact bind_of_ok (attempt_of_error sent)

/-- No stored notification is about an incident that is still to be drawn. -/
def IncidentIdsUnused (host : Host ω) (sys : Sys ω) : Prop :=
  ∀ row ∈ sys.db.notifications.rows, ∀ world,
    row.mismatchKey ≠ "incident:" ++ ("inc-" ++ (host.newIncidentId world).1)

theorem FailureRecorded.mails {deps : AgentDependencies ω} {request : RunRequest}
    {before ended written mailed after : Sys ω} {raised : Raised} {incident : Incident} {outcome : RunOutcome}
    (recorded : FailureRecorded deps request before raised ended incident written mailed outcome after)
    (on : deps.incidents.mailsAdmin = true) (unused : IncidentIdsUnused deps.host ended) :
    ¬MailFree ended after := by
  intro free
  obtain ⟨notifications, notifies⟩ := notifyAdmin_of_on on
  have created := recorded.created
  cases created
  have attempted := recorded.attempted
  rw [notifies] at attempted
  cases attempted
  have finishes := keeps_finishRun mailFree_nodeFrame.session.rollback mailFree_runFrame deps.host
    (chosenRunId deps.host request before.world) .failed
    (.failure raised.text ("inc-" ++ (deps.host.newIncidentId ended.world).1))
  have closes := finishes.of_ok recorded.finished
  refine dispatch_leaves_trace notifications deps.host _ _ ?_
    ⟨closes.requests.symm.trans (free.requests.trans ?_), closes.notifications.symm.trans free.notifications⟩
  · exact fun row member => unused row member ended.world
  · exact (sendRequests_judgement ended.calls rfl).symm

/-- A dry run is free of mail exactly when it does not start, its graph gets every answer it asks for,
or the administrator mail of incidents is off. -/
theorem dry_run_mailFree_iff {deps : AgentDependencies ω} {request : RunRequest} {before : Sys ω}
    (dry : request.dryRun = true) (unused : IncidentIdsUnused deps.host before) :
    MailFree before (finalState ((ReconciliationAgent.run deps request).run before)) ↔
      (before.db.runs.find? (chosenRunId deps.host request before.world)).isSome = true ∨
        dryRunAnswered deps request before = true ∨ deps.incidents.mailsAdmin = false := by
  cases fresh : before.db.runs.find? (chosenRunId deps.host request before.world) with
  | some row =>
    refine iff_of_true ?_ (.inl rfl)
    rw [run_of_taken fresh]
    exact ⟨rfl, rfl⟩
  | none =>
    rw [Option.isSome_none, or_iff_right Bool.false_ne_true]
    have started : MailFree before (startedSys deps request before) := ⟨rfl, rfl⟩
    have graphFree := trans_of MailFree started
      (keeps_invokeGraph (mailFree_nodeFrame.graph deps.llm) mailFree_nodeFrame.session mailFree_lifecycleFrame (initialState deps.config
        request (chosenRunId deps.host request before.world) (startedAsOf deps request before)) (.inl dry)
        (startedSys deps request before))
    have answered := @graphRun_raises_iff ω deps request dry before
    change MailFree before (finalState (graphRun deps request before)) at graphFree
    cases graph : graphRun deps request before with
    | ok final ended =>
      rw [graph, finalState_ok] at graphFree
      rw [graph] at answered
      refine iff_of_true ?_ (.inl ?_)
      · rw [run_of_graph_returns fresh graph]
        exact trans_of MailFree graphFree (keeps_finishRun mailFree_nodeFrame.session.rollback mailFree_runFrame deps.host
          (chosenRunId deps.host request before.world) .completed (finalSummary final) ended)
      · rw [← Bool.not_eq_false]
        exact fun silent => Bool.false_ne_true (answered.mpr silent)
    | error raised ended =>
      rw [graph, finalState_error] at graphFree
      rw [graph] at answered
      rw [answered.mp rfl, or_iff_right Bool.false_ne_true]
      constructor
      · intro free
        rw [← Bool.not_eq_true]
        intro on
        have kept : RecordsKept (startedSys deps request before) ended := by
          have keeps := graphRun_keeps deps request before
          rwa [graph] at keeps
        obtain ⟨incident, written, mailed, outcome, after, ran, recorded⟩ := handleFailure_recorded kept raised
        rw [run_of_graph_raises fresh graph, ran] at free
        have unusedThen : IncidentIdsUnused deps.host ended := by
          unfold IncidentIdsUnused
          rw [graphFree.notifications]
          exact unused
        exact recorded.mails on unusedThen ⟨free.requests.trans graphFree.requests.symm,
          free.notifications.trans graphFree.notifications.symm⟩
      · intro off
        rw [run_of_graph_raises fresh graph]
        exact trans_of MailFree graphFree (keeps_handleFailure mailFree_nodeFrame.session.rollback (mailFree_nodeFrame.host _)
          mailFree_runFrame request (.inl off) raised ended)

theorem dry_run_mailFree_separate :
    MailFree emptyStart (finalState ((ReconciliationAgent.run (scriptedDependencies (.ok {}))
      { separateRequest with dryRun := true }).run emptyStart)) := by
  refine (dry_run_mailFree_iff rfl ?_).mpr (.inr (.inl (by decide +kernel)))
  intro row member
  cases member

/-- A dry run whose client refuses to decide mails the administrator. -/
theorem refused_dry_run_mails :
    ¬MailFree emptyStart (finalState ((ReconciliationAgent.run refusingDependencies
      { separateRequest with dryRun := true }).run emptyStart)) := by
  intro free
  have requested := congrArg List.length free.requests
  have one : (sendRequests (finalState ((ReconciliationAgent.run refusingDependencies
      { separateRequest with dryRun := true }).run emptyStart)).calls).length = 1 := by
    decide +kernel
  rw [one] at requested
  cases requested

end ReconcileFlow
