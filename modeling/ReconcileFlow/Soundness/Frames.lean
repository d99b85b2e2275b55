import ReconcileFlow.Soundness.Delivery
import ReconcileFlow.Soundness.Pipeline

/-! # Frames of a run

The nodes touch the system by a short list of elementary steps: a question to the LLM, an audit
event, a lifecycle row, a mail. A relation between states that is a preorder and holds of these steps
holds between the start and the end of every node and of the whole run, whether it returns or raises.
A relation for runs that mail nobody needs no word on mails: a dry graph never reaches them. A
relation that does not care what the collaborators do to the world is one of all of them (`NodeFrame`).
-/

namespace ReconcileFlow

open EffectRun

variable {ω α : Type}

/-- The pair a request is for. -/
def SendRequest.pair (request : SendRequest) : String × String := (request.mismatchKey, request.toEmail)

def ExternalCall.sendRequest? : ExternalCall → Option SendRequest
  | .send request _ => some request
  | _ => none

/-- The call is a question to the LLM client. -/
def ExternalCall.isJudgement : ExternalCall → Bool
  | .proposeFuzzy .. | .decide .. | .draftEmail .. => true
  | .send .. | .storeIncident .. => false

theorem ExternalCall.unsent_of_judgement {call : ExternalCall} (asked : call.isJudgement = true) :
    call.sendRequest? = none := by
  cases call with
  | send request reply => cases asked
  | _ => rfl

/-- The requests handed to the notifier, in order. -/
def sendRequests (calls : List ExternalCall) : List SendRequest := calls.filterMap ExternalCall.sendRequest?

theorem sendRequests_append (first second : List ExternalCall) :
    sendRequests (first ++ second) = sendRequests first ++ sendRequests second := List.filterMap_append

/-- The calls of one send hand over its request only. -/
theorem mem_sendRequests_failedSends {request other : SendRequest} {errors : List Raised}
    (member : other ∈ sendRequests (failedSends request errors)) : other = request := by
  obtain ⟨call, present, handed⟩ := List.mem_filterMap.mp member
  obtain ⟨raised, -, rfl⟩ := List.mem_map.mp present
  cases handed
  rfl

theorem SendCalls.request_eq {request other : SendRequest} {result : SendResult} {new : List ExternalCall}
    (sends : SendCalls request result new) (member : other ∈ sendRequests new) : other = request := by
  cases sends with
  | answered errors =>
    rw [sendRequests_append, List.mem_append] at member
    rcases member with failed | last
    · exact mem_sendRequests_failedSends failed
    · exact List.mem_singleton.mp last
  | unanswered errors undelivered => exact mem_sendRequests_failedSends member

/-- The relation allows what every node does: steps of the world, audit events, questions to the LLM,
and the rollback of a session. -/
structure NodeFrame (R : Sys ω → Sys ω → Prop) : Prop where
  world : ∀ sys world, R sys { sys with world }
  rollback : ∀ {before after : Sys ω}, R before after → R before { after with db := before.db }
  audit : ∀ sys event now, R sys { sys with db := sys.db.logEvent event now }
  judge : ∀ (sys : Sys ω) call, call.isJudgement = true → R sys { sys with calls := sys.calls ++ [call] }

/-- The relation allows the writes to `exception_log`. -/
structure LifecycleFrame (R : Sys ω → Sys ω → Prop) : Prop where
  upsert : ∀ sys mismatchKey runId reason status now,
    R sys { sys with db := sys.db.upsertException mismatchKey runId reason status now }
  sweep : ∀ sys runId currentKeys now, R sys { sys with db := (sys.db.markResolved runId currentKeys now).1 }

/-- The relation allows calls to the notifier and the writes to `notification_log`. -/
structure MailFrame (R : Sys ω → Sys ω → Prop) : Prop where
  send : ∀ (sys : Sys ω) request reply, R sys { sys with calls := sys.calls ++ [.send request reply] }
  record : ∀ sys row, R sys { sys with db := sys.db.recordNotification row }

/-- The relation allows what only the run lifecycle does: run records and incidents. -/
structure RunFrame (R : Sys ω → Sys ω → Prop) : Prop where
  runs : ∀ (sys : Sys ω) runs, R sys { sys with db := { sys.db with runs } }
  incident : ∀ (sys : Sys ω) incidentFiles incidentStream, R sys { sys with incidentFiles, incidentStream }
  stored : ∀ (sys : Sys ω) incident, R sys { sys with calls := sys.calls ++ [.storeIncident incident] }

/-- An incident is mailed to the administrator. -/
def IncidentService.mailsAdmin (service : IncidentService ω) : Bool :=
  service.notificationService.isSome && service.bestEffortEmail && service.adminEmail != ""

theorem IncidentService.notifyAdmin_of_off {service : IncidentService ω} (off : service.mailsAdmin = false)
    (host : Host ω) (incident : Incident) : service.notifyAdmin host incident = pure () := by
  unfold IncidentService.mailsAdmin at off
  unfold IncidentService.notifyAdmin
  cases configured : service.notificationService with
  | none => rfl
  | some notifications =>
    rw [configured, Option.isSome_some, Bool.true_and] at off
    rw [off]
    rfl

/-- The relation allows the rollback of a session. -/
def RollsBack (R : Sys ω → Sys ω → Prop) : Prop :=
  ∀ before after : Sys ω, R before after → R before { after with db := before.db }

/-- The relation allows what a session does. -/
structure SessionFrame (R : Sys ω → Sys ω → Prop) : Prop where
  rollback : RollsBack R
  audit : ∀ sys event now, R sys { sys with db := sys.db.logEvent event now }

/-- An event that no dispatch is behind. -/
def AuditEvent.Undispatched (event : AuditEvent) : Prop := event.eventType ≠ "notification_dispatched"

/-- The relation allows what the nodes do before they commit a dispatch: questions to this client, and
sessions that write other events. -/
structure GraphFrame (R : Sys ω → Sys ω → Prop) (llm : LlmClient ω) : Prop where
  rollback : RollsBack R
  audit : ∀ sys event now, event.Undispatched → R sys { sys with db := sys.db.logEvent event now }
  proposeFuzzy : ∀ obligations settlements,
    Keeps R (callOutside (.proposeFuzzy obligations settlements) (llm.proposeFuzzy obligations settlements))
  decide : ∀ exception withinSla threshold,
    Keeps R (callOutside (.decide exception withinSla) (llm.decide exception withinSla threshold))
  draftEmail : ∀ exception role tag,
    Keeps R (callOutside (.draftEmail exception role tag) (llm.draftEmail exception role tag))

/-- The relation allows drawing the ids of runs and incidents. -/
structure HostFrame (R : Sys ω → Sys ω → Prop) (host : Host ω) : Prop where
  newRunId : Keeps R (stepWorld host.newRunId)
  newIncidentId : Keeps R (stepWorld host.newIncidentId)

/-- The relation allows what the service does for one run. -/
def MailsWithin (R : Sys ω → Sys ω → Prop) (service : NotificationService ω) (host : Host ω)
    (runId : String) : Prop :=
  ∀ call : DispatchCall, call.runId = runId → Keeps R (service.dispatch host call)

/-- The relation allows the administrator mail of a run's incident. -/
def AdminMailsWithin (R : Sys ω → Sys ω → Prop) (service : IncidentService ω) (host : Host ω)
    (runId : String) : Prop :=
  ∀ notifications, service.notificationService = some notifications → MailsWithin R notifications host runId

section Keeps

variable {R : Sys ω → Sys ω → Prop} [IsPreorder (Sys ω) R]

theorem keeps_readClock (host : Host ω) : Keeps R (readClock host) := fun sys => refl_of R sys

omit [IsPreorder (Sys ω) R] in
theorem keeps_logEvent {event : AuditEvent}
    (audit : ∀ (sys : Sys ω) now, R sys { sys with db := sys.db.logEvent event now }) (host : Host ω) :
    Keeps R (logEvent host event) :=
  fun sys => audit sys (host.now sys.world)

omit [IsPreorder (Sys ω) R] in
theorem keeps_withSession (rollback : RollsBack R) {body : RunM ω α} (keeps : Keeps R body) :
    Keeps R (withSession body) := by
  intro sys
  have ended := keeps sys
  rw [run_withSession]
  cases result : body.run sys with
  | ok value after =>
    rw [result] at ended
    exact ended
  | error raised after =>
    rw [result] at ended
    exact rollback _ _ ended

/-- A call is logged with its reply whether it returns or raises. -/
theorem finalState_callOutside (record : Except Raised α → ExternalCall) (act : ω → Except Raised α × ω)
    (sys : Sys ω) : finalState ((callOutside record act).run sys) =
      { sys with world := (act sys.world).2, calls := sys.calls ++ [record (act sys.world).1] } := by
  unfold callOutside
  dsimp only [EStateM.run]
  split <;>
    next reply =>
      rw [reply]
      rfl

section AnyWorld

variable (node : NodeFrame R)
include node

omit [IsPreorder (Sys ω) R] in
theorem keeps_stepWorld (act : ω → α × ω) : Keeps R (stepWorld act) := fun sys => node.world sys _

/-- A call that the relation allows to be logged. -/
theorem keeps_callOutside {record : Except Raised α → ExternalCall}
    (logged : ∀ (sys : Sys ω) reply, R sys { sys with calls := sys.calls ++ [record reply] })
    (act : ω → Except Raised α × ω) : Keeps R (callOutside record act) := by
  intro sys
  rw [finalState_callOutside]
  exact trans_of R (node.world sys (act sys.world).2) (logged { sys with world := (act sys.world).2 } _)

theorem keeps_judgement {record : Except Raised α → ExternalCall}
    (asks : ∀ reply, (record reply).isJudgement = true) (act : ω → Except Raised α × ω) :
    Keeps R (callOutside record act) :=
  keeps_callOutside node (fun sys reply => node.judge sys _ (asks reply)) act

omit [IsPreorder (Sys ω) R] in
theorem NodeFrame.session : SessionFrame R := ⟨fun _ _ => node.rollback, node.audit⟩

theorem NodeFrame.graph (llm : LlmClient ω) : GraphFrame R llm where
  rollback := node.session.rollback
  audit sys event now _ := node.audit sys event now
  proposeFuzzy _ _ := keeps_judgement node (fun _ => rfl) _
  decide _ _ _ := keeps_judgement node (fun _ => rfl) _
  draftEmail _ _ _ := keeps_judgement node (fun _ => rfl) _

omit [IsPreorder (Sys ω) R] in
theorem NodeFrame.host (host : Host ω) : HostFrame R host :=
  ⟨keeps_stepWorld node _, keeps_stepWorld node _⟩

end AnyWorld

/-! ## Mail -/

theorem keeps_breakerCall {breaker : Breaker ω} (admits : Keeps R (stepWorld breaker.admits))
    (succeeds : Keeps R (stepWorld fun world => ((), breaker.onSuccess world)))
    (fails : Keeps R (stepWorld breaker.onFailure)) {func : RunM ω α} (keeps : Keeps R func) :
    Keeps R (breaker.call func) := by
  refine keeps_bind admits fun admitted => ?_
  split
  · refine keeps_bind (keeps_attempt keeps) fun reply => ?_
    cases reply with
    | ok value => exact keeps_bind succeeds fun _ => keeps_pure _
    | error raised =>
      refine keeps_bind fails fun tripped => ?_
      split <;> exact fun sys => refl_of R sys
  · exact fun sys => refl_of R sys

theorem retryLoop_eq (func : RunM ω α) (retryOn : Raised → Bool) (further : ℕ) :
    retryLoop func retryOn further = retry func retryOn further := by
  induction further with
  | zero => rfl
  | succ further ih =>
    rw [retryLoop, retry, ih]
    refine bind_congr fun reply => ?_
    cases reply <;> rfl

/-- A dispatch does nothing but its attempts to send and one write to the log. -/
theorem keeps_dispatch (rollback : RollsBack R) {service : NotificationService ω} {call : DispatchCall}
    (attempts : Keeps R (service.attemptSend call.request))
    (records : ∀ sys result now, R sys { sys with db := sys.db.recordNotification (call.row result now) })
    (host : Host ω) : Keeps R (service.dispatch host call) := by
  have sends : Keeps R (service.send call.request) := by
    have tries : Keeps R (callWithRetry (service.attemptSend call.request)
        service.resilience.emailRetryAttempts Raised.isTransient) := by
      unfold callWithRetry
      rw [retryLoop_eq]
      exact keeps_retry attempts _ _
    refine keeps_bind (keeps_attempt tries) fun reply => ?_
    cases reply with
    | ok result => exact keeps_pure _
    | error raised =>
      dsimp only
      split
      · exact keeps_pure _
      · exact fun sys => refl_of R sys
  have stores (result : SendResult) : Keeps R (NotificationService.record host call result) :=
    keeps_withSession rollback (keeps_bind (keeps_readClock host) fun now sys => records sys result now)
  refine keeps_bind (keeps_withSession rollback fun sys => refl_of R sys) fun notified => ?_
  split
  · exact keeps_pure _
  · exact keeps_bind sends fun result => keeps_bind (stores result) fun _ => keeps_pure _

theorem NodeFrame.attemptSend (node : NodeFrame R) (mail : MailFrame R) (service : NotificationService ω)
    (request : SendRequest) : Keeps R (service.attemptSend request) :=
  keeps_breakerCall (keeps_stepWorld node _) (keeps_stepWorld node _) (keeps_stepWorld node _)
    (keeps_callOutside node (fun sys reply => mail.send sys _ reply) _)

theorem NodeFrame.mailsWithin (node : NodeFrame R) (mail : MailFrame R) (service : NotificationService ω)
    (host : Host ω) (runId : String) : MailsWithin R service host runId :=
  fun _ _ => keeps_dispatch node.session.rollback (node.attemptSend mail service _) (fun sys _ _ => mail.record sys _) host

theorem NodeFrame.adminMailsWithin (node : NodeFrame R) (mail : MailFrame R) (service : IncidentService ω)
    (host : Host ω) (runId : String) : AdminMailsWithin R service host runId :=
  fun notifications _ => node.mailsWithin mail notifications host runId

/-! ## Nodes -/

/-- The pairing loop reports pairings only. -/
theorem fuzzyEvents_undispatched {thresholds : FuzzyMatchConfig} {state : ReconciliationState}
    {pairings : List FuzzyPairing} {event : String × String × String}
    (member : event ∈ (applyPairings thresholds state pairings).events) : event.1 ≠ "notification_dispatched" := by
  unfold applyPairings at member
  suffices all : ∀ (pairings : List FuzzyPairing) (fuzzy : FuzzyState),
      (∀ event ∈ fuzzy.events, event.1 ≠ "notification_dispatched") →
      ∀ event ∈ (pairings.foldl (applyPairing thresholds) fuzzy).events, event.1 ≠ "notification_dispatched" from
    all _ (initialFuzzyState state) (fun _ none => (List.not_mem_nil none).elim) event member
  intro pairings
  induction pairings with
  | nil => exact fun _ all => all
  | cons pairing rest ih =>
    intro fuzzy all
    refine ih _ fun event member => ?_
    unfold applyPairing at member
    split at member
    · exact all event member
    · split_ifs at member
      · rcases List.mem_append.mp member with early | last
        · exact all event early
        · rw [List.mem_singleton.mp last]
          exact (by decide : "fuzzy_auto_applied" ≠ "notification_dispatched")
      · rcases List.mem_append.mp member with early | last
        · exact all event early
        · rw [List.mem_singleton.mp last]
          exact (by decide : "fuzzy_review_flagged" ≠ "notification_dispatched")
      · exact all event member

section Graph

variable {deps : AgentDependencies ω} (graph : GraphFrame R deps.llm)
include graph

omit [IsPreorder (Sys ω) R] in
theorem keeps_undispatched {event : AuditEvent} (undispatched : event.Undispatched) :
    Keeps R (logEvent deps.host event) :=
  keeps_logEvent (fun sys now => graph.audit sys event now undispatched) deps.host

theorem keeps_fuzzyEdge (state : ReconciliationState) : Keeps R (fuzzyEdge deps state) := by
  have proposes : Keeps R (proposedPairings deps state) := by
    refine keeps_bind (keeps_attempt (graph.proposeFuzzy _ _)) fun reply => ?_
    cases reply with
    | ok proposal => exact keeps_pure _
    | error raised =>
      refine keeps_bind (keeps_withSession graph.rollback (keeps_undispatched graph ?_)) fun _ => keeps_pure _
      exact (by decide : "fuzzy_match_skipped" ≠ "notification_dispatched")
  unfold fuzzyEdge
  split
  · refine keeps_bind proposes fun pairings =>
      keeps_bind (keeps_withSession graph.rollback ?_) fun _ => keeps_pure _
    refine keeps_foldlM_of_mem (fun event member _ => keeps_undispatched graph ?_) _
    exact fuzzyEvents_undispatched member
  · exact keeps_pure _

theorem keeps_sortNodes (initial : ReconciliationState) : Keeps R (sortNodes deps initial) := by
  have logs {event : AuditEvent} (undispatched : event.Undispatched) :
      Keeps R (withSession (logEvent deps.host event)) :=
    keeps_withSession graph.rollback (keeps_undispatched graph undispatched)
  have reconciles : Keeps R (reconcileNode deps initial) := by
    refine keeps_bind (logs ?_) fun _ => keeps_pure _
    exact (by decide : "reconcile_completed" ≠ "notification_dispatched")
  refine keeps_bind reconciles fun reconciled => keeps_bind (keeps_fuzzyEdge graph _) fun paired => ?_
  refine keeps_bind (logs ?_) fun _ => keeps_pure _
  exact (by decide : "exceptions_finalized" ≠ "notification_dispatched")

theorem keeps_decideException (runId : String) (decisions : List ExceptionDecision)
    (exception : ExceptionRecord) : Keeps R (decideException deps runId decisions exception) := by
  refine keeps_bind (graph.decide _ _ _) fun _ => keeps_bind (keeps_undispatched graph ?_) fun _ => keeps_pure _
  exact (by decide : "exception_decided" ≠ "notification_dispatched")

theorem keeps_decideNode (state : ReconciliationState) : Keeps R (decideNode deps state) :=
  keeps_bind (keeps_withSession graph.rollback (keeps_foldlM (keeps_decideException graph state.runId) _ _))
    fun _ => keeps_pure _

theorem keeps_dispatchLoop (state : ReconciliationState)
    (mails : state.dryRun = true ∨ MailsWithin R deps.notifications deps.host state.runId)
    (decided : List (ExceptionRecord × ExceptionDecision)) (lists : DispatchLists) :
    Keeps R (decided.foldlM (dispatchException deps state) lists) := by
  have dispatches (target : RecipientTarget) (draft : EmailDraft) :
      Keeps R (dispatchOne deps state target draft) := by
    unfold dispatchOne
    rcases mails with dry | mail
    · rw [if_pos dry]
      exact keeps_pure _
    · split
      · exact keeps_pure _
      · exact mail _ rfl
  refine keeps_foldlM (fun lists one => ?_) decided lists
  unfold dispatchException
  split
  · exact keeps_pure _
  · refine keeps_foldlM (fun lists target => ?_) _ _
    exact keeps_bind (graph.draftEmail _ _ _) fun draft =>
      keeps_bind (dispatches target draft) fun _ => keeps_pure _

theorem keeps_draftNodes (initial : ReconciliationState)
    (mails : initial.dryRun = true ∨ MailsWithin R deps.notifications deps.host initial.runId) :
    Keeps R (draftNodes deps initial) := by
  refine keeps_bind_of_ok (keeps_sortNodes graph initial) fun sorted _ _ sorts => ?_
  refine keeps_bind_of_ok (keeps_decideNode graph sorted) fun decided _ _ decides => ?_
  have dry : decided.dryRun = initial.dryRun := by
    have kept := sortNodes_dryRun sorts
    rw [decideNode_ok decides]
    exact kept
  have runId : decided.runId = initial.runId := by
    have kept := sortNodes_runId sorts
    rw [decideNode_ok decides]
    exact kept
  exact keeps_bind (keeps_dispatchLoop graph decided (by rwa [dry, runId]) _ _) fun _ => keeps_pure _

omit graph in
theorem keeps_recordDispatch (session : SessionFrame R) (lifecycle : LifecycleFrame R)
    (deps : AgentDependencies ω) (runId : String) (lists : DispatchLists) :
    Keeps R (recordDispatch deps runId lists) := by
  refine keeps_withSession session.rollback (keeps_bind (keeps_foldlM (fun _ entry => ?_) _ _) fun _ => ?_)
  · exact keeps_bind (keeps_readClock deps.host) fun now => fun sys => lifecycle.upsert sys _ _ _ _ now
  · exact keeps_foldlM (fun _ event => keeps_logEvent (fun sys => session.audit sys event) _) _ _

omit graph in
theorem keeps_openDraft (session : SessionFrame R) (lifecycle : LifecycleFrame R)
    (deps : AgentDependencies ω) (draft : ReconciliationState × DispatchLists) :
    Keeps R (openDraft deps draft) := by
  unfold openDraft
  split
  · exact fun sys => refl_of R sys
  · exact keeps_bind (keeps_recordDispatch session lifecycle deps _ _) fun _ => keeps_pure _

omit graph in
theorem keeps_verifyNode (session : SessionFrame R) (lifecycle : LifecycleFrame R)
    (deps : AgentDependencies ω) (state : ReconciliationState) : Keeps R (verifyNode deps state) := by
  refine keeps_bind (keeps_withSession session.rollback (keeps_bind ?_ fun resolved => ?_)) fun _ => keeps_pure _
  · exact fun sys => lifecycle.sweep sys _ _ _
  · exact keeps_bind (keeps_logEvent (fun sys => session.audit sys _) _) fun _ => keeps_pure _

theorem keeps_invokeGraph (session : SessionFrame R) (lifecycle : LifecycleFrame R) (initial : ReconciliationState)
    (mails : initial.dryRun = true ∨ MailsWithin R deps.notifications deps.host initial.runId) :
    Keeps R (invokeGraph deps initial) := by
  rw [invokeGraph_eq_stages]
  refine keeps_bind (keeps_draftNodes graph initial mails) fun draft => ?_
  exact keeps_bind (keeps_openDraft session lifecycle deps draft) fun dispatched =>
    keeps_verifyNode session lifecycle deps dispatched

end Graph

/-! ## The run lifecycle -/

theorem keeps_beginRun {deps : AgentDependencies ω} (host : HostFrame R deps.host) (record : RunFrame R)
    (request : RunRequest) : Keeps R (ReconciliationAgent.beginRun deps request) := by
  have chooses : Keeps R (chooseRunId deps.host request) := by
    unfold chooseRunId
    split
    · exact keeps_pure _
    · exact host.newRunId
  refine keeps_bind chooses fun runId => keeps_bind (fun sys => refl_of R sys) fun asOf => ?_
  refine keeps_bind (fun sys => ?_) fun _ => keeps_pure _
  unfold startRun Database.startRun
  dsimp only [EStateM.run]
  cases sys.db.runs.find? runId with
  | some row => exact refl_of R sys
  | none => exact record.runs sys _

theorem keeps_finishRun (rollback : RollsBack R) (record : RunFrame R) (host : Host ω) (runId : String)
    (status : RunStatus) (summary : SummaryJson) : Keeps R (finishRun host runId status summary) := by
  refine keeps_withSession rollback (keeps_bind (keeps_readClock host) fun now => fun sys => ?_)
  rw [run_modifyDb, finalState_ok]
  unfold Database.finishRun
  split
  · exact record.runs sys _
  · exact refl_of R sys

theorem keeps_notifyAdmin {service : IncidentService ω} {host : Host ω} {incident : Incident}
    (mails : service.mailsAdmin = false ∨ AdminMailsWithin R service host incident.runId) :
    Keeps R (service.notifyAdmin host incident) := by
  rcases mails with off | mail
  · rw [IncidentService.notifyAdmin_of_off off]
    exact keeps_pure _
  · unfold IncidentService.notifyAdmin
    split
    · next notifications configured =>
      split
      · exact keeps_bind (keeps_attempt (mail notifications configured _ rfl)) fun _ => keeps_pure _
      · exact keeps_pure _
    · exact keeps_pure _

theorem keeps_writeIncident (record : RunFrame R) (incident : Incident) : Keeps R (writeIncident incident) := by
  intro sys
  let filed : Sys ω := { sys with
    incidentFiles := sys.incidentFiles.put incident, incidentStream := sys.incidentStream ++ [incident] }
  exact trans_of R (record.incident sys filed.incidentFiles filed.incidentStream) (record.stored filed incident)

theorem keeps_createIncident {host : Host ω} (hosts : HostFrame R host) (record : RunFrame R) (runId : String)
    (failureType : FailureType) (rootCause : String) (orderId remediation : Option String) :
    Keeps R (createIncident host runId failureType rootCause orderId remediation) := by
  refine keeps_bind hosts.newIncidentId fun hex => keeps_bind (keeps_readClock host) fun now => ?_
  exact keeps_bind (keeps_writeIncident record _) fun _ => keeps_pure _

theorem keeps_raiseIncident {service : IncidentService ω} {host : Host ω} (hosts : HostFrame R host)
    (record : RunFrame R) {runId : String}
    (mails : service.mailsAdmin = false ∨ AdminMailsWithin R service host runId)
    (failureType : FailureType) (rootCause : String) (orderId remediation : Option String) :
    Keeps R (service.raiseIncident host runId failureType rootCause orderId remediation) := by
  refine keeps_bind_of_ok (keeps_createIncident hosts record _ _ _ _ _) fun incident before written created => ?_
  have ofRun : incident.runId = runId := by
    cases created
    rfl
  exact keeps_bind (keeps_notifyAdmin (by rwa [ofRun])) fun _ => keeps_pure _

theorem keeps_handleFailure (rollback : RollsBack R) {deps : AgentDependencies ω}
    (host : HostFrame R deps.host) (record : RunFrame R) (request : RunRequest) {runId : String}
    (mails : deps.incidents.mailsAdmin = false ∨ AdminMailsWithin R deps.incidents deps.host runId)
    (raised : Raised) : Keeps R (ReconciliationAgent.handleFailure deps request runId raised) := by
  refine keeps_bind (keeps_raiseIncident host record mails _ _ _ _) fun incident => ?_
  exact keeps_bind (keeps_finishRun rollback record _ _ _ _) fun _ => keeps_pure _

/-- A run keeps what the mails of its own run id keep. -/
theorem run_keeps {deps : AgentDependencies ω} (session : SessionFrame R) (graph : GraphFrame R deps.llm)
    (host : HostFrame R deps.host) (lifecycle : LifecycleFrame R) (record : RunFrame R) (request : RunRequest) (before : Sys ω)
    (mails : MailsWithin R deps.notifications deps.host (chosenRunId deps.host request before.world))
    (admin : AdminMailsWithin R deps.incidents deps.host (chosenRunId deps.host request before.world)) :
    R before (finalState ((ReconciliationAgent.run deps request).run before)) := by
  have begins := keeps_beginRun host record request before
  unfold ReconciliationAgent.run
  rw [ReconciliationAgent.execute_eq, bind_assoc]
  cases begun : (ReconciliationAgent.beginRun deps request).run before with
  | error raised started =>
    rw [begun] at begins
    rw [bind_of_error begun]
    exact begins
  | ok value started =>
    rw [begun] at begins
    obtain ⟨-, rfl, -⟩ := ReconciliationAgent.beginRun_ok begun
    rw [bind_of_ok begun, bind_assoc]
    refine trans_of R begins (keeps_bind (keeps_attempt (keeps_invokeGraph graph session lifecycle _ (.inr mails)))
      (fun result => ?_) started)
    rw [pure_bind]
    cases result with
    | ok final => exact keeps_bind (keeps_finishRun session.rollback record _ _ _ _) fun _ => keeps_pure _
    | error raised => exact keeps_handleFailure session.rollback host record request (.inr admin) raised

theorem keeps_run (node : NodeFrame R) (lifecycle : LifecycleFrame R) (mail : MailFrame R)
    (record : RunFrame R) (deps : AgentDependencies ω) (request : RunRequest) :
    Keeps R (ReconciliationAgent.run deps request) := fun before =>
  run_keeps node.session (node.graph deps.llm) (node.host deps.host) lifecycle record request before
    (node.mailsWithin mail _ _ _) (node.adminMailsWithin mail _ _ _)

end Keeps

end ReconcileFlow
