import ReconcileFlow.Soundness.Closing
import ReconcileFlow.Soundness.RunRecords

/-! # The audit trail of the mails

A mail leaves inside the dispatch loop; its audit event and its lifecycle row wait in lists that are
committed after the loop. So a run whose graph returns has an event and a row for every mail that was
delivered, and a run whose graph raises, wherever it does, has committed no event of a dispatch at all.
-/

namespace ReconcileFlow

open EffectRun ReconciliationAgent

variable {ω : Type}

/-- The request of a call that returned `SENT`. -/
def ExternalCall.delivered? : ExternalCall → Option SendRequest
  | .send request (.ok result) => if result.status = .sent then some request else none
  | _ => none

/-- The requests whose send returned `SENT`, in order. -/
def deliveredRequests (calls : List ExternalCall) : List SendRequest :=
  calls.filterMap ExternalCall.delivered?

theorem deliveredRequests_append (first second : List ExternalCall) :
    deliveredRequests (first ++ second) = deliveredRequests first ++ deliveredRequests second :=
  List.filterMap_append

theorem deliveredRequests_judgement {call : ExternalCall} (other : call.sendRequest? = none) :
    deliveredRequests [call] = [] := by
  cases call with
  | send request reply => cases other
  | _ => rfl

theorem deliveredRequests_failedSends (request : SendRequest) (errors : List Raised) :
    deliveredRequests (failedSends request errors) = [] := by
  unfold deliveredRequests failedSends
  rw [List.filterMap_map, List.filterMap_eq_nil_iff]
  exact fun _ _ => rfl

/-- A send delivers its request exactly when its result is `SENT`. -/
theorem SendCalls.delivered {request : SendRequest} {result : SendResult} {new : List ExternalCall}
    (sends : SendCalls request result new) :
    deliveredRequests new = if result.status = .sent then [request] else [] := by
  cases sends with
  | answered errors =>
    rw [deliveredRequests_append, deliveredRequests_failedSends, List.nil_append]
    unfold deliveredRequests ExternalCall.delivered?
    dsimp only [List.filterMap]
    split_ifs <;> rfl
  | unanswered errors undelivered => rw [deliveredRequests_failedSends, if_neg undelivered]

/-- The requests delivered between two states. -/
def deliveredSince (before after : Sys ω) : List SendRequest :=
  deliveredRequests (after.calls.drop before.calls.length)

theorem deliveredSince_of_calls {before after : Sys ω} {new : List ExternalCall}
    (calls : after.calls = before.calls ++ new) : deliveredSince before after = deliveredRequests new := by
  unfold deliveredSince
  rw [calls, List.drop_left]

/-- The audit event of a delivered mail: of the same run, and about an exception whose key the mail carries. -/
def RecordsMail (request : SendRequest) (event : AuditEvent) : Prop :=
  ∃ exception role action, request.mismatchKey = exceptionKey exception role ∧
    event = dispatchEvent request.runId exception action NotificationStatus.sent.value

/-- Every mail delivered between the two states has its own event among those committed between them,
in the order of the mails, and a row under its key. -/
structure DeliveriesAudited (before after : Sys ω) : Prop where
  events : ∃ rows, rows.Sublist (after.db.audit.drop before.db.audit.length) ∧
    List.Forall₂ (fun request (row : AuditRow) => RecordsMail request row.toAuditEvent)
      (deliveredSince before after) rows
  rows : ∀ request ∈ deliveredSince before after, ∃ row ∈ after.db.exceptions.rows,
    row.mismatchKey = request.mismatchKey

/-! ## The dispatch loop -/

def AuditEvent.isSent (event : AuditEvent) : Bool := event.status == some NotificationStatus.sent.value

/-- A stretch of the dispatch loop: for each mail it delivered, in order, it listed a `SENT` event, and
no other such event, and the key of the mail. -/
def MailStretch (before : Sys ω) (lists lists' : DispatchLists) (after : Sys ω) : Prop :=
  ∃ new events entries, after.calls = before.calls ++ new ∧ lists'.events = lists.events ++ events ∧
    lists'.lifecycle = lists.lifecycle ++ entries ∧
    List.Forall₂ RecordsMail (deliveredRequests new) (events.filter AuditEvent.isSent) ∧
    ∀ request ∈ deliveredRequests new, request.mismatchKey ∈ entries.map LifecycleEntry.mismatchKey

theorem MailStretch.refl (sys : Sys ω) (lists : DispatchLists) : MailStretch sys lists lists sys :=
  ⟨[], [], [], (List.append_nil _).symm, (List.append_nil _).symm, (List.append_nil _).symm, .nil,
    fun _ none => (List.not_mem_nil none).elim⟩

theorem MailStretch.trans {before between after : Sys ω} {lists lists' lists'' : DispatchLists}
    (first : MailStretch before lists lists' between) (second : MailStretch between lists' lists'' after) :
    MailStretch before lists lists'' after := by
  obtain ⟨new, events, entries, calls, listed, recorded, paired, keyed⟩ := first
  obtain ⟨new', events', entries', calls', listed', recorded', paired', keyed'⟩ := second
  refine ⟨new ++ new', events ++ events', entries ++ entries', ?_, ?_, ?_, ?_, ?_⟩
  · rw [calls', calls, List.append_assoc]
  · rw [listed', listed, List.append_assoc]
  · rw [recorded', recorded, List.append_assoc]
  · rw [deliveredRequests_append, List.filter_append]
    exact List.rel_append paired paired'
  · intro request member
    rw [deliveredRequests_append] at member
    rw [List.map_append]
    rcases List.mem_append.mp member with early | late
    · exact List.mem_append_left _ (keyed request early)
    · exact List.mem_append_right _ (keyed' request late)

/-- A dispatch that returns delivers its request exactly when its result is `SENT`. -/
theorem DispatchEnds.delivered {host : Host ω} {call : DispatchCall} {before after : Sys ω}
    {result : SendResult} (ends : DispatchEnds host call before (.ok result after)) :
    ∃ new, after.calls = before.calls ++ new ∧
      deliveredRequests new = if result.status = .sent then [call.request] else [] := by
  cases ends with
  | duplicate notified => exact ⟨[], (List.append_nil _).symm, rfl⟩
  | recorded notNotified calls sends => exact ⟨_, calls.calls, sends.delivered⟩

section Loop

variable {deps : AgentDependencies ω} {state : ReconciliationState}

/-- A mail that is delivered carries the key of its target and the id of its run. -/
theorem dispatchOne_delivers {target : RecipientTarget} {draft : EmailDraft} {result : SendResult}
    {before after : Sys ω} (success : (dispatchOne deps state target draft).run before = .ok result after) :
    ∃ new request, after.calls = before.calls ++ new ∧
      request.mismatchKey = target.mismatchKey ∧ request.runId = state.runId ∧
      deliveredRequests new = if result.status = .sent then [request] else [] := by
  unfold dispatchOne at success
  split at success
  · cases success
    refine ⟨[], ⟨"", "", "", .admin, target.mismatchKey, state.runId, .email⟩, ?_, rfl, rfl, rfl⟩
    exact (List.append_nil _).symm
  · have ends := dispatch_cases deps.notifications deps.host
      { runId := state.runId
        mismatchKey := target.mismatchKey
        recipientRole := target.role
        recipientEmail := target.email
        subject := draft.subject
        body := draft.body } before
    rw [success] at ends
    obtain ⟨new, calls, delivered⟩ := ends.delivered
    exact ⟨new, _, calls, rfl, rfl, delivered⟩

theorem isSent_dispatchEvent (runId : String) (exception : ExceptionRecord) (action : PlannerAction)
    (status : NotificationStatus) :
    (dispatchEvent runId exception action status.value).isSent = decide (status = .sent) := by
  unfold AuditEvent.isSent dispatchEvent
  cases status <;> rfl

theorem dispatchTarget_mails {exception : ExceptionRecord} {action : PlannerAction} {tag : String}
    {status : ExceptionLifecycleStatus} {lists lists' : DispatchLists} {target : RecipientTarget}
    {before after : Sys ω} (keyed : target.mismatchKey = exceptionKey exception target.role)
    (success : (dispatchTarget deps state exception action tag status lists target).run before =
      .ok lists' after) : MailStretch before lists lists' after := by
  obtain ⟨draft, drafted, drafts, success⟩ := bind_eq_ok_iff.mp success
  obtain ⟨result, mailed, sends, finished⟩ := bind_eq_ok_iff.mp success
  cases finished
  obtain ⟨new, request, calls, key, ofRun, delivered⟩ := dispatchOne_delivers sends
  have asked := finalState_callOutside (.draftEmail exception target.role tag)
    (deps.llm.draftEmail exception target.role tag) before
  rw [drafts, finalState_ok] at asked
  let call : ExternalCall := .draftEmail exception target.role tag
    (deps.llm.draftEmail exception target.role tag before.world).1
  have mailedOnly : deliveredRequests ([call] ++ new) = if result.status = .sent then [request] else [] := by
    rw [deliveredRequests_append, deliveredRequests_judgement rfl, List.nil_append, delivered]
  refine ⟨[call] ++ new, _, _, ?_, rfl, rfl, ?_, ?_⟩
  · rw [calls, asked, List.append_assoc]
  · rw [mailedOnly, List.filter_singleton, isSent_dispatchEvent]
    by_cases sent : result.status = .sent
    · rw [if_pos sent, sent]
      refine .cons ⟨exception, target.role, action, key.trans keyed, ?_⟩ .nil
      rw [ofRun]
    · rw [if_neg sent, decide_eq_false sent]
      exact .nil
  · intro other member
    rw [mailedOnly] at member
    split_ifs at member
    · rw [List.mem_singleton.mp member, key]
      exact List.mem_singleton_self _
    · cases member

theorem dispatchTargets_mails {exception : ExceptionRecord} {action : PlannerAction} {tag : String}
    {status : ExceptionLifecycleStatus} {targets : List RecipientTarget} {lists lists' : DispatchLists}
    {before after : Sys ω} (keyed : ∀ target ∈ targets, target.mismatchKey = exceptionKey exception target.role)
    (success : (targets.foldlM (dispatchTarget deps state exception action tag status) lists).run before =
      .ok lists' after) : MailStretch before lists lists' after := by
  -- The invariant carries the keys of the targets it has met, so that one step has the key of its own.
  refine foldlM_invariant (fun done lists' sys =>
    (∀ target ∈ done, target.mismatchKey = exceptionKey exception target.role) →
      MailStretch before lists lists' sys) ?_ ?_ success keyed
  · intro done target lists between lists' after stretch stepped keyed
    obtain ⟨early, last⟩ := List.forall_mem_append.mp keyed
    exact (stretch early).trans (dispatchTarget_mails (last target (List.mem_singleton_self _)) stepped)
  · exact fun _ => .refl before lists

theorem dispatchException_mails {decided : ExceptionRecord × ExceptionDecision} {lists lists' : DispatchLists}
    {before after : Sys ω}
    (success : (dispatchException deps state lists decided).run before = .ok lists' after) :
    MailStretch before lists lists' after := by
  unfold dispatchException at success
  split at success
  · cases success
    refine ⟨[], _, _, (List.append_nil _).symm, rfl, rfl, .nil, fun _ none => (List.not_mem_nil none).elim⟩
  · next acts =>
    refine dispatchTargets_mails (fun target member => ?_) success
    have routed : target ∈ routedTargets deps.config decided := by
      unfold routedTargets
      rwa [if_neg acts]
    exact routedTargets_key routed

theorem dispatchLoop_mails {decided : List (ExceptionRecord × ExceptionDecision)} {lists : DispatchLists}
    {before after : Sys ω}
    (success : (decided.foldlM (dispatchException deps state) {}).run before = .ok lists after) :
    MailStretch before {} lists after :=
  foldlM_invariant (fun _ lists sys => MailStretch before {} lists sys)
    (fun _ _ _ _ _ _ stretch stepped => stretch.trans (dispatchException_mails stepped)) (.refl before {}) success

end Loop

/-- From one state to another no mail was delivered. -/
def Undelivered (before after : Sys ω) : Prop :=
  ∃ new, after.calls = before.calls ++ new ∧ deliveredRequests new = []

instance : IsPreorder (Sys ω) Undelivered where
  refl _ := ⟨[], (List.append_nil _).symm, rfl⟩
  trans _ _ _ first second := by
    obtain ⟨new, calls, silent⟩ := first
    obtain ⟨new', calls', silent'⟩ := second
    refine ⟨new ++ new', ?_, ?_⟩
    · rw [calls', calls, List.append_assoc]
    · rw [deliveredRequests_append, silent, silent']
      rfl

theorem undelivered_nodeFrame : NodeFrame (Undelivered : Sys ω → Sys ω → Prop) where
  world sys _ := refl_of Undelivered sys
  rollback undelivered := undelivered
  audit sys _ _ := refl_of Undelivered sys
  judge _ _ asked := ⟨_, rfl, deliveredRequests_judgement (ExternalCall.unsent_of_judgement asked)⟩

/-- No audit row went away, and rows were only added at the end. -/
def AuditGrows (before after : Sys ω) : Prop := before.db.audit <+: after.db.audit

instance : IsPreorder (Sys ω) AuditGrows where
  refl _ := List.prefix_rfl
  trans _ _ _ := List.IsPrefix.trans

theorem auditGrows_nodeFrame : NodeFrame (AuditGrows : Sys ω → Sys ω → Prop) where
  world _ _ := List.prefix_rfl
  rollback _ := List.prefix_rfl
  audit _ _ _ := List.prefix_append ..
  judge _ _ _ := List.prefix_rfl

theorem auditGrows_mailFrame : MailFrame (AuditGrows : Sys ω → Sys ω → Prop) where
  send _ _ _ := List.prefix_rfl
  record _ _ := List.prefix_rfl

theorem draftNodes_mails {deps : AgentDependencies ω} {initial decided : ReconciliationState}
    {lists : DispatchLists} {before drafted : Sys ω}
    (success : (draftNodes deps initial).run before = .ok (decided, lists) drafted) :
    MailStretch before {} lists drafted ∧ AuditGrows before drafted := by
  have grows := (keeps_draftNodes (auditGrows_nodeFrame.graph deps.llm) initial
    (.inr (auditGrows_nodeFrame.mailsWithin auditGrows_mailFrame _ _ _))).of_ok success
  obtain ⟨sorted, sortedSys, sorts, success⟩ := bind_eq_ok_iff.mp success
  obtain ⟨judged, decidedSys, decides, success⟩ := bind_eq_ok_iff.mp success
  obtain ⟨built, looped, loop, finished⟩ := bind_eq_ok_iff.mp success
  cases finished
  obtain ⟨new, calls, silent⟩ : Undelivered before decidedSys :=
    trans_of Undelivered ((keeps_sortNodes (undelivered_nodeFrame.graph deps.llm) _).of_ok sorts)
      ((keeps_decideNode (undelivered_nodeFrame.graph deps.llm) _).of_ok decides)
  have asks : MailStretch before {} {} decidedSys := by
    refine ⟨new, [], [], calls, rfl, rfl, ?_, ?_⟩
    · rw [silent]
      exact .nil
    · rw [silent]
      exact fun _ none => (List.not_mem_nil none).elim
  exact ⟨asks.trans (dispatchLoop_mails loop), grows⟩

theorem forEach_logEvent_audit (host : Host ω) (events : List AuditEvent) {before after : Sys ω}
    (success : (forEach events (logEvent host)).run before = .ok () after) :
    ∃ rows, after.db.audit = before.db.audit ++ rows ∧ rows.map AuditRow.toAuditEvent = events := by
  unfold forEach at success
  refine foldlM_invariant (fun done _ sys => ∃ rows, sys.db.audit = before.db.audit ++ rows ∧
    rows.map AuditRow.toAuditEvent = done) ?_ ⟨[], (List.append_nil _).symm, rfl⟩ success
  rintro done event _ between _ ended ⟨rows, audit, logged⟩ stepped
  cases stepped
  refine ⟨rows ++ [{ event with ts := host.now between.world }], ?_, ?_⟩
  · dsimp only [Database.logEvent]
    rw [audit, List.append_assoc]
  · rw [List.map_append, logged]
    rfl

theorem recordDispatch_audit {deps : AgentDependencies ω} {runId : String} {lists : DispatchLists}
    {before after : Sys ω} (success : (recordDispatch deps runId lists).run before = .ok () after) :
    ∃ rows, after.db.audit = before.db.audit ++ rows ∧ rows.map AuditRow.toAuditEvent = lists.events := by
  obtain ⟨_, upserted, upserts, logs⟩ := bind_eq_ok_iff.mp (of_withSession_ok success)
  have same : upserted.db.audit = before.db.audit :=
    foldlM_invariant (fun _ _ (sys : Sys ω) => sys.db.audit = before.db.audit)
      (fun _ _ _ _ _ _ kept stepped => by
        cases stepped
        exact kept) rfl upserts
  rw [← same]
  exact forEach_logEvent_audit deps.host lists.events logs

/-- What a run has delivered at the end of its dispatch loop, it has listed. -/
theorem draftRun_mails {deps : AgentDependencies ω} {request : RunRequest} {decided : ReconciliationState}
    {lists : DispatchLists} {before drafted : Sys ω}
    (success : (draftRun deps request).run before = .ok (decided, lists) drafted) :
    ∃ new, drafted.calls = before.calls ++ new ∧ AuditGrows before drafted ∧
      List.Forall₂ RecordsMail (deliveredRequests new) (lists.events.filter AuditEvent.isSent) ∧
      ∀ request ∈ deliveredRequests new, request.mismatchKey ∈ lists.lifecycle.map LifecycleEntry.mismatchKey := by
  obtain ⟨begun, started, begins, success⟩ := bind_eq_ok_iff.mp success
  obtain ⟨-, -, rfl⟩ := beginRun_ok begins
  obtain ⟨⟨new, events, entries, calls, listed, recorded, paired, keyed⟩, grows⟩ := draftNodes_mails success
  refine ⟨new, calls, grows, ?_, ?_⟩
  · rw [listed]
    exact paired
  · rw [recorded]
    exact keyed

theorem verifyNode_trail {deps : AgentDependencies ω} {state final : ReconciliationState}
    {before after : Sys ω} (success : (verifyNode deps state).run before = .ok final after) :
    after.calls = before.calls ∧ AuditGrows before after := by
  cases success
  exact ⟨rfl, List.prefix_append ..⟩

theorem audit_concluded (deps : AgentDependencies ω) (runId : String) (final : ReconciliationState)
    (sys : Sys ω) : (concluded deps runId final sys).db.audit = sys.db.audit := by
  unfold concluded Database.finishRun
  dsimp only
  split <;> rfl

/-- A run whose graph returns leaves an event and a row for every mail it delivered. -/
theorem ReconciliationAgent.Stages.audited {deps : AgentDependencies ω} {request : RunRequest}
    {before drafted opened verified : Sys ω} {decided final : ReconciliationState} {lists : DispatchLists}
    (stages : Stages deps request before decided lists drafted opened final verified) (runId : String) :
    DeliveriesAudited before (concluded deps runId final verified) := by
  obtain ⟨new, calls, ⟨earlier, grows⟩, paired, keyed⟩ := draftRun_mails stages.drafts
  obtain ⟨recordedSys, recorded, frame, -⟩ := recordDispatch_run deps decided.runId lists drafted
  rw [stages.opens] at recorded
  cases recorded
  obtain ⟨rows, logged, listed⟩ := recordDispatch_audit stages.opens
  obtain ⟨asked, later, verifies⟩ := verifyNode_trail stages.verifies
  have delivered : deliveredSince before (concluded deps runId final verified) = deliveredRequests new :=
    deliveredSince_of_calls (asked.trans (frame.calls.trans calls))
  have audit : (concluded deps runId final verified).db.audit =
      before.db.audit ++ (earlier ++ (rows ++ later)) := by
    rw [audit_concluded, ← verifies, logged, ← grows, List.append_assoc, List.append_assoc]
  constructor
  · refine ⟨rows.filter fun row => row.toAuditEvent.isSent, ?_, ?_⟩
    · rw [audit, List.drop_left]
      exact List.filter_sublist.trans
        ((List.sublist_append_left rows later).trans (List.sublist_append_right earlier _))
    · rw [delivered, ← List.forall₂_map_right_iff (f := AuditRow.toAuditEvent)]
      rw [← listed, List.filter_map] at paired
      exact paired
  · intro mail member
    rw [delivered] at member
    obtain ⟨keys, -, -⟩ := stages.statuses
    have current : mail.mismatchKey ∈ final.currentKeys := by
      rw [keys, map_fst_recorded]
      exact keyed mail member
    obtain ⟨row, present, key, -⟩ := ((stages.lifecycleLeft runId).unresolved mail.mismatchKey).mpr current
    exact ⟨row, present, key⟩

/-! ## A graph that raises -/

/-- The rows added to the audit log are about no dispatch. -/
def NoDispatchLogged (before after : Sys ω) : Prop :=
  ∃ rows, after.db.audit = before.db.audit ++ rows ∧
    ∀ row ∈ rows, (row.toAuditEvent).Undispatched

theorem NoDispatchLogged.of_audit {before after : Sys ω} (same : after.db.audit = before.db.audit) :
    NoDispatchLogged before after :=
  ⟨[], by rw [same, List.append_nil], fun _ none => (List.not_mem_nil none).elim⟩

instance : IsPreorder (Sys ω) NoDispatchLogged where
  refl _ := .of_audit rfl
  trans _ _ _ first second := by
    obtain ⟨rows, audit, none⟩ := first
    obtain ⟨rows', audit', none'⟩ := second
    refine ⟨rows ++ rows', by rw [audit', audit, List.append_assoc], ?_⟩
    exact List.forall_mem_append.mpr ⟨none, none'⟩

theorem noDispatchLogged_graphFrame (llm : LlmClient ω) : GraphFrame NoDispatchLogged llm where
  rollback _ _ _ := .of_audit rfl
  audit sys event now other := ⟨[{ event with ts := now }], rfl, List.forall_mem_singleton.mpr other⟩
  proposeFuzzy _ _ sys := by
    rw [finalState_callOutside]
    exact .of_audit rfl
  decide _ _ _ sys := by
    rw [finalState_callOutside]
    exact .of_audit rfl
  draftEmail _ _ _ sys := by
    rw [finalState_callOutside]
    exact .of_audit rfl

theorem noDispatchLogged_runFrame : RunFrame (NoDispatchLogged : Sys ω → Sys ω → Prop) where
  runs _ _ := .of_audit rfl
  incident _ _ _ := .of_audit rfl
  stored _ _ := .of_audit rfl

theorem DispatchEnds.audit {host : Host ω} {call : DispatchCall} {before : Sys ω}
    {ended : EStateM.Result Raised (Sys ω) SendResult} (ends : DispatchEnds host call before ended) :
    (finalState ended).db.audit = before.db.audit := by
  cases ends with
  | duplicate notified => rfl
  | recorded notNotified calls sends => rfl
  | escaped notNotified unexpected fails =>
    exact congrArg Database.audit fails.db

theorem mailsWithin_noDispatchLogged (service : NotificationService ω) (host : Host ω) (runId : String) :
    MailsWithin NoDispatchLogged service host runId :=
  fun call _ sys => .of_audit (dispatch_cases service host call sys).audit

/-- A run whose graph raises commits no event of a dispatch. -/
theorem noDispatchLogged_of_raises {deps : AgentDependencies ω} {request : RunRequest} {before ended : Sys ω}
    (fresh : before.db.runs.find? (chosenRunId deps.host request before.world) = none) {raised : Raised}
    (graph : graphRun deps request before = .error raised ended) :
    NoDispatchLogged before (finalState ((ReconciliationAgent.run deps request).run before)) := by
  have drafts := keeps_draftNodes (noDispatchLogged_graphFrame deps.llm) (initialState deps.config request
    (chosenRunId deps.host request before.world) (startedAsOf deps request before))
    (.inr (mailsWithin_noDispatchLogged _ _ _)) (startedSys deps request before)
  rw [invokeGraph_error_iff.mp graph] at drafts
  have hosts : HostFrame NoDispatchLogged deps.host := ⟨fun _ => .of_audit rfl, fun _ => .of_audit rfl⟩
  have started : NoDispatchLogged before (startedSys deps request before) := .of_audit rfl
  rw [run_of_graph_raises fresh graph]
  refine trans_of NoDispatchLogged (trans_of NoDispatchLogged started drafts) ?_
  exact keeps_handleFailure (noDispatchLogged_graphFrame deps.llm).rollback hosts noDispatchLogged_runFrame request
    (.inr fun notifications _ => mailsWithin_noDispatchLogged notifications _ _) raised ended

/-- Where no event of a dispatch was committed, the trail is complete only for no mail at all. -/
theorem NoDispatchLogged.audited_iff {before after : Sys ω} (silent : NoDispatchLogged before after) :
    DeliveriesAudited before after ↔ deliveredSince before after = [] := by
  obtain ⟨rows, audit, none⟩ := silent
  constructor
  · intro audited
    obtain ⟨events, logged, paired⟩ := audited.events
    rw [audit, List.drop_left] at logged
    by_contra some
    obtain ⟨request, later, delivered⟩ := List.exists_cons_of_ne_nil some
    rw [delivered] at paired
    obtain ⟨event, rest, recorded, -, rfl⟩ := List.forall₂_cons_left_iff.mp paired
    obtain ⟨exception, role, action, -, same⟩ := recorded
    refine none event (logged.subset List.mem_cons_self) ?_
    rw [same]
    rfl
  · intro nothing
    refine ⟨⟨[], List.nil_sublist _, ?_⟩, ?_⟩
    · rw [nothing]
      exact .nil
    · rw [nothing]
      exact fun _ none => (List.not_mem_nil none).elim

/-- No decision, no draft and no dispatch that the run asks for raises. -/
def NothingRaises (deps : AgentDependencies ω) (request : RunRequest) (before : Sys ω) : Prop :=
  let initial := initialState deps.config request (chosenRunId deps.host request before.world)
    (startedAsOf deps request before)
  ∃ sorted sortedSys, (sortNodes deps initial).run (startedSys deps request before) = .ok sorted sortedSys ∧
    AlongLoop (fun exception _ (sys : Sys ω) => ∃ proposed, proposedDecision deps exception sys.world = .ok proposed)
      (decideException deps sorted.runId) sorted.exceptions [] sortedSys ∧
    ∀ decided decidedSys, (decideNode deps sorted).run sortedSys = .ok decided decidedSys →
      ServesTargets deps decided (decidedPairs decided) {} decidedSys

/-- The graph of a run returns exactly when nothing it asks for raises. -/
theorem graphRun_returns_iff (deps : AgentDependencies ω) (request : RunRequest) (before : Sys ω) :
    (∃ final ended, graphRun deps request before = .ok final ended) ↔ NothingRaises deps request before := by
  unfold graphRun NothingRaises
  generalize initialState deps.config request (chosenRunId deps.host request before.world)
    (startedAsOf deps request before) = initial
  generalize startedSys deps request before = started
  constructor
  · rintro ⟨final, ended, graph⟩
    rw [invokeGraph_eq_stages] at graph
    obtain ⟨⟨state, lists⟩, drafted, drafts, -⟩ := bind_eq_ok_iff.mp graph
    obtain ⟨sorted, sortedSys, sorts, drafts⟩ := bind_eq_ok_iff.mp drafts
    obtain ⟨decided, decidedSys, decides, drafts⟩ := bind_eq_ok_iff.mp drafts
    obtain ⟨built, looped, loop, -⟩ := bind_eq_ok_iff.mp drafts
    refine ⟨sorted, sortedSys, sorts, (decideNode_returns_iff deps sorted sortedSys).mp ⟨_, _, decides⟩, ?_⟩
    intro other otherSys again
    rw [decides] at again
    cases again
    exact dispatchLoop_returns_iff.mp ⟨built, looped, loop⟩
  · rintro ⟨sorted, sortedSys, sorts, answered, served⟩
    obtain ⟨decided, decidedSys, decides⟩ := (decideNode_returns_iff deps sorted sortedSys).mpr answered
    obtain ⟨lists, drafted, loop⟩ := dispatchLoop_returns_iff.mpr (served decided decidedSys decides)
    have drafts : (draftNodes deps initial).run started = .ok (decided, lists) drafted := by
      unfold draftNodes
      rw [bind_of_ok sorts, bind_of_ok decides]
      exact bind_of_ok loop
    exact invokeGraph_of_drafts drafts

/-- The trail of a run is complete exactly when nothing it asks for raises, or no send returned `SENT`. -/
theorem deliveries_audited_iff (deps : AgentDependencies ω) (request : RunRequest) (before : Sys ω) :
    let after := finalState ((ReconciliationAgent.run deps request).run before)
    DeliveriesAudited before after ↔
      NothingRaises deps request before ∨ deliveredSince before after = [] := by
  intro after
  cases fresh : before.db.runs.find? (chosenRunId deps.host request before.world) with
  | some row =>
    have refused : NoDispatchLogged before after := by
      dsimp only [after]
      rw [run_of_taken fresh]
      exact .of_audit rfl
    have nothing : deliveredSince before after = [] := by
      dsimp only [after]
      rw [run_of_taken fresh]
      exact deliveredSince_of_calls (List.append_nil _).symm
    exact iff_of_true (refused.audited_iff.mpr nothing) (.inr nothing)
  | none =>
    cases graph : graphRun deps request before with
    | ok final ended =>
      refine iff_of_true ?_ (.inl ((graphRun_returns_iff deps request before).mp ⟨final, ended, graph⟩))
      dsimp only [after]
      obtain ⟨decided, lists, drafted, opened, verified, stages, -, same⟩ :=
        (completes_of_graph_returns fresh graph).stages
      rw [run_of_graph_returns fresh graph, finalState_ok, same]
      exact stages.audited _
    | error raised ended =>
      have raises : ¬NothingRaises deps request before := by
        rw [← graphRun_returns_iff, graph]
        rintro ⟨final, other, ⟨⟩⟩
      rw [or_iff_right raises]
      exact (noDispatchLogged_of_raises fresh graph).audited_iff

/-- A client that drafts no mail about the second order. -/
def interruptedLlm : LlmClient ω :=
  .ofFunctions (fun _ _ => .ok {}) mockDecision fun exception _ _ =>
    if exception.orderId = some "O2" then .error (.other "model unavailable") else .ok scriptedDraft

/-- The mail about the first order has left when the draft of the second one raises. -/
theorem delivered_mail_unaudited :
    let deps := buildDependencies shippedConfig interruptedLlm mockNotifier closedBreaker
      (fixedHost (defaultDate + 2))
    let after := finalState ((ReconciliationAgent.run deps separateRequest).run emptyStart)
    deliveredSince emptyStart after ≠ [] ∧ ¬DeliveriesAudited emptyStart after := by
  intro deps after
  have some : deliveredSince emptyStart after ≠ [] := by decide +kernel
  have raised : EffectRun.raises (graphRun deps separateRequest emptyStart) = true := by decide +kernel
  obtain ⟨failure, ended, graph⟩ := exists_of_raises raised
  exact ⟨some, fun audited => some ((noDispatchLogged_of_raises rfl graph).audited_iff.mp audited)⟩

end ReconcileFlow
