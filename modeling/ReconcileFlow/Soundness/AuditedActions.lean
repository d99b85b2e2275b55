import ReconcileFlow.Soundness.AuditTrail
import ReconcileFlow.Soundness.MismatchKeys

/-! # Whether the audited action names who is told

The planner chooses an action by its name, the dispatch node chooses the recipients by the reason of
the exception. A pass of its loop addresses the targets of the reason whatever the name says, and the
audit events it lists carry the name. Both agree where the role that the action names is one of the
default roles of the reason (`recipients_agree_iff`), and the offline client only names such roles.
-/

namespace ReconcileFlow

open EffectRun ReconciliationAgent

variable {ω : Type}

/-- The role an action names. -/
def PlannerAction.addressee? : PlannerAction → Option RecipientRole
  | .emailStoreManager => some .storeManager
  | .emailPg => some .paymentGateway
  | .emailBank => some .bank
  | .wait | .escalate | .requestRecheck => none

/-- The reason of the exception is routed to the role that the action names. -/
def NamesRouted (one : ExceptionRecord × ExceptionDecision) : Prop :=
  ∀ role, one.2.action.addressee? = some role → role ∈ defaultRoles one.1.reason

/-- An action that names nobody asks for no role. -/
theorem namesRouted_of_none {one : ExceptionRecord × ExceptionDecision}
    (nobody : one.2.action.addressee? = none) : NamesRouted one := by
  intro role named
  rw [nobody] at named
  cases named

/-- A pass of the dispatch loop that returned. -/
structure DispatchPass (deps : AgentDependencies ω) (state : ReconciliationState) where
  one : ExceptionRecord × ExceptionDecision
  lists : DispatchLists
  before : Sys ω
  lists' : DispatchLists
  after : Sys ω
  returned : (dispatchException deps state lists one).run before = .ok lists' after

/-- The role a mail was drafted for. -/
def ExternalCall.draftRole? : ExternalCall → Option RecipientRole
  | .draftEmail _ role _ (.ok _) => some role
  | _ => none

/-- A listed mail was handed over for the target, and shows the status that came back. -/
def Mailed (deps : AgentDependencies ω) (state : ReconciliationState) (exception : ExceptionRecord)
    (target : RecipientTarget) (email : EmailMessageView) : Prop :=
  ∃ draft handed result ended, (dispatchOne deps state target draft).run handed = .ok result ended ∧
    email =
      { recipientRole := target.role.value
        recipientEmail := target.email
        subject := draft.subject
        body := draft.body
        status := result.status.value
        reason := some exception.reason.value
        mismatchKey := target.mismatchKey }

namespace DispatchPass

variable {deps : AgentDependencies ω} {state : ReconciliationState} (pass : DispatchPass deps state)

/-- The outside calls of the pass. -/
def calls : List ExternalCall := pass.after.calls.drop pass.before.calls.length

/-- The mails the pass listed. -/
def emails : List EmailMessageView := pass.lists'.emails.drop pass.lists.emails.length

/-- The audit events the pass listed. -/
def events : List AuditEvent := pass.lists'.events.drop pass.lists.events.length

/-- A mail was drafted for the role and handed over for its address. -/
structure Addresses (role : RecipientRole) : Prop where
  drafted : role ∈ pass.calls.filterMap ExternalCall.draftRole?
  mailed : ∃ target : RecipientTarget, target.role = role ∧
    target.email = deps.config.recipients.forRole role pass.one.1.paymentGateway ∧
    ∃ email ∈ pass.emails, Mailed deps state pass.one.1 target email

/-- The pass drafted, listed or sent anything for the role. -/
def Involves (role : RecipientRole) : Prop :=
  role ∈ pass.calls.filterMap ExternalCall.draftRole? ∨
    role.value ∈ pass.emails.map EmailMessageView.recipientRole ∨
    role ∈ (sendRequests pass.calls).map SendRequest.recipientRole

/-- Those addressed are the ones the action stands for. -/
def Honours : Prop :=
  match pass.one.2.action with
  | .wait => ∀ role, ¬pass.Involves role
  | .emailStoreManager => pass.Addresses .storeManager
  | .emailPg => pass.Addresses .paymentGateway
  | .emailBank => pass.Addresses .bank
  | .escalate => pass.Addresses .admin ∧ ∀ role, pass.Involves role → role = .admin
  | .requestRecheck => True

end DispatchPass

/-! ## What a pass does -/

/-- What the loop does over some targets of a decided exception: its calls, mails and events. -/
structure Told (deps : AgentDependencies ω) (state : ReconciliationState)
    (one : ExceptionRecord × ExceptionDecision) (targets : List RecipientTarget) (calls : List ExternalCall)
    (emails : List EmailMessageView) (events : List AuditEvent) : Prop where
  drafted : calls.filterMap ExternalCall.draftRole? = targets.map RecipientTarget.role
  mailed : List.Forall₂ (Mailed deps state one.1) targets emails
  asked : ∀ request ∈ sendRequests calls, request.recipientRole ∈ targets.map RecipientTarget.role
  named : ∀ event ∈ events, ∃ status, event = dispatchEvent state.runId one.1 one.2.action status

/-- The stretch of the loop over some targets of a decided exception. -/
def ToldStretch (deps : AgentDependencies ω) (state : ReconciliationState)
    (one : ExceptionRecord × ExceptionDecision) (targets : List RecipientTarget) (before : Sys ω)
    (lists lists' : DispatchLists) (after : Sys ω) : Prop :=
  ∃ calls emails events, after.calls = before.calls ++ calls ∧ lists'.emails = lists.emails ++ emails ∧
    lists'.events = lists.events ++ events ∧ Told deps state one targets calls emails events

section Stretches

variable {deps : AgentDependencies ω} {state : ReconciliationState}
  {one : ExceptionRecord × ExceptionDecision}

theorem Told.append {targets targets' : List RecipientTarget} {calls calls' : List ExternalCall}
    {emails emails' : List EmailMessageView} {events events' : List AuditEvent}
    (first : Told deps state one targets calls emails events)
    (second : Told deps state one targets' calls' emails' events') :
    Told deps state one (targets ++ targets') (calls ++ calls') (emails ++ emails') (events ++ events') where
  drafted := by rw [List.filterMap_append, first.drafted, second.drafted, List.map_append]
  mailed := List.rel_append first.mailed second.mailed
  asked := by
    intro request member
    rw [sendRequests_append] at member
    rw [List.map_append]
    rcases List.mem_append.mp member with early | late
    · exact List.mem_append_left _ (first.asked request early)
    · exact List.mem_append_right _ (second.asked request late)
  named := List.forall_mem_append.mpr ⟨first.named, second.named⟩

theorem ToldStretch.trans {targets targets' : List RecipientTarget} {before between after : Sys ω}
    {lists lists' lists'' : DispatchLists}
    (first : ToldStretch deps state one targets before lists lists' between)
    (second : ToldStretch deps state one targets' between lists' lists'' after) :
    ToldStretch deps state one (targets ++ targets') before lists lists'' after := by
  obtain ⟨new, emails, events, calls, listed, logged, told⟩ := first
  obtain ⟨new', emails', events', calls', listed', logged', told'⟩ := second
  refine ⟨new ++ new', emails ++ emails', events ++ events', ?_, ?_, ?_, told.append told'⟩
  · rw [calls', calls, List.append_assoc]
  · rw [listed', listed, List.append_assoc]
  · rw [logged', logged, List.append_assoc]

/-- The calls of a dispatch that returned are sends of its own request. -/
theorem DispatchEnds.asks {host : Host ω} {call : DispatchCall} {before after : Sys ω} {result : SendResult}
    (ends : DispatchEnds host call before (.ok result after)) :
    ∃ new, after.calls = before.calls ++ new ∧ ∀ made ∈ new, ∃ reply, made = .send call.request reply := by
  cases ends with
  | duplicate notified => exact ⟨[], (List.append_nil _).symm, fun _ none => (List.not_mem_nil none).elim⟩
  | recorded notNotified calls sends =>
    refine ⟨_, calls.calls, fun made member => ?_⟩
    have failed {errors : List Raised} (present : made ∈ failedSends call.request errors) :
        ∃ reply, made = .send call.request reply := by
      obtain ⟨raised, -, rfl⟩ := List.mem_map.mp present
      exact ⟨_, rfl⟩
    cases sends with
    | answered errors =>
      rcases List.mem_append.mp member with early | last
      · exact failed early
      · exact ⟨_, List.mem_singleton.mp last⟩
    | unanswered errors undelivered => exact failed member

/-- Whatever a hand-over calls is a send to the role of its target. -/
theorem dispatchOne_asks {target : RecipientTarget} {draft : EmailDraft} {result : SendResult}
    {before after : Sys ω} (success : (dispatchOne deps state target draft).run before = .ok result after) :
    ∃ new, after.calls = before.calls ++ new ∧
      ∀ made ∈ new, ∃ request reply, made = .send request reply ∧ request.recipientRole = target.role := by
  unfold dispatchOne at success
  split at success
  · cases success
    exact ⟨[], (List.append_nil _).symm, fun _ none => (List.not_mem_nil none).elim⟩
  · have ends := dispatch_cases deps.notifications deps.host
      { runId := state.runId
        mismatchKey := target.mismatchKey
        recipientRole := target.role
        recipientEmail := target.email
        subject := draft.subject
        body := draft.body } before
    rw [success] at ends
    obtain ⟨new, calls, sends⟩ := ends.asks
    refine ⟨new, calls, fun made member => ?_⟩
    obtain ⟨reply, rfl⟩ := sends made member
    exact ⟨_, reply, rfl, rfl⟩

theorem dispatchTarget_told {tag : String} {status : ExceptionLifecycleStatus} {target : RecipientTarget}
    {lists lists' : DispatchLists} {before after : Sys ω}
    (success : (dispatchTarget deps state one.1 one.2.action tag status lists target).run before =
      .ok lists' after) : ToldStretch deps state one [target] before lists lists' after := by
  obtain ⟨draft, drafted, drafts, success⟩ := bind_eq_ok_iff.mp success
  obtain ⟨result, mailed, sends, finished⟩ := bind_eq_ok_iff.mp success
  cases finished
  obtain ⟨new, calls, asks⟩ := dispatchOne_asks sends
  have asked := finalState_callOutside (.draftEmail one.1 target.role tag)
    (deps.llm.draftEmail one.1 target.role tag) before
  rw [drafts, finalState_ok] at asked
  have reply : (deps.llm.draftEmail one.1 target.role tag before.world).1 = .ok draft := by
    unfold callOutside at drafts
    dsimp only [EStateM.run] at drafts
    split at drafts
    · next value answered =>
      cases drafts
      exact answered
    · cases drafts
  rw [reply] at asked
  have noDraft : new.filterMap ExternalCall.draftRole? = [] := by
    rw [List.filterMap_eq_nil_iff]
    intro made member
    obtain ⟨request, answer, rfl, -⟩ := asks made member
    rfl
  refine ⟨[.draftEmail one.1 target.role tag (.ok draft)] ++ new, _, _, ?_, rfl, rfl, ?_, ?_, ?_, ?_⟩
  · rw [calls, asked, List.append_assoc]
  · rw [List.filterMap_append, noDraft]
    rfl
  · exact .cons ⟨draft, drafted, result, _, sends, rfl⟩ .nil
  · intro request member
    rw [sendRequests_append] at member
    obtain ⟨made, present, asked⟩ := List.mem_filterMap.mp member
    obtain ⟨other, answer, rfl, role⟩ := asks made present
    cases asked
    exact List.mem_singleton.mpr role
  · exact List.forall_mem_singleton.mpr ⟨_, rfl⟩

theorem dispatchTargets_told {tag : String} {status : ExceptionLifecycleStatus} {targets : List RecipientTarget}
    {lists lists' : DispatchLists} {before after : Sys ω}
    (success : (targets.foldlM (dispatchTarget deps state one.1 one.2.action tag status) lists).run before =
      .ok lists' after) : ToldStretch deps state one targets before lists lists' after := by
  refine foldlM_invariant (fun done lists' sys => ToldStretch deps state one done before lists lists' sys)
    ?_ ?_ success
  · exact fun done target lists between lists' after stretch stepped =>
      stretch.trans (dispatchTarget_told stepped)
  · refine ⟨[], [], [], (List.append_nil _).symm, (List.append_nil _).symm, (List.append_nil _).symm, ?_⟩
    exact ⟨rfl, .nil, fun _ none => (List.not_mem_nil none).elim, fun _ none => (List.not_mem_nil none).elim⟩

/-- A pass goes over the targets that its exception is mailed to. -/
theorem dispatchException_told {lists lists' : DispatchLists} {before after : Sys ω}
    (success : (dispatchException deps state lists one).run before = .ok lists' after) :
    ToldStretch deps state one (mailedTargets deps.config one) before lists lists' after := by
  unfold dispatchException at success
  unfold mailedTargets
  split at success
  · next waits =>
    cases success
    rw [if_pos waits]
    refine ⟨[], [], _, (List.append_nil _).symm, (List.append_nil _).symm, rfl, rfl, .nil,
      fun _ none => (List.not_mem_nil none).elim, ?_⟩
    rw [waits]
    exact List.forall_mem_singleton.mpr ⟨_, rfl⟩
  · next acts =>
    rw [if_neg acts]
    exact dispatchTargets_told success

end Stretches

theorem mem_distinctRoles {role : RecipientRole} {seen roles : List RecipientRole} :
    role ∈ distinctRoles seen roles ↔ role ∈ roles ∧ role ∉ seen := by
  induction roles generalizing seen with
  | nil => simp [distinctRoles]
  | cons first rest ih =>
    rw [distinctRoles]
    by_cases same : role = first
    · subst same
      split_ifs with met
      · simp [ih, met]
      · simp [met]
    · split_ifs <;> simp [ih, same]

/-- An action that names a role is mailed to the roles the exception is routed to. -/
theorem roles_mailedTargets_of_addressee {config : AppConfig} {one : ExceptionRecord × ExceptionDecision}
    {role : RecipientRole} (acts : one.2.action.addressee? = some role) :
    (mailedTargets config one).map RecipientTarget.role = distinctRoles [] (routedRoles one.1) := by
  have resolved : (resolveTargets config one.1).map RecipientTarget.role =
      distinctRoles [] (routedRoles one.1) := by
    unfold resolveTargets
    rw [List.map_map]
    exact List.map_id _
  rw [← resolved]
  unfold mailedTargets targetsForAction
  cases action : one.2.action <;> rw [action] at acts <;> first | rfl | cases acts

theorem mailedTargets_email {config : AppConfig} {one : ExceptionRecord × ExceptionDecision}
    {target : RecipientTarget} (member : target ∈ mailedTargets config one) :
    target.email = config.recipients.forRole target.role one.1.paymentGateway := by
  have resolved (present : target ∈ resolveTargets config one.1) :
      target.email = config.recipients.forRole target.role one.1.paymentGateway := by
    obtain ⟨role, -, rfl⟩ := List.mem_map.mp present
    rfl
  unfold mailedTargets at member
  split at member
  · cases member
  · unfold targetsForAction at member
    split at member
    · rw [List.mem_singleton.mp member]
      rfl
    · exact resolved member
    · exact resolved member

namespace DispatchPass

variable {deps : AgentDependencies ω} {state : ReconciliationState} (pass : DispatchPass deps state)

theorem told : Told deps state pass.one (mailedTargets deps.config pass.one) pass.calls pass.emails
    pass.events ∧ pass.lists'.events = pass.lists.events ++ pass.events := by
  obtain ⟨new, emails, events, calls, listed, logged, told⟩ := dispatchException_told pass.returned
  have sameCalls : pass.calls = new := by rw [DispatchPass.calls, calls, List.drop_left]
  have sameEmails : pass.emails = emails := by rw [DispatchPass.emails, listed, List.drop_left]
  have sameEvents : pass.events = events := by rw [DispatchPass.events, logged, List.drop_left]
  rw [sameCalls, sameEmails, sameEvents]
  exact ⟨told, logged⟩

/-- The roles a pass addresses are those of the targets its exception is mailed to. -/
theorem addresses_iff (role : RecipientRole) :
    pass.Addresses role ↔ role ∈ (mailedTargets deps.config pass.one).map RecipientTarget.role := by
  obtain ⟨told, -⟩ := pass.told
  constructor
  · rintro ⟨drafted, -⟩
    rwa [told.drafted] at drafted
  · intro member
    obtain ⟨target, present, rfl⟩ := List.mem_map.mp member
    obtain ⟨email, listed, mailed⟩ := Reports.exists_of_forall₂ told.mailed present
    refine ⟨?_, target, rfl, mailedTargets_email present, email, listed, mailed⟩
    rwa [told.drafted]

/-- A pass has to do with no other roles. -/
theorem involves_iff (role : RecipientRole) :
    pass.Involves role ↔ role ∈ (mailedTargets deps.config pass.one).map RecipientTarget.role := by
  obtain ⟨told, -⟩ := pass.told
  constructor
  · rintro (drafted | listed | asked)
    · rwa [told.drafted] at drafted
    · obtain ⟨email, present, shown⟩ := List.mem_map.mp listed
      obtain ⟨target, mailed, draft, handed, result, ended, -, rfl⟩ :=
        Reports.exists_of_forall₂ told.mailed.flip present
      rw [← RecipientRole.value_injective _ _ shown]
      exact List.mem_map_of_mem mailed
    · obtain ⟨request, present, rfl⟩ := List.mem_map.mp asked
      exact told.asked request present
  · exact fun member => .inl (by rwa [told.drafted])

/-- Where no party is named on the exception, a pass honours its action exactly when the role that the
action names is one of the default roles. -/
theorem honours_iff (unassigned : pass.one.1.responsibleParty = none) :
    pass.Honours ↔ NamesRouted pass.one := by
  have routed : routedRoles pass.one.1 = defaultRoles pass.one.1.reason := by
    unfold routedRoles
    rw [unassigned]
  have named (role : RecipientRole) (acts : pass.one.2.action.addressee? = some role) :
      pass.Addresses role ↔ NamesRouted pass.one := by
    rw [pass.addresses_iff, roles_mailedTargets_of_addressee acts, mem_distinctRoles, routed]
    unfold NamesRouted
    rw [acts]
    simp
  unfold Honours
  split
  · next waits =>
    refine iff_of_true (fun role involved => ?_) ?_
    · rw [pass.involves_iff, mailedTargets, if_pos waits] at involved
      cases involved
    · exact namesRouted_of_none (by rw [waits]; rfl)
  · next acts => exact named _ (by rw [acts]; rfl)
  · next acts => exact named _ (by rw [acts]; rfl)
  · next acts => exact named _ (by rw [acts]; rfl)
  · next escalates =>
    have targets : (mailedTargets deps.config pass.one).map RecipientTarget.role = [.admin] := by
      unfold mailedTargets targetsForAction
      rw [escalates]
      rfl
    refine iff_of_true ⟨?_, fun role involved => ?_⟩ ?_
    · rw [pass.addresses_iff, targets]
      exact List.mem_singleton_self _
    · rw [pass.involves_iff, targets] at involved
      exact List.mem_singleton.mp involved
    · exact namesRouted_of_none (by rw [escalates]; rfl)
  · next rechecks =>
    exact iff_of_true trivial (namesRouted_of_none (by rw [rechecks]; rfl))

end DispatchPass

/-! ## The passes of a run -/

/-- The pass is one of the run. -/
def DispatchPass.Of {deps : AgentDependencies ω} {decided : ReconciliationState}
    (pass : DispatchPass deps decided) (request : RunRequest) (before : Sys ω) : Prop :=
  ∃ decidedSys, ReachesDispatch deps request before decided decidedSys ∧
    LoopReaches (dispatchException deps decided) (decidedPairs decided) {} decidedSys
      pass.one pass.lists pass.before

/-- The exceptions without an assigned party are told as their actions say, and so are those that the
audit events of the run are about. -/
structure RecipientsAgree (deps : AgentDependencies ω) (request : RunRequest) (before : Sys ω) : Prop where
  passes : ∀ decided (pass : DispatchPass deps decided), pass.Of request before →
    pass.one.1.responsibleParty = none → pass.Honours
  events : ∀ row ∈ (finalState ((ReconciliationAgent.run deps request).run before)).db.audit.drop
      before.db.audit.length, row.eventType = "notification_dispatched" →
    ∃ decided, ∃ pass : DispatchPass deps decided, pass.Of request before ∧ row.toAuditEvent ∈ pass.events ∧
      row.action = some pass.one.2.action.value ∧ (pass.one.1.responsibleParty = none → pass.Honours)

/-- Every event that a returned loop has listed was listed by one of its passes. -/
theorem exists_pass_of_event {deps : AgentDependencies ω} {state : ReconciliationState}
    {decided : List (ExceptionRecord × ExceptionDecision)} {lists : DispatchLists} {before after : Sys ω}
    (success : (decided.foldlM (dispatchException deps state) {}).run before = .ok lists after)
    {event : AuditEvent} (member : event ∈ lists.events) :
    ∃ pass : DispatchPass deps state, LoopReaches (dispatchException deps state) decided {} before
      pass.one pass.lists pass.before ∧ event ∈ pass.events := by
  have brings := foldlM_brings_iff (fun lists _ => event ∈ lists.events)
    (fun one lists sys => ∃ pass : DispatchPass deps state, pass.one = one ∧ pass.lists = lists ∧
      pass.before = sys ∧ event ∈ pass.events) ?_ success
  · rcases brings.mp member with early | ⟨one, lists, sys, reaches, pass, rfl, rfl, rfl, listed⟩
    · cases early
    · exact ⟨pass, reaches, listed⟩
  · intro one lists sys lists' after stepped
    let pass : DispatchPass deps state := ⟨one, lists, sys, lists', after, stepped⟩
    have grows : lists'.events = lists.events ++ pass.events := pass.told.2
    rw [grows, List.mem_append]
    refine or_congr_right ⟨fun listed => ⟨pass, rfl, rfl, rfl, listed⟩, ?_⟩
    rintro ⟨⟨_, _, _, lists'', after', returned⟩, rfl, rfl, rfl, listed⟩
    rw [stepped] at returned
    cases returned
    exact listed

theorem noDispatchLogged_drafts {deps : AgentDependencies ω} {request : RunRequest}
    {draft : ReconciliationState × DispatchLists} {before drafted : Sys ω}
    (drafts : (draftRun deps request).run before = .ok draft drafted) : NoDispatchLogged before drafted := by
  obtain ⟨begun, started, begins, drafts⟩ := bind_eq_ok_iff.mp drafts
  obtain ⟨-, -, rfl⟩ := beginRun_ok begins
  have started : NoDispatchLogged before (startedSys deps request before) := .of_audit rfl
  exact trans_of NoDispatchLogged started ((keeps_draftNodes (noDispatchLogged_graphFrame deps.llm) _
    (.inr (mailsWithin_noDispatchLogged _ _ _))).of_ok drafts)

theorem noDispatchLogged_verifyNode {deps : AgentDependencies ω} {state final : ReconciliationState}
    {before after : Sys ω} (success : (verifyNode deps state).run before = .ok final after) :
    NoDispatchLogged before after := by
  cases success
  exact ⟨_, rfl, List.forall_mem_singleton.mpr (by decide : "verify_completed" ≠ "notification_dispatched")⟩

/-- The dispatch events that a run commits were listed by its passes. -/
theorem exists_pass_of_row (deps : AgentDependencies ω) (request : RunRequest) (before : Sys ω)
    {row : AuditRow} (added : row ∈ (finalState ((ReconciliationAgent.run deps request).run before)).db.audit.drop
      before.db.audit.length) (dispatched : row.eventType = "notification_dispatched") :
    ∃ decided, ∃ pass : DispatchPass deps decided, pass.Of request before ∧ row.toAuditEvent ∈ pass.events := by
  have silent {after : Sys ω} (none : NoDispatchLogged before after) :
      row ∉ after.db.audit.drop before.db.audit.length := by
    obtain ⟨rows, audit, others⟩ := none
    rw [audit, List.drop_left]
    exact fun member => others row member dispatched
  cases fresh : before.db.runs.find? (chosenRunId deps.host request before.world) with
  | some taken =>
    rw [run_of_taken fresh] at added
    exact (silent (.of_audit rfl) added).elim
  | none =>
    cases graph : graphRun deps request before with
    | error raised ended => exact (silent (noDispatchLogged_of_raises fresh graph) added).elim
    | ok final ended =>
      obtain ⟨decided, lists, drafted, opened, verified, stages, -, same⟩ :=
        (completes_of_graph_returns fresh graph).stages
      obtain ⟨earlier, start, others⟩ := noDispatchLogged_drafts stages.drafts
      obtain ⟨rows, logged, listed⟩ := recordDispatch_audit stages.opens
      obtain ⟨later, verifies, others'⟩ := noDispatchLogged_verifyNode stages.verifies
      rw [run_of_graph_returns fresh graph, finalState_ok, same, audit_concluded, verifies, logged, start,
        List.append_assoc, List.append_assoc, List.drop_left] at added
      have committed : row ∈ rows := by
        rcases List.mem_append.mp added with early | added
        · exact (others row early dispatched).elim
        · rcases List.mem_append.mp added with now | late
          · exact now
          · exact (others' row late dispatched).elim
      have event : row.toAuditEvent ∈ lists.events := by
        rw [← listed]
        exact List.mem_map_of_mem committed
      obtain ⟨decidedSys, reached, loop⟩ := reachesDispatch_of_drafts stages.drafts
      obtain ⟨pass, reaches, member⟩ := exists_pass_of_event loop event
      exact ⟨decided, pass, ⟨decidedSys, reached, reaches⟩, member⟩

/-- In every run, the recipients agree with the audited actions exactly when every exception without an
assigned party whose action names a role is routed to that role by its reason. -/
theorem recipients_agree_iff (deps : AgentDependencies ω) (request : RunRequest) (before : Sys ω) :
    RecipientsAgree deps request before ↔
      ∀ decided (pass : DispatchPass deps decided), pass.Of request before →
        pass.one.1.responsibleParty = none → NamesRouted pass.one := by
  constructor
  · intro agree decided pass ofRun unassigned
    exact (pass.honours_iff unassigned).mp (agree.passes decided pass ofRun unassigned)
  · intro routed
    have honours (decided : ReconciliationState) (pass : DispatchPass deps decided) (ofRun : pass.Of request before)
        (unassigned : pass.one.1.responsibleParty = none) : pass.Honours :=
      (pass.honours_iff unassigned).mpr (routed decided pass ofRun unassigned)
    refine ⟨honours, fun row added dispatched => ?_⟩
    obtain ⟨decided, pass, ofRun, member⟩ := exists_pass_of_row deps request before added dispatched
    obtain ⟨status, named⟩ := pass.told.1.named _ member
    have action : row.action = some pass.one.2.action.value := congrArg AuditEvent.action named
    exact ⟨decided, pass, ofRun, member, action, honours decided pass ofRun⟩

theorem mockDecision_namesRouted {exception : ExceptionRecord} {withinSla : Bool} {threshold : ℚ}
    {decision : ExceptionDecision} (answer : mockDecision exception withinSla threshold = .ok decision) :
    NamesRouted (exception, decision) := by
  have action : decision.action = mockAction exception withinSla := by
    unfold mockDecision at answer
    dsimp only at answer
    split at answer
    · cases answer
      rfl
    · cases answer
  intro role named
  dsimp only at named ⊢
  rw [action] at named
  unfold mockAction at named
  cases reason : exception.reason <;> rw [reason] at named <;> dsimp only at named <;>
    first | (split at named <;> cases named) | cases named
  all_goals decide

/-- The guardrail keeps what a decision names, if the fallback names nobody. -/
theorem namesRouted_planned {exception : ExceptionRecord} {proposed : ExceptionDecision}
    (routed : NamesRouted (exception, proposed)) {planner : PlannerConfig}
    (fallback : planner.offListFallback.addressee? = none) (withinSla : Bool) :
    NamesRouted (exception, finalDecision proposed (planAction proposed planner withinSla)) := by
  unfold finalDecision planAction
  split
  · exact namesRouted_of_none fallback
  · split
    · exact namesRouted_of_none fallback
    · exact routed

/-- The offline client behind a fallback like `ESCALATE` names only roles that the reason is routed to. -/
theorem mock_names_routed {deps : AgentDependencies ω} (offline : deps.llm = mockLlm)
    (fallback : deps.config.planner.offListFallback.addressee? = none) {request : RunRequest} {before : Sys ω}
    {decided : ReconciliationState} (pass : DispatchPass deps decided) (ofRun : pass.Of request before) :
    NamesRouted pass.one := by
  obtain ⟨decidedSys, ⟨begun, started, sorted, sortedSys, begins, sorts, decides⟩, reaches⟩ := ofRun
  have judged := decideNode_decides decides
  have same : sorted.exceptions = decided.exceptions := by rw [decideNode_ok decides]
  rw [same] at judged
  obtain ⟨world, proposed, answer, final⟩ := (List.forall₂_iff_zip.mp judged).2 reaches.mem
  unfold proposedDecision at answer
  rw [offline] at answer
  have planned := namesRouted_planned (mockDecision_namesRouted answer) fallback
    (pass.one.1.slaStatus == .withinSla)
  rw [← final] at planned
  exact planned

/-- A completed run has made a pass over every exception it decided. -/
theorem ReconciliationAgent.Completes.exists_pass {deps : AgentDependencies ω} {request : RunRequest}
    {before after : Sys ω} {final : ReconciliationState} {outcome : RunOutcome}
    (completes : Completes deps request before final outcome after) {one : ExceptionRecord × ExceptionDecision}
    (member : one ∈ decidedPairs final) :
    ∃ decided, ∃ pass : DispatchPass deps decided, pass.Of request before ∧ pass.one = one := by
  obtain ⟨decided, lists, drafted, opened, verified, stages, -, -⟩ := completes.stages
  obtain ⟨decidedSys, reached, loop⟩ := reachesDispatch_of_drafts stages.drafts
  have pairs : decidedPairs final = decidedPairs decided := by
    have verifies := stages.verifies
    cases verifies
    rfl
  rw [pairs] at member
  obtain ⟨lists, sys, lists', after, reaches, passed⟩ := loopReaches_of_mem loop member
  exact ⟨decided, ⟨one, lists, sys, lists', after, passed⟩, ⟨decidedSys, reached, reaches⟩, rfl⟩

/-- A client that wants the bank to be told about everything. -/
def bankLlm : LlmClient ω :=
  .ofFunctions (fun _ _ => .ok {})
    (fun _ _ _ => .ok { severity := .routine, action := .emailBank, rationale := "Ask the bank." })
    (fun _ _ _ => .ok scriptedDraft)

/-- An unpaid cash order is audited as told to the bank, and the store manager is told. -/
theorem bank_action_tells_manager :
    let deps := buildDependencies shippedConfig bankLlm mockNotifier closedBreaker (fixedHost (defaultDate + 2))
    (∃ decided, ∃ pass : DispatchPass deps decided, pass.Of separateRequest emptyStart ∧
      pass.one.2.action = .emailBank ∧ ¬pass.Involves .bank ∧ pass.Addresses .storeManager) ∧
      ¬RecipientsAgree deps separateRequest emptyStart := by
  intro deps
  have misnamed : (ReconciliationAgent.completedRun deps separateRequest emptyStart).any (fun ended =>
      (decidedPairs ended.1).any fun one => decide (one.1.reason = .cashMissing ∧
        one.1.responsibleParty = none ∧ one.2.action = .emailBank)) = true := by
    decide +kernel
  obtain ⟨final, outcome, after, completes, test⟩ := ReconciliationAgent.completes_passing misnamed
  obtain ⟨one, member, found⟩ := List.any_eq_true.mp test
  obtain ⟨missing, unassigned, bank⟩ := of_decide_eq_true found
  obtain ⟨decided, pass, ofRun, rfl⟩ := completes.exists_pass member
  have targets : (mailedTargets deps.config pass.one).map RecipientTarget.role = [.storeManager] := by
    rw [roles_mailedTargets_of_addressee (congrArg PlannerAction.addressee? bank), routedRoles, unassigned, missing]
    rfl
  have notBank : ¬pass.Involves .bank := by
    rw [pass.involves_iff, targets]
    decide
  refine ⟨⟨decided, pass, ofRun, bank, notBank, ?_⟩, fun agree => ?_⟩
  · rw [pass.addresses_iff, targets]
    exact List.mem_singleton_self _
  · have honours := agree.passes decided pass ofRun unassigned
    unfold DispatchPass.Honours at honours
    rw [bank] at honours
    exact notBank (.inl honours.drafted)

end ReconcileFlow
