import ReconcileFlow.Model.Environment
import ReconcileFlow.Soundness.RunRecords
import ReconcileFlow.Soundness.History

/-! # Who is written to

The LLM writes the subject and the body of a mail and chooses the action, but never the address: every mail
of every run goes to the configured address of its role (`mails_contained`). So a deployment that sets all
of the `RECIPIENT_*` variables mails none of the addresses in its YAML file (`overrides_contain`).
-/

namespace ReconcileFlow

open EffectRun ReconciliationAgent

variable {ω : Type}

/-- The relation allows the mails to what a configuration resolves for an action. -/
def TargetMailsWithin (R : Sys ω → Sys ω → Prop) (deps : AgentDependencies ω) : Prop :=
  ∀ (state : ReconciliationState) exception action, ∀ target ∈ (targetsForAction deps.config exception action).2.2,
    ∀ draft, Keeps R (dispatchOne deps state target draft)

section Targets

variable {R : Sys ω → Sys ω → Prop} [IsPreorder (Sys ω) R] {deps : AgentDependencies ω}

theorem keeps_dispatchTargets (graph : GraphFrame R deps.llm) (mails : TargetMailsWithin R deps)
    (state : ReconciliationState) (decided : List (ExceptionRecord × ExceptionDecision)) (lists : DispatchLists) :
    Keeps R (decided.foldlM (dispatchException deps state) lists) := by
  refine keeps_foldlM (fun lists one => ?_) decided lists
  unfold dispatchException
  split
  · exact keeps_pure _
  · refine keeps_foldlM_of_mem (fun target member lists => ?_) _
    exact keeps_bind (graph.draftEmail _ _ _) fun draft =>
      keeps_bind (mails state _ _ target member draft) fun _ => keeps_pure _

theorem keeps_graphTargets (session : SessionFrame R) (graph : GraphFrame R deps.llm) (lifecycle : LifecycleFrame R)
    (mails : TargetMailsWithin R deps) (initial : ReconciliationState) : Keeps R (invokeGraph deps initial) := by
  have drafts : Keeps R (draftNodes deps initial) := by
    refine keeps_bind (keeps_sortNodes graph initial) fun sorted => ?_
    refine keeps_bind (keeps_decideNode graph sorted) fun decided => ?_
    exact keeps_bind (keeps_dispatchTargets graph mails decided _ _) fun _ => keeps_pure _
  rw [invokeGraph_eq_stages]
  refine keeps_bind drafts fun draft => ?_
  exact keeps_bind (keeps_openDraft session lifecycle deps draft) fun dispatched =>
    keeps_verifyNode session lifecycle deps dispatched

/-- A run keeps what the mails to its targets and the mails about its incidents keep. -/
theorem keeps_runTargets (node : NodeFrame R) (lifecycle : LifecycleFrame R) (record : RunFrame R)
    (mails : TargetMailsWithin R deps)
    (admin : ∀ incident, Keeps R (deps.incidents.notifyAdmin deps.host incident)) (request : RunRequest) :
    Keeps R (ReconciliationAgent.run deps request) := by
  have handles (runId : String) (raised : Raised) : Keeps R (handleFailure deps request runId raised) := by
    refine keeps_bind (keeps_bind (keeps_createIncident (node.host _) record _ _ _ _ _) fun incident =>
      keeps_bind (admin incident) fun _ => keeps_pure _) fun incident => ?_
    exact keeps_bind (keeps_finishRun node.session.rollback record _ _ _ _) fun _ => keeps_pure _
  unfold ReconciliationAgent.run
  rw [execute_eq, bind_assoc]
  refine keeps_bind (keeps_beginRun (node.host deps.host) record request) fun begun => ?_
  rw [bind_assoc]
  refine keeps_bind (keeps_attempt
    (keeps_graphTargets node.session (node.graph deps.llm) lifecycle mails _)) fun result => ?_
  rw [pure_bind]
  cases result with
  | ok final => exact keeps_bind (keeps_finishRun node.session.rollback record _ _ _ _) fun _ => keeps_pure _
  | error raised => exact handles _ raised

end Targets

/-- The configuration has the address for the role, under some gateway. -/
def RecipientsConfig.Lists (recipients : RecipientsConfig) (role : RecipientRole) (address : String) : Prop :=
  ∃ gateway, address = recipients.forRole role gateway

/-- Whatever an exception looks like and whatever is decided, its targets have configured addresses. -/
theorem targetsForAction_listed {config : AppConfig} {exception : ExceptionRecord} {action : PlannerAction}
    {target : RecipientTarget} (member : target ∈ (targetsForAction config exception action).2.2) :
    config.recipients.Lists target.role target.email := by
  have resolved (present : target ∈ resolveTargets config exception) :
      config.recipients.Lists target.role target.email := by
    obtain ⟨role, -, rfl⟩ := List.mem_map.mp present
    exact ⟨_, rfl⟩
  cases action with
  | escalate =>
    rw [List.mem_singleton.mp member]
    exact ⟨none, rfl⟩
  | _ => exact resolved member

/-- What was handed to the notifier or recorded since then has an address that passes. -/
structure MailsOnly (passes : RecipientRole → String → Prop) (before after : Sys ω) : Prop where
  requests : ∀ request ∈ sendRequests after.calls,
    request ∈ sendRequests before.calls ∨ passes request.recipientRole request.toEmail
  rows : ∀ row ∈ after.db.notifications.rows,
    row ∈ before.db.notifications.rows ∨ passes row.recipientRole row.recipientEmail

namespace MailsOnly

variable {passes : RecipientRole → String → Prop}

theorem of_same {before after : Sys ω} (calls : sendRequests after.calls = sendRequests before.calls)
    (rows : after.db.notifications = before.db.notifications) : MailsOnly passes before after where
  requests request member := .inl (by rwa [calls] at member)
  rows row member := .inl (by rwa [rows] at member)

instance : IsPreorder (Sys ω) (MailsOnly passes) where
  refl _ := of_same rfl rfl
  trans _ _ _ first second :=
    ⟨fun request member => (second.requests request member).elim (first.requests request) .inr,
      fun row member => (second.rows row member).elim (first.rows row) .inr⟩

theorem nodeFrame : NodeFrame (MailsOnly passes : Sys ω → Sys ω → Prop) where
  world _ _ := of_same rfl rfl
  rollback only := ⟨only.requests, fun _ member => .inl member⟩
  audit _ _ _ := of_same rfl rfl
  judge sys _ asked := of_same (sendRequests_judgement sys.calls (ExternalCall.unsent_of_judgement asked)) rfl

theorem lifecycleFrame : LifecycleFrame (MailsOnly passes : Sys ω → Sys ω → Prop) where
  upsert _ _ _ _ _ _ := of_same rfl rfl
  sweep _ _ _ _ := of_same rfl rfl

theorem runFrame : RunFrame (MailsOnly passes : Sys ω → Sys ω → Prop) where
  runs _ _ := of_same rfl rfl
  incident _ _ _ := of_same rfl rfl
  stored sys _ := of_same (sendRequests_judgement sys.calls rfl) rfl

/-- A dispatch to an address that passes. -/
theorem keeps_dispatch {call : DispatchCall} (addressed : passes call.recipientRole call.recipientEmail)
    (service : NotificationService ω) (host : Host ω) : Keeps (MailsOnly passes) (service.dispatch host call) := by
  have handed (sys : Sys ω) (reply : Except Raised SendResult) :
      MailsOnly passes sys { sys with calls := sys.calls ++ [.send call.request reply] } := by
    refine ⟨fun request member => ?_, fun _ member => .inl member⟩
    rw [sendRequests_append, List.mem_append] at member
    rcases member with early | last
    · exact .inl early
    · rw [List.mem_singleton.mp last]
      exact .inr addressed
  have attempts : Keeps (MailsOnly passes) (service.attemptSend call.request) :=
    keeps_breakerCall (keeps_stepWorld nodeFrame _) (keeps_stepWorld nodeFrame _) (keeps_stepWorld nodeFrame _)
      (keeps_callOutside nodeFrame handed _)
  refine ReconcileFlow.keeps_dispatch nodeFrame.session.rollback attempts (fun sys result now => ?_) host
  refine ⟨fun _ member => .inl member, fun row member => ?_⟩
  rcases KeyedTable.mem_put.mp member with rfl | ⟨early, -⟩
  · exact .inr addressed
  · exact .inl early

end MailsOnly

/-- The collaborators of a run write to what its configuration lists, incidents included. -/
theorem run_mailsOnly {deps : AgentDependencies ω} {recipients : RecipientsConfig}
    (configured : deps.config.recipients = recipients) (admin : deps.incidents.adminEmail = recipients.admin)
    (request : RunRequest) : Keeps (MailsOnly recipients.Lists) (ReconciliationAgent.run deps request) := by
  refine keeps_runTargets MailsOnly.nodeFrame MailsOnly.lifecycleFrame MailsOnly.runFrame ?_ (fun incident => ?_) request
  · intro state exception action target member draft
    unfold dispatchOne
    split
    · exact keeps_pure _
    · refine MailsOnly.keeps_dispatch ?_ deps.notifications deps.host
      rw [← configured]
      exact targetsForAction_listed member
  · unfold IncidentService.notifyAdmin
    split
    · split
      · exact keeps_bind (keeps_attempt (MailsOnly.keeps_dispatch ⟨none, admin⟩ _ _)) fun _ => keeps_pure _
      · exact keeps_pure _
    · exact keeps_pure _

/-- The runs of a deployment: every agent is built from a configuration with these recipients. -/
def Deployed (recipients : RecipientsConfig) (run : ScheduledRun ω) : Prop :=
  run.deps.config.recipients = recipients ∧ run.deps.incidents.adminEmail = recipients.admin

theorem leaves_mailsOnly {recipients : RecipientsConfig} {run : ScheduledRun ω} (deployed : Deployed recipients run)
    (sys : Sys ω) : MailsOnly recipients.Lists sys (run.leaves sys) := by
  have found : MailsOnly recipients.Lists sys (run.finds sys) := .of_same rfl rfl
  exact trans_of _ found (run_mailsOnly deployed.1 deployed.2 run.request (run.finds sys))

/-- What every run of a history keeps holds along the history. -/
theorem ScheduledRun.runAll_of_leaves {R : Sys ω → Sys ω → Prop} [IsPreorder (Sys ω) R] {runs : List (ScheduledRun ω)}
    (each : ∀ run ∈ runs, ∀ sys, R sys (run.leaves sys)) (start : Sys ω) : R start (runAll start runs) := by
  induction runs generalizing start with
  | nil => exact refl_of R start
  | cons run rest ih =>
    obtain ⟨first, later⟩ := List.forall_mem_cons.mp each
    exact trans_of R (first start) (ih later (run.leaves start))

/-- A run that mails the store, and one that fails and mails the administrator. -/
def mailingHistory : List (ScheduledRun Unit) :=
  [⟨scriptedDependencies (.ok {}), { separateRequest with runId := some "run-1" }, ()⟩,
    ⟨refusingDependencies, { separateRequest with runId := some "run-2" }, ()⟩]

/-- The recipients that the variables alone describe. -/
def AppSettings.recipients (settings : AppSettings) : RecipientsConfig where
  storeManager := settings.recipientStoreManager
  admin := settings.recipientAdmin
  bank := settings.recipientBank
  paymentGateways gateway := some (settings.recipientPg gateway)

theorem overrideGateway_of_set {table : PaymentGateway → Option String} {gateway : PaymentGateway} {override : String}
    (set : override ≠ "") :
    RecipientsConfig.overrideGateway table gateway override = Function.update table gateway (some override) :=
  if_neg set

/-- When every variable is set, nothing of the file is left. -/
theorem applyOverrides_of_set {settings : AppSettings} (set : ∀ value ∈ settings.overrides, value ≠ "")
    (recipients : RecipientsConfig) : recipients.applyOverrides settings = settings.recipients := by
  unfold AppSettings.overrides at set
  simp only [List.forall_mem_cons] at set
  obtain ⟨store, admin, bank, razorpay, payu, cashfree, -⟩ := set
  unfold RecipientsConfig.applyOverrides AppSettings.recipients
  dsimp only
  rw [if_neg store, if_neg admin, if_neg bank, overrideGateway_of_set razorpay, overrideGateway_of_set payu,
    overrideGateway_of_set cashfree]
  congr 1
  funext gateway
  cases gateway <;> rfl

theorem mem_overrides_of_listed {settings : AppSettings} {role : RecipientRole} {address : String}
    (listed : settings.recipients.Lists role address) : address ∈ settings.overrides := by
  obtain ⟨gateway, rfl⟩ := listed
  unfold AppSettings.overrides
  cases role with
  | paymentGateway =>
    match gateway with
    | none | some .razorpay | some .payu | some .cashfree =>
      simp [RecipientsConfig.forRole, RecipientsConfig.forGateway, AppSettings.recipients, AppSettings.recipientPg]
  | _ => simp [RecipientsConfig.forRole, AppSettings.recipients]

theorem MailsOnly.mono {passes passes' : RecipientRole → String → Prop} {before after : Sys ω}
    (only : MailsOnly passes before after) (weaker : ∀ role address, passes role address → passes' role address) :
    MailsOnly passes' before after where
  requests request member := (only.requests request member).imp_right (weaker _ _)
  rows row member := (only.rows row member).imp_right (weaker _ _)

/-- A deployment that sets all six variables writes to nobody else, whatever addresses its file has. -/
theorem overrides_contain {settings : AppSettings} (set : ∀ value ∈ settings.overrides, value ≠ "")
    {file : RecipientsConfig} {runs : List (ScheduledRun ω)}
    (deployed : ∀ run ∈ runs, Deployed (file.applyOverrides settings) run) (start : Sys ω) :
    MailsOnly (fun _ address => address ∈ settings.overrides) start (ScheduledRun.runAll start runs) := by
  refine ScheduledRun.runAll_of_leaves (fun run member sys => ?_) start
  have only := leaves_mailsOnly (deployed run member) sys
  rw [applyOverrides_of_set set] at only
  exact only.mono fun role address => mem_overrides_of_listed

/-- A demo that sends everything to one inbox, and two for the gateways. -/
def demoSettings : AppSettings where
  recipientStoreManager := "me@inbox.test"
  recipientAdmin := "me@inbox.test"
  recipientBank := "me@inbox.test"
  recipientPgRazorpay := "pg@inbox.test"
  recipientPgPayu := "pg@inbox.test"
  recipientPgCashfree := "pg@inbox.test"

def demoHistory : List (ScheduledRun Unit) :=
  let config := shippedConfig.resolved demoSettings
  [⟨buildDependencies config (scriptedLlm (.ok {})) mockNotifier closedBreaker (fixedHost (defaultDate + 2)),
    { separateRequest with runId := some "run-1" }, ()⟩]

theorem overrides_contain_demo :
    ((sendRequests (ScheduledRun.runAll emptyStart demoHistory).calls).map SendRequest.toEmail).dedup =
        ["me@inbox.test", "pg@inbox.test"] ∧
      MailsOnly (fun _ address => address ∈ demoSettings.overrides) emptyStart
        (ScheduledRun.runAll emptyStart demoHistory) :=
  ⟨by decide +kernel, overrides_contain (by decide) (fun run member => by
    obtain rfl := List.mem_singleton.mp member
    exact ⟨rfl, rfl⟩) emptyStart⟩

end ReconcileFlow
