import ReconcileFlow.Soundness.Closing
import ReconcileFlow.Soundness.DryRunLifecycle
import ReconcileFlow.Soundness.RunTrail

/-! # What a dry run previews

A dry run reads the same rows, asks the same questions and drafts the same mails as a real one; it only
leaves the sending out. So with a client that answers by its arguments, whatever run completes on some
rows is previewed by a dry run on them, from any state: the dry run completes, with the same matches,
exceptions and decisions, and with the same mails word for word, all of them unsent.
-/

namespace ReconcileFlow

open EffectRun ReconciliationAgent

variable {ω : Type}

/-- A mail without the status of its dispatch. -/
def EmailMessageView.draft (mail : EmailMessageView) : EmailMessageView := { mail with status := "" }

section Mails

variable {deps : AgentDependencies ω} (functional : deps.llm.Functional) {dry dry' : Bool}
include functional

theorem MailsTarget.draft_unique {exception : ExceptionRecord} {tag : String} {target : RecipientTarget}
    {mail mail' : EmailMessageView} (first : MailsTarget deps dry exception tag target mail)
    (second : MailsTarget deps dry' exception tag target mail') : mail.draft = mail'.draft := by
  obtain ⟨world, draft, reply, -, same⟩ := first
  obtain ⟨world', draft', reply', -, same'⟩ := second
  have answers := functional.draftEmail exception target.role tag world world'
  rw [reply, reply'] at answers
  cases answers
  rw [same, same']
  rfl

theorem MailsTargets.drafts_unique {one : ExceptionRecord × ExceptionDecision} {mails mails' : List EmailMessageView}
    (first : MailsTargets deps dry one mails) (second : MailsTargets deps dry' one mails') :
    mails.map EmailMessageView.draft = mails'.map EmailMessageView.draft := by
  unfold MailsTargets at first second
  generalize mailedTargets deps.config one = targets at first second
  induction first generalizing mails' with
  | nil =>
    cases second
    rfl
  | cons drafted _ ih =>
    obtain ⟨mail', rest', drafted', later, rfl⟩ := List.forall₂_cons_left_iff.mp second
    rw [List.map_cons, List.map_cons, drafted.draft_unique functional drafted', ih later]

/-- Two loops over the same decided exceptions draft the same mails. -/
theorem LoopTrail.drafts_unique {runId runId' : String} {decided : List (ExceptionRecord × ExceptionDecision)}
    {emails emails' : List EmailMessageView} {events events' : List AuditEvent} {mails mails' : List (List EmailMessageView)}
    (first : LoopTrail deps dry runId decided emails events mails)
    (second : LoopTrail deps dry' runId' decided emails' events' mails') :
    emails.map EmailMessageView.draft = emails'.map EmailMessageView.draft := by
  have targets := first.targets
  have targets' := second.targets
  rw [first.emails, second.emails]
  clear first second
  induction targets generalizing mails' with
  | nil =>
    cases targets'
    rfl
  | cons drafted _ ih =>
    obtain ⟨own, rest', drafted', later, rfl⟩ := List.forall₂_cons_left_iff.mp targets'
    rw [List.flatten_cons, List.flatten_cons, List.map_append, List.map_append,
      drafted.drafts_unique functional drafted', ih later]

end Mails

/-- A dry loop sends nothing. -/
theorem LoopTrail.unsent {deps : AgentDependencies ω} {runId : String}
    {decided : List (ExceptionRecord × ExceptionDecision)} {emails : List EmailMessageView} {events : List AuditEvent}
    {mails : List (List EmailMessageView)} (trail : LoopTrail deps true runId decided emails events mails) :
    ∀ mail ∈ emails, mail.status = NotificationStatus.skipped.value := by
  intro mail member
  rw [trail.emails, List.mem_flatten] at member
  obtain ⟨own, listed, member⟩ := member
  obtain ⟨one, -, drafted⟩ := Reports.exists_of_forall₂ trail.targets.flip listed
  obtain ⟨target, -, world, draft, -, unsent, -⟩ := Reports.exists_of_forall₂ (List.Forall₂.flip drafted) member
  exact unsent rfl

/-- What the nodes up to the exception list make of a request. -/
def requestSorted (deps : AgentDependencies ω) (request : RunRequest) (before : Sys ω) : ReconciliationState :=
  sortedState deps (initialState deps.config request (chosenRunId deps.host request before.world)
    (startedAsOf deps request before)) (requestReply deps request before.world)

/-- Neither the run id nor the dry-run flag shows in what is sorted. -/
theorem sortedState_flags (deps : AgentDependencies ω) (initial : ReconciliationState)
    (reply : Except Raised FuzzyProposal) (runId : String) (dryRun : Bool) :
    sortedState deps { initial with runId, dryRun } reply =
      { sortedState deps initial reply with runId, dryRun } := by
  unfold sortedState afterFuzzyEdge
  have same : routesToFuzzy deps (afterKeys deps.config { initial with runId, dryRun }) =
    routesToFuzzy deps (afterKeys deps.config initial) := rfl
  rw [same]
  split <;> rfl

/-- A completed run adds decisions, mails, keys and a summary to what it sorted. -/
theorem ReconciliationAgent.Completes.requestSorted {deps : AgentDependencies ω} {request : RunRequest}
    {before after : Sys ω} {final : ReconciliationState} {outcome : RunOutcome}
    (completes : Completes deps request before final outcome after) :
    final =
      { requestSorted deps request before with
        decisions := final.decisions
        emails := final.emails
        currentKeys := final.currentKeys
        summary := final.summary } := by
  obtain ⟨decided, lists, drafted, opened, verified, stages, -⟩ := completes.stages
  obtain ⟨begun, started, begins, drafts⟩ := bind_eq_ok_iff.mp stages.drafts
  obtain ⟨-, rfl, rfl⟩ := beginRun_ok begins
  obtain ⟨asked, -, rfl⟩ := draftNodes_asked drafts
  obtain ⟨resolved, -, rfl⟩ := logged_verifyNode stages.verifies
  rfl

/-- A dry run serves every target that the client drafts a mail for. -/
theorem serves_of_dry {deps : AgentDependencies ω} {state : ReconciliationState} (dry : state.dryRun = true)
    {exception : ExceptionRecord} {tag : String} {target : RecipientTarget} {before : Sys ω}
    (drafts : ∃ draft, (deps.llm.draftEmail exception target.role tag before.world).1 = .ok draft) :
    ServesTarget deps state exception tag target before := by
  obtain ⟨draft, reply⟩ := drafts
  have drafted : ∃ between, (callOutside (.draftEmail exception target.role tag)
      (deps.llm.draftEmail exception target.role tag)).run before = .ok draft between := by
    unfold callOutside
    dsimp only [EStateM.run]
    rw [reply]
    exact ⟨_, rfl⟩
  obtain ⟨between, drafted⟩ := drafted
  refine ⟨draft, between, drafted, ?_⟩
  unfold dispatchOne
  rw [if_pos dry]
  exact ⟨_, _, rfl⟩

/-- The graph of a dry run returns when its exceptions can be decided and the mails about them drafted. -/
theorem dry_graph_returns {deps : AgentDependencies ω} (functional : deps.llm.Functional) {request : RunRequest}
    (dry : request.dryRun = true) {before : Sys ω} {decisions : List ExceptionDecision}
    (decided : List.Forall₂ (Decides deps) (requestSorted deps request before).exceptions decisions)
    (drafted : ∀ one ∈ (requestSorted deps request before).exceptions.zip decisions,
      ∀ target ∈ mailedTargets deps.config one, Drafts deps one target) :
    ∃ final ended, graphRun deps request before = .ok final ended := by
  obtain ⟨sortedSys, sorts, -⟩ := sortNodes_run deps (initialState deps.config request
    (chosenRunId deps.host request before.world) (startedAsOf deps request before)) (startedSys deps request before)
  obtain ⟨decidedSys, decides⟩ := decideNode_returns functional decided sortedSys
  have flagged : (requestSorted deps request before).dryRun = true := (sortNodes_dryRun sorts).trans dry
  have served : ServesTargets deps { requestSorted deps request before with decisions }
      ((requestSorted deps request before).exceptions.zip decisions) {} decidedSys := by
    refine .of_forall (fun one member lists sys => .of_forall (fun target present _ sys => ?_) lists sys) _ _
    obtain ⟨world, draft, reply⟩ := drafted one member target present
    exact serves_of_dry flagged ⟨draft, (functional.draftEmail _ _ _ sys.world world).trans reply⟩
  obtain ⟨lists, looped, loop⟩ := dispatchLoop_returns_iff.mpr served
  exact invokeGraph_of_drafts ((bind_of_ok sorts).trans ((bind_of_ok decides).trans (bind_of_ok loop)))

/-- The mails of a completed run are those of its dispatch loop. -/
theorem ReconciliationAgent.Completes.loopTrail {deps : AgentDependencies ω} {request : RunRequest}
    {before after : Sys ω} {final : ReconciliationState} {outcome : RunOutcome}
    (completes : Completes deps request before final outcome after) :
    ∃ runId events mails, LoopTrail deps request.dryRun runId (decidedPairs final) final.emails events mails := by
  obtain ⟨decided, lists, drafted, opened, verified, stages, -⟩ := completes.stages
  obtain ⟨begun, started, begins, drafts⟩ := bind_eq_ok_iff.mp stages.drafts
  obtain ⟨-, rfl, -⟩ := beginRun_ok begins
  obtain ⟨-, mails, -, -, -, trail⟩ := draftNodes_trail drafts
  obtain ⟨resolved, -, rfl⟩ := logged_verifyNode stages.verifies
  exact ⟨_, _, mails, trail⟩

/-- What a dry run, with final state `shown`, says about a run with final state `final`. -/
structure Previews (shown final : ReconciliationState) : Prop where
  matched : shown.matched = final.matched
  fuzzyAutoApplied : shown.fuzzyAutoApplied = final.fuzzyAutoApplied
  exceptions : shown.exceptions = final.exceptions
  decisions : shown.decisions = final.decisions
  currentKeys : shown.currentKeys = final.currentKeys
  drafts : shown.emails.map EmailMessageView.draft = final.emails.map EmailMessageView.draft
  unsent : ∀ mail ∈ shown.emails, mail.status = NotificationStatus.skipped.value

end ReconcileFlow
