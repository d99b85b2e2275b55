import ReconcileFlow.Soundness.Decisions

/-! # What the dispatch loop leaves behind

The lifecycle list, the current keys and the mailed pairs of the loop follow from the exceptions and
their decisions, whatever becomes of the mails. A request reaches the notifier only for a mailed
pair that was not notified when the loop began, and no `SENT` row is touched. With a client that
answers by its arguments and a notifier that raises only its own errors, a loop that returned once
returns from any state.
-/

namespace ReconcileFlow

open EffectRun

variable {ω : Type}

def EmailMessageView.pair (email : EmailMessageView) : String × String :=
  (email.mismatchKey, email.recipientEmail)

def RecipientTarget.pair (target : RecipientTarget) : String × String := (target.mismatchKey, target.email)

/-- The lifecycle entry of a target. -/
def targetEntry (exception : ExceptionRecord) (status : ExceptionLifecycleStatus)
    (target : RecipientTarget) : LifecycleEntry :=
  ⟨target.mismatchKey, exception.reason.value, status⟩

/-- The lifecycle entries of a decided exception. -/
def entriesOf (config : AppConfig) (decided : ExceptionRecord × ExceptionDecision) : List LifecycleEntry :=
  if decided.2.action = .wait then
    (resolveTargets config decided.1).map (targetEntry decided.1 .opened)
  else
    let (_, status, targets) := targetsForAction config decided.1 decided.2.action
    targets.map (targetEntry decided.1 status)

/-- The targets a decided exception is mailed to. -/
def mailedTargets (config : AppConfig) (decided : ExceptionRecord × ExceptionDecision) :
    List RecipientTarget :=
  if decided.2.action = .wait then []
  else (targetsForAction config decided.1 decided.2.action).2.2

/-- The client drafted the mail to a target, in some world. -/
def Drafts (deps : AgentDependencies ω) (decided : ExceptionRecord × ExceptionDecision)
    (target : RecipientTarget) : Prop :=
  ∃ world draft, (deps.llm.draftEmail decided.1 target.role
    (targetsForAction deps.config decided.1 decided.2.action).1 world).1 = .ok draft

theorem SentKept.trans {before between after : Sys ω} (first : SentKept before between)
    (second : SentKept between after) : SentKept before after :=
  fun row member sent => second row (first row member sent) sent

/-- A pair that is notified stays notified. -/
theorem SentKept.alreadyNotified {before after : Sys ω} (kept : SentKept before after)
    {pair : String × String} (notified : before.db.alreadyNotified pair.1 pair.2 = true) :
    after.db.alreadyNotified pair.1 pair.2 = true := by
  obtain ⟨row, member, same, sent⟩ := alreadyNotified_iff.mp notified
  exact alreadyNotified_iff.mpr ⟨row, kept row member sent, same, sent⟩

/-- A stretch that mails at most the given pairs, and none that was notified before. What the notifier
delivered is on record. -/
structure Mails (before : Sys ω) (pairs : List (String × String)) (after : Sys ω) : Prop where
  kept : SentKept before after
  exceptions : after.db.exceptions = before.db.exceptions
  requests : ∃ new, sendRequests after.calls = sendRequests before.calls ++ new ∧
    ∀ request ∈ new, request.pair ∈ pairs ∧
      before.db.alreadyNotified request.mismatchKey request.toEmail = false
  delivered : ∀ pair, deliveries pair before.calls < deliveries pair after.calls →
    after.db.alreadyNotified pair.1 pair.2 = true

theorem Quiet.mails {before after : Sys ω} (quiet : Quiet before after) (pairs : List (String × String)) :
    Mails before pairs after where
  kept := by
    intro row member _
    rw [quiet.notifications]
    exact member
  exceptions := quiet.exceptions
  requests := ⟨[], by rw [quiet.requests, List.append_nil], fun _ none => (List.not_mem_nil none).elim⟩
  delivered pair more := ((quiet.deliveries pair).not_gt more).elim

theorem Mails.trans {before between after : Sys ω} {first second : List (String × String)}
    (start : Mails before first between) (next : Mails between second after) :
    Mails before (first ++ second) after := by
  obtain ⟨new, requests, each⟩ := start.requests
  obtain ⟨new', requests', each'⟩ := next.requests
  refine ⟨start.kept.trans next.kept, next.exceptions.trans start.exceptions, ⟨new ++ new', ?_, ?_⟩, ?_⟩
  · rw [requests', requests, List.append_assoc]
  · intro request member
    rcases List.mem_append.mp member with early | late
    · obtain ⟨mailed, fresh⟩ := each request early
      exact ⟨List.mem_append_left _ mailed, fresh⟩
    · obtain ⟨mailed, fresh⟩ := each' request late
      refine ⟨List.mem_append_right _ mailed, ?_⟩
      -- A pair notified at the start would still be notified between the stretches.
      by_contra notified
      rw [Bool.not_eq_false] at notified
      have still : between.db.alreadyNotified request.pair.1 request.pair.2 = true :=
        start.kept.alreadyNotified notified
      exact Bool.false_ne_true (fresh.symm.trans still)
  · intro pair more
    rcases lt_or_ge (deliveries pair before.calls) (deliveries pair between.calls) with early | late
    · exact next.kept.alreadyNotified (start.delivered pair early)
    · exact next.delivered pair (late.trans_lt more)

/-- A dispatch that was answered `SENT` has recorded it. -/
theorem DispatchEnds.recordsDelivered {host : Host ω} {call : DispatchCall} {before : Sys ω}
    {ended : EStateM.Result Raised (Sys ω) SendResult} (ends : DispatchEnds host call before ended)
    (pair : String × String) (more : deliveries pair before.calls < deliveries pair (finalState ended).calls) :
    (finalState ended).db.alreadyNotified pair.1 pair.2 = true := by
  cases ends with
  | duplicate notified => exact (lt_irrefl _ more).elim
  | @recorded result sent new notNotified calls sends =>
    rw [finalState_ok, calls.calls, deliveries_append, deliveries_sendCalls sends] at more
    have toPair : (decide (call.pair = pair) && decide (result.status = .sent)) = true := by
      by_contra other
      rw [Bool.not_eq_true] at other
      rw [other] at more
      exact lt_irrefl _ more
    rw [Bool.and_eq_true, decide_eq_true_eq, decide_eq_true_eq] at toPair
    have own : (call.row result (host.now sent.world)).pair = pair := toPair.1
    have stored := alreadyNotified_recordNotification before.db (call.row result (host.now sent.world)) pair
    rw [if_pos own] at stored
    exact stored.trans (decide_eq_true toPair.2)
  | @escaped raised after notNotified unexpected fails =>
    rw [finalState_error, fails.deliveries] at more
    exact (lt_irrefl _ more).elim

theorem DispatchEnds.mails {host : Host ω} {call : DispatchCall} {before : Sys ω}
    {ended : EStateM.Result Raised (Sys ω) SendResult} (ends : DispatchEnds host call before ended) :
    Mails before [call.pair] (finalState ended) := by
  have kept := ends.sentKept
  have delivered := ends.recordsDelivered
  cases ends with
  | duplicate notified => exact (Quiet.refl before).mails _
  | @recorded result sent new notNotified calls sends =>
    refine ⟨kept, rfl, ⟨sendRequests new, ?_, ?_⟩, delivered⟩
    · rw [finalState_ok, calls.calls, sendRequests_append]
    · intro request member
      rw [sends.request_eq member]
      exact ⟨List.mem_singleton_self _, notNotified⟩
  | @escaped raised after notNotified unexpected fails =>
    obtain ⟨errors, calls⟩ := fails
    refine ⟨kept, congrArg Database.exceptions calls.db,
      ⟨sendRequests (failedSends call.request errors), ?_, ?_⟩, delivered⟩
    · rw [finalState_error, calls.calls, sendRequests_append]
    · intro request member
      rw [mem_sendRequests_failedSends member]
      exact ⟨List.mem_singleton_self _, notNotified⟩

/-! ## The loop -/

/-- A stretch of the loop: what it appended to the lists, and what it mailed. -/
structure LoopStretch (before : Sys ω) (lists : DispatchLists) (entries : List LifecycleEntry)
    (pairs : List (String × String)) (lists' : DispatchLists) (after : Sys ω) : Prop where
  lifecycle : lists'.lifecycle = lists.lifecycle ++ entries
  currentKeys : lists'.currentKeys = lists.currentKeys ++ entries.map LifecycleEntry.mismatchKey
  emails : lists'.emails.map EmailMessageView.pair = lists.emails.map EmailMessageView.pair ++ pairs
  mails : Mails before pairs after

theorem LoopStretch.refl (sys : Sys ω) (lists : DispatchLists) : LoopStretch sys lists [] [] lists sys :=
  ⟨(List.append_nil _).symm, (List.append_nil _).symm, (List.append_nil _).symm, (Quiet.refl sys).mails _⟩

theorem LoopStretch.trans {before between after : Sys ω} {lists lists' lists'' : DispatchLists}
    {entries entries' : List LifecycleEntry} {pairs pairs' : List (String × String)}
    (first : LoopStretch before lists entries pairs lists' between)
    (second : LoopStretch between lists' entries' pairs' lists'' after) :
    LoopStretch before lists (entries ++ entries') (pairs ++ pairs') lists'' after where
  lifecycle := by rw [second.lifecycle, first.lifecycle, List.append_assoc]
  currentKeys := by rw [second.currentKeys, first.currentKeys, List.map_append, List.append_assoc]
  emails := by rw [second.emails, first.emails, List.append_assoc]
  mails := first.mails.trans second.mails

section Loop

variable {deps : AgentDependencies ω} {state : ReconciliationState}

theorem dispatchOne_ok {target : RecipientTarget} {draft : EmailDraft} {result : SendResult}
    {before after : Sys ω} (success : (dispatchOne deps state target draft).run before = .ok result after) :
    Mails before [target.pair] after := by
  unfold dispatchOne at success
  split at success
  · cases success
    exact (Quiet.refl before).mails _
  · have mails := (dispatch_cases deps.notifications deps.host
      { runId := state.runId
        mismatchKey := target.mismatchKey
        recipientRole := target.role
        recipientEmail := target.email
        subject := draft.subject
        body := draft.body } before).mails
    rw [success] at mails
    exact mails

theorem dispatchTarget_ok {exception : ExceptionRecord} {action : PlannerAction} {tag : String}
    {status : ExceptionLifecycleStatus} {lists lists' : DispatchLists} {target : RecipientTarget}
    {before after : Sys ω}
    (success : (dispatchTarget deps state exception action tag status lists target).run before =
      .ok lists' after) :
    LoopStretch before lists [targetEntry exception status target] [target.pair] lists' after ∧
      ∃ world draft, (deps.llm.draftEmail exception target.role tag world).1 = .ok draft := by
  obtain ⟨draft, drafted, drafts, success⟩ := bind_eq_ok_iff.mp success
  obtain ⟨result, sent, sends, finished⟩ := bind_eq_ok_iff.mp success
  have quiet : Quiet before drafted := ((quiet_nodeFrame.graph deps.llm).draftEmail _ _ _).of_ok drafts
  cases finished
  refine ⟨⟨rfl, rfl, ?_, ?_⟩, before.world, draft, ?_⟩
  · rw [List.map_append]
    rfl
  · exact (quiet.mails []).trans (dispatchOne_ok sends)
  · unfold callOutside at drafts
    dsimp only [EStateM.run] at drafts
    split at drafts
    · next value reply =>
      cases drafts
      exact reply
    · cases drafts

theorem dispatchTargets_ok {exception : ExceptionRecord} {action : PlannerAction} {tag : String}
    {status : ExceptionLifecycleStatus} {targets : List RecipientTarget} {lists lists' : DispatchLists}
    {before after : Sys ω}
    (success : (targets.foldlM (dispatchTarget deps state exception action tag status) lists).run before =
      .ok lists' after) :
    LoopStretch before lists (targets.map (targetEntry exception status))
        (targets.map RecipientTarget.pair) lists' after ∧
      ∀ target ∈ targets, ∃ world draft,
        (deps.llm.draftEmail exception target.role tag world).1 = .ok draft := by
  refine foldlM_invariant (fun done lists' sys => LoopStretch before lists
      (done.map (targetEntry exception status)) (done.map RecipientTarget.pair) lists' sys ∧
    ∀ target ∈ done, ∃ world draft,
      (deps.llm.draftEmail exception target.role tag world).1 = .ok draft) ?_ ?_ success
  · rintro done target lists between lists' after ⟨stretch, drafted⟩ stepped
    obtain ⟨next, drafts⟩ := dispatchTarget_ok stepped
    rw [List.map_append, List.map_append]
    refine ⟨stretch.trans next, fun other member => ?_⟩
    rcases List.mem_append.mp member with early | last
    · exact drafted other early
    · rw [List.mem_singleton.mp last]
      exact drafts
  · exact ⟨.refl before lists, fun _ none => (List.not_mem_nil none).elim⟩

theorem dispatchException_ok {decided : ExceptionRecord × ExceptionDecision}
    {lists lists' : DispatchLists} {before after : Sys ω}
    (success : (dispatchException deps state lists decided).run before = .ok lists' after) :
    LoopStretch before lists (entriesOf deps.config decided)
        ((mailedTargets deps.config decided).map RecipientTarget.pair) lists' after ∧
      ∀ target ∈ mailedTargets deps.config decided, Drafts deps decided target := by
  unfold dispatchException at success
  unfold entriesOf mailedTargets
  split at success
  · next waits =>
    cases success
    rw [if_pos waits, if_pos waits]
    refine ⟨⟨rfl, ?_, (List.append_nil _).symm, (Quiet.refl before).mails _⟩, fun _ none =>
      (List.not_mem_nil none).elim⟩
    rw [List.map_map]
    rfl
  · next acts =>
    rw [if_neg acts, if_neg acts]
    exact dispatchTargets_ok success

/-- What a dispatch loop that returns has done. -/
theorem dispatchLoop_ok {decided : List (ExceptionRecord × ExceptionDecision)} {lists : DispatchLists}
    {before after : Sys ω}
    (success : (decided.foldlM (dispatchException deps state) {}).run before = .ok lists after) :
    LoopStretch before {} (decided.flatMap (entriesOf deps.config))
        (decided.flatMap fun one => (mailedTargets deps.config one).map RecipientTarget.pair) lists after ∧
      ∀ one ∈ decided, ∀ target ∈ mailedTargets deps.config one, Drafts deps one target := by
  refine foldlM_invariant (fun done lists sys => LoopStretch before {}
      (done.flatMap (entriesOf deps.config))
      (done.flatMap fun one => (mailedTargets deps.config one).map RecipientTarget.pair) lists sys ∧
    ∀ one ∈ done, ∀ target ∈ mailedTargets deps.config one, Drafts deps one target) ?_ ?_ success
  · rintro done one lists between lists' after ⟨stretch, drafted⟩ stepped
    obtain ⟨next, drafts⟩ := dispatchException_ok stepped
    rw [List.flatMap_append, List.flatMap_append, List.flatMap_singleton, List.flatMap_singleton]
    refine ⟨stretch.trans next, fun other member => ?_⟩
    rcases List.mem_append.mp member with early | last
    · exact drafted other early
    · rw [List.mem_singleton.mp last]
      exact drafts
  · exact ⟨.refl before {}, fun _ none => (List.not_mem_nil none).elim⟩

end Loop

/-! ## The draft of a run -/

/-- The exceptions of a state with their decisions. -/
def decidedPairs (final : ReconciliationState) : List (ExceptionRecord × ExceptionDecision) :=
  final.exceptions.zip final.decisions

/-- The facts of a run up to the end of its dispatch loop, whatever becomes of the mails. -/
structure DraftFacts (deps : AgentDependencies ω) (before : Sys ω) (decided : ReconciliationState)
    (lists : DispatchLists) (drafted : Sys ω) : Prop where
  decides : List.Forall₂ (Decides deps) decided.exceptions decided.decisions
  drafts : ∀ one ∈ decidedPairs decided, ∀ target ∈ mailedTargets deps.config one, Drafts deps one target
  lifecycle : lists.lifecycle = (decidedPairs decided).flatMap (entriesOf deps.config)
  currentKeys : lists.currentKeys = lists.lifecycle.map LifecycleEntry.mismatchKey
  emails : lists.emails.map EmailMessageView.pair =
    (decidedPairs decided).flatMap fun one => (mailedTargets deps.config one).map RecipientTarget.pair
  mails : Mails before (lists.emails.map EmailMessageView.pair) drafted

theorem draftNodes_facts {deps : AgentDependencies ω} {initial decided : ReconciliationState}
    {lists : DispatchLists} {before drafted : Sys ω}
    (success : (draftNodes deps initial).run before = .ok (decided, lists) drafted) :
    DraftFacts deps before decided lists drafted := by
  obtain ⟨sorted, sortedSys, sorts, success⟩ := bind_eq_ok_iff.mp success
  obtain ⟨judged, decidedSys, decides, success⟩ := bind_eq_ok_iff.mp success
  obtain ⟨built, looped, loop, finished⟩ := bind_eq_ok_iff.mp success
  cases finished
  have quiet : Quiet before decidedSys :=
    trans_of Quiet ((keeps_sortNodes (quiet_nodeFrame.graph deps.llm) _).of_ok sorts)
      ((keeps_decideNode (quiet_nodeFrame.graph deps.llm) _).of_ok decides)
  obtain ⟨stretch, drafts⟩ := dispatchLoop_ok loop
  have emails : lists.emails.map EmailMessageView.pair = (decidedPairs decided).flatMap fun one =>
      (mailedTargets deps.config one).map RecipientTarget.pair := stretch.emails
  refine ⟨?_, drafts, stretch.lifecycle, ?_, emails, ?_⟩
  · have judges := decideNode_decides decides
    rw [decideNode_ok decides]
    exact judges
  · rw [stretch.lifecycle]
    exact stretch.currentKeys
  · rw [emails]
    exact (quiet.mails []).trans stretch.mails

/-- The draft keeps the run id it was started with. -/
theorem draftNodes_runId {deps : AgentDependencies ω} {initial decided : ReconciliationState}
    {lists : DispatchLists} {before drafted : Sys ω}
    (success : (draftNodes deps initial).run before = .ok (decided, lists) drafted) :
    decided.runId = initial.runId := by
  obtain ⟨sorted, sortedSys, sorts, success⟩ := bind_eq_ok_iff.mp success
  obtain ⟨judged, decidedSys, decides, success⟩ := bind_eq_ok_iff.mp success
  obtain ⟨built, looped, loop, finished⟩ := bind_eq_ok_iff.mp success
  cases finished
  obtain ⟨ended, returned, -⟩ := sortNodes_run deps initial before
  rw [returned] at sorts
  cases sorts
  rw [decideNode_ok decides]
  unfold sortedState afterFuzzyEdge
  dsimp only
  split <;> rfl

/-- A graph whose dispatch loop ends returns. -/
theorem invokeGraph_of_drafts {deps : AgentDependencies ω} {initial decided : ReconciliationState}
    {lists : DispatchLists} {before drafted : Sys ω}
    (drafts : (draftNodes deps initial).run before = .ok (decided, lists) drafted) :
    ∃ final after, (invokeGraph deps initial).run before = .ok final after := by
  have paired := (draftNodes_facts drafts).decides.length_eq
  obtain ⟨opened, recorded, -⟩ := recordDispatch_run deps decided.runId lists drafted
  have opens : (openDraft deps (decided, lists)).run drafted = .ok (decided.withLists lists) opened := by
    unfold openDraft
    rw [if_neg (not_not.mpr paired), bind_of_ok recorded]
    rfl
  obtain ⟨after, verified, -⟩ := verifyNode_run deps (decided.withLists lists) opened
  rw [invokeGraph_eq_stages, bind_of_ok drafts, bind_of_ok opens]
  exact ⟨_, after, verified⟩

/-- Whatever the graph raises comes from the part up to the end of its dispatch loop. -/
theorem invokeGraph_error_iff {deps : AgentDependencies ω} {initial : ReconciliationState}
    {before after : Sys ω} {raised : Raised} :
    (invokeGraph deps initial).run before = .error raised after ↔
      (draftNodes deps initial).run before = .error raised after := by
  cases drafts : (draftNodes deps initial).run before with
  | ok draft drafted =>
    obtain ⟨final, ended, returned⟩ := invokeGraph_of_drafts drafts
    rw [returned]
    exact iff_of_false (by rintro ⟨⟩) (by rintro ⟨⟩)
  | error thrown drafted =>
    rw [invokeGraph_eq_stages, bind_of_error drafts]
    constructor <;>
      · rintro ⟨⟩
        rfl

/-- The graph raises exactly when the part up to the end of its dispatch loop does. -/
theorem raises_invokeGraph (deps : AgentDependencies ω) (initial : ReconciliationState) (before : Sys ω) :
    EffectRun.raises ((invokeGraph deps initial).run before) =
      EffectRun.raises ((draftNodes deps initial).run before) := by
  cases drafts : (draftNodes deps initial).run before with
  | ok draft drafted =>
    obtain ⟨final, after, returned⟩ := invokeGraph_of_drafts drafts
    rw [returned]
    rfl
  | error raised drafted =>
    rw [invokeGraph_error_iff.mpr drafts]
    rfl

namespace ReconciliationAgent

theorem draftRun_facts {deps : AgentDependencies ω} {request : RunRequest} {decided : ReconciliationState}
    {lists : DispatchLists} {before drafted : Sys ω}
    (success : (draftRun deps request).run before = .ok (decided, lists) drafted) :
    decided.runId = chosenRunId deps.host request before.world ∧
      DraftFacts deps before decided lists drafted := by
  obtain ⟨begun, started, begins, success⟩ := bind_eq_ok_iff.mp success
  obtain ⟨-, rfl, rfl⟩ := beginRun_ok begins
  have quiet : Quiet before (startedSys deps request before) := ⟨rfl, rfl, rfl, fun _ => rfl⟩
  have facts := draftNodes_facts success
  refine ⟨draftNodes_runId success, facts.decides, facts.drafts, facts.lifecycle, facts.currentKeys,
    facts.emails, (quiet.mails []).trans facts.mails⟩

/-- The run comes to the dispatch loop with these decisions, in this state. -/
def ReachesDispatch (deps : AgentDependencies ω) (request : RunRequest) (before : Sys ω)
    (decided : ReconciliationState) (decidedSys : Sys ω) : Prop :=
  ∃ begun started sorted sortedSys, (beginRun deps request).run before = .ok begun started ∧
    (sortNodes deps (initialState deps.config request begun.1 begun.2)).run started = .ok sorted sortedSys ∧
    (decideNode deps sorted).run sortedSys = .ok decided decidedSys

/-- A run up to the end of its dispatch loop comes to the loop. -/
theorem reachesDispatch_of_drafts {deps : AgentDependencies ω} {request : RunRequest}
    {decided : ReconciliationState} {lists : DispatchLists} {before drafted : Sys ω}
    (drafts : (draftRun deps request).run before = .ok (decided, lists) drafted) :
    ∃ decidedSys, ReachesDispatch deps request before decided decidedSys ∧
      ((decidedPairs decided).foldlM (dispatchException deps decided) {}).run decidedSys = .ok lists drafted := by
  obtain ⟨begun, started, begins, drafts⟩ := bind_eq_ok_iff.mp drafts
  obtain ⟨sorted, sortedSys, sorts, drafts⟩ := bind_eq_ok_iff.mp drafts
  obtain ⟨state, decidedSys, decides, drafts⟩ := bind_eq_ok_iff.mp drafts
  obtain ⟨built, looped, loop, finished⟩ := bind_eq_ok_iff.mp drafts
  cases finished
  exact ⟨decidedSys, ⟨begun, started, sorted, sortedSys, begins, sorts, decides⟩, loop⟩

/-- A run that goes through its stages completes. -/
theorem Stages.completedRun {deps : AgentDependencies ω} {request : RunRequest}
    {before drafted opened verified : Sys ω} {decided final : ReconciliationState} {lists : DispatchLists}
    (stages : Stages deps request before decided lists drafted opened final verified) :
    completedRun deps request before =
      some (final, concluded deps (chosenRunId deps.host request before.world) final verified) := by
  obtain ⟨-, facts⟩ := draftRun_facts stages.drafts
  obtain ⟨begun, started, begins, drafts⟩ := bind_eq_ok_iff.mp stages.drafts
  have opens : (openDraft deps (decided, lists)).run drafted = .ok (decided.withLists lists) opened := by
    unfold openDraft
    rw [if_neg (not_not.mpr facts.decides.length_eq), bind_of_ok stages.opens]
    rfl
  have graph : (invokeGraph deps (initialState deps.config request begun.1 begun.2)).run started =
      .ok final verified := by
    rw [invokeGraph_eq_stages, bind_of_ok drafts, bind_of_ok opens]
    exact stages.verifies
  have executes : (execute deps request).run before = .ok (begun.1, .ok final) verified := by
    rw [execute_eq, bind_of_ok begins, bind_of_ok (attempt_of_ok graph)]
    rfl
  obtain ⟨-, rfl, -⟩ := beginRun_ok begins
  unfold ReconciliationAgent.completedRun
  rw [executes]

end ReconciliationAgent

/-! ## Returning again -/

/-- Every send answers `SENT` or raises one of the notifier's own errors. -/
def Notifier.WellBehaved (notifier : Notifier ω) : Prop :=
  ∀ request world, (∃ result, (notifier.send request world).1 = .ok result ∧ result.status = .sent) ∨
    ∃ kind text, (notifier.send request world).1 = .error (.notify kind text)

/-- Whatever the computation raises is a delivery failure the service expects. -/
def RaisesExpected {α : Type} (func : RunM ω α) : Prop :=
  ∀ before raised after, func.run before = .error raised after → (expectedFailure raised).isSome = true

theorem Notifier.WellBehaved.raisesExpected {notifier : Notifier ω} (wellBehaved : notifier.WellBehaved)
    (request : SendRequest) : RaisesExpected (callOutside (.send request) (notifier.send request)) := by
  intro before raised after failure
  unfold callOutside at failure
  dsimp only [EStateM.run] at failure
  rcases wellBehaved request before.world with ⟨result, reply, -⟩ | ⟨kind, text, reply⟩
  · rw [reply] at failure
    cases failure
  · rw [reply] at failure
    cases failure
    rfl

/-- What the computation raises is expected, or comes after what `Q` says of the two states. -/
def RaisesExpectedOr {α : Type} (Q : Sys ω → Sys ω → Prop) (func : RunM ω α) : Prop :=
  ∀ before raised after, func.run before = .error raised after →
    (expectedFailure raised).isSome = true ∨ Q before after

theorem raisesExpected_iff {α : Type} {func : RunM ω α} :
    RaisesExpected func ↔ RaisesExpectedOr (fun _ _ => False) func := by
  unfold RaisesExpected RaisesExpectedOr
  simp only [or_false]

theorem RaisesExpectedOr.breakerCall {α : Type} {Q : Sys ω → Sys ω → Prop} {func : RunM ω α}
    (expected : RaisesExpectedOr Q func) (breaker : Breaker ω)
    (worlds : ∀ (before after : Sys ω) world world',
      Q { before with world } after → Q before { after with world := world' }) :
    RaisesExpectedOr Q (breaker.call func) := by
  intro before raised after failure
  unfold Breaker.call at failure
  rw [bind_of_ok (run_stepWorld breaker.admits before)] at failure
  split at failure
  · rw [EStateM.run_bind, run_attempt] at failure
    cases ran : func.run { before with world := (breaker.admits before.world).2 } with
    | ok value between =>
      rw [ran] at failure
      cases failure
    | error thrown between =>
      rw [ran] at failure
      dsimp only at failure
      rw [bind_of_ok (run_stepWorld breaker.onFailure between)] at failure
      split at failure
      · cases failure
        exact .inl rfl
      · cases failure
        exact (expected _ _ _ ran).imp_right (worlds before between _ _)
  · cases failure
    exact .inl rfl

theorem RaisesExpectedOr.retryLoop {α : Type} {Q : Sys ω → Sys ω → Prop} {func : RunM ω α}
    (expected : RaisesExpectedOr Q func)
    (later : ∀ before raised between after, func.run before = .error raised between → Q between after →
      Q before after) (retryOn : Raised → Bool) (further : ℕ) :
    RaisesExpectedOr Q (retryLoop func retryOn further) := by
  induction further with
  | zero => exact expected
  | succ further ih =>
    intro before raised after failure
    rw [ReconcileFlow.retryLoop, EStateM.run_bind, run_attempt] at failure
    cases ran : func.run before with
    | ok value between =>
      rw [ran] at failure
      cases failure
    | error thrown between =>
      rw [ran] at failure
      dsimp only at failure
      split at failure
      · exact (ih _ _ _ failure).imp_right (later before thrown between after ran)
      · cases failure
        exact expected _ _ _ ran

theorem RaisesExpected.breakerCall {α : Type} {func : RunM ω α} (expected : RaisesExpected func)
    (breaker : Breaker ω) : RaisesExpected (breaker.call func) := by
  rw [raisesExpected_iff] at expected ⊢
  exact expected.breakerCall breaker fun _ _ _ _ => id

theorem RaisesExpected.retryLoop {α : Type} {func : RunM ω α} (expected : RaisesExpected func)
    (retryOn : Raised → Bool) (further : ℕ) : RaisesExpected (retryLoop func retryOn further) := by
  rw [raisesExpected_iff] at expected ⊢
  exact expected.retryLoop (fun _ _ _ _ _ => id) retryOn further

/-- A dispatch returns when its send raises nothing the service does not expect. -/
theorem NotificationService.dispatch_returns {service : NotificationService ω} {call : DispatchCall}
    (expected : RaisesExpected (callOutside (.send call.request) (service.notifier.send call.request)))
    (host : Host ω) (before : Sys ω) :
    ∃ result after, (service.dispatch host call).run before = .ok result after := by
  have retried : RaisesExpected (callWithRetry (service.attemptSend call.request)
      service.resilience.emailRetryAttempts Raised.isTransient) :=
    (expected.breakerCall service.breaker).retryLoop _ _
  have sends : ∃ result after, (service.send call.request).run before = .ok result after := by
    unfold NotificationService.send
    rw [EStateM.run_bind, run_attempt]
    cases ran : (callWithRetry (service.attemptSend call.request)
        service.resilience.emailRetryAttempts Raised.isTransient).run before with
    | ok result after => exact ⟨_, _, rfl⟩
    | error raised after =>
      obtain ⟨result, failure⟩ := Option.isSome_iff_exists.mp (retried _ _ _ ran)
      exact ⟨result, after, by simp only [failure]; rfl⟩
  obtain ⟨result, after, sent⟩ := sends
  unfold NotificationService.dispatch
  have checked : (NotificationService.checkNotified call).run before =
    .ok (before.db.alreadyNotified call.mismatchKey call.recipientEmail) before := rfl
  rw [bind_of_ok checked]
  split
  · exact ⟨_, _, rfl⟩
  · rw [bind_of_ok sent]
    exact ⟨_, _, rfl⟩

/-- No dispatch raises. -/
def MailReturns (deps : AgentDependencies ω) : Prop :=
  ∀ call before, ∃ result after, (deps.notifications.dispatch deps.host call).run before = .ok result after

theorem Notifier.WellBehaved.mailReturns {deps : AgentDependencies ω}
    (wellBehaved : deps.notifications.notifier.WellBehaved) : MailReturns deps :=
  fun call => NotificationService.dispatch_returns (wellBehaved.raisesExpected call.request) deps.host

/-- The client drafts the mail to a target, and its dispatch raises nothing. -/
def ServesTarget (deps : AgentDependencies ω) (state : ReconciliationState) (exception : ExceptionRecord)
    (tag : String) (target : RecipientTarget) (sys : Sys ω) : Prop :=
  ∃ draft drafted, (callOutside (.draftEmail exception target.role tag)
      (deps.llm.draftEmail exception target.role tag)).run sys = .ok draft drafted ∧
    ∃ result mailed, (dispatchOne deps state target draft).run drafted = .ok result mailed

/-- Every target of the dispatch loop that its turn comes to is served. -/
def ServesTargets (deps : AgentDependencies ω) (state : ReconciliationState)
    (decided : List (ExceptionRecord × ExceptionDecision)) (lists : DispatchLists) (before : Sys ω) : Prop :=
  AlongLoop (fun one lists sys =>
      let (tag, status, _) := targetsForAction deps.config one.1 one.2.action
      AlongLoop (fun target _ sys => ServesTarget deps state one.1 tag target sys)
        (dispatchTarget deps state one.1 one.2.action tag status) (mailedTargets deps.config one) lists sys)
    (dispatchException deps state) decided lists before

/-- A target is served when its draft is answered and the mail returns. -/
theorem MailReturns.serves {deps : AgentDependencies ω} (mail : MailReturns deps)
    {state : ReconciliationState} {exception : ExceptionRecord} {tag : String} {target : RecipientTarget}
    {before : Sys ω} (drafts : ∃ draft, (deps.llm.draftEmail exception target.role tag before.world).1 = .ok draft) :
    ServesTarget deps state exception tag target before := by
  obtain ⟨draft, reply⟩ := drafts
  have drafted : ∃ between, (callOutside (.draftEmail exception target.role tag)
      (deps.llm.draftEmail exception target.role tag)).run before = .ok draft between := by
    unfold callOutside
    dsimp only [EStateM.run]
    rw [reply]
    exact ⟨_, rfl⟩
  obtain ⟨between, drafted⟩ := drafted
  refine ⟨draft, between, drafted, ?_⟩
  unfold dispatchOne
  split
  · exact ⟨_, _, rfl⟩
  · exact mail _ between

section Returns

variable {deps : AgentDependencies ω} {state : ReconciliationState}

theorem dispatchTarget_returns_iff (exception : ExceptionRecord) (action : PlannerAction) (tag : String)
    (status : ExceptionLifecycleStatus) (target : RecipientTarget) (lists : DispatchLists) (before : Sys ω) :
    (∃ lists' after, (dispatchTarget deps state exception action tag status lists target).run before =
        .ok lists' after) ↔ ServesTarget deps state exception tag target before := by
  constructor
  · rintro ⟨lists', after, success⟩
    obtain ⟨draft, drafted, drafts, success⟩ := bind_eq_ok_iff.mp success
    obtain ⟨result, mailed, sends, -⟩ := bind_eq_ok_iff.mp success
    exact ⟨draft, drafted, drafts, result, mailed, sends⟩
  · rintro ⟨draft, drafted, drafts, result, mailed, sends⟩
    unfold dispatchTarget
    rw [bind_of_ok drafts, bind_of_ok sends]
    exact ⟨_, _, rfl⟩

/-- The loop returns exactly when it serves every target it comes to. -/
theorem dispatchLoop_returns_iff {decided : List (ExceptionRecord × ExceptionDecision)}
    {lists : DispatchLists} {before : Sys ω} :
    (∃ lists' after, (decided.foldlM (dispatchException deps state) lists).run before = .ok lists' after) ↔
      ServesTargets deps state decided lists before := by
  refine foldlM_returns_iff.trans (alongLoop_congr (fun one _ lists sys => ?_) lists before)
  unfold dispatchException mailedTargets
  by_cases waits : one.2.action = .wait
  · rw [if_pos waits, if_pos waits]
    exact iff_of_true ⟨_, _, rfl⟩ trivial
  · rw [if_neg waits, if_neg waits]
    exact foldlM_returns_iff.trans (alongLoop_congr (fun target _ lists sys =>
      dispatchTarget_returns_iff one.1 one.2.action _ _ target lists sys) lists sys)

/-- Where every mail can be drafted, the loop returns. -/
theorem dispatchLoop_returns (functional : deps.llm.Functional)
    (wellBehaved : deps.notifications.notifier.WellBehaved)
    {decided : List (ExceptionRecord × ExceptionDecision)}
    (drafts : ∀ one ∈ decided, ∀ target ∈ mailedTargets deps.config one, Drafts deps one target)
    (lists : DispatchLists) (before : Sys ω) :
    ∃ lists' after, (decided.foldlM (dispatchException deps state) lists).run before = .ok lists' after := by
  refine dispatchLoop_returns_iff.mpr (.of_forall (fun one member lists sys => ?_) lists before)
  refine .of_forall (fun target present _ sys => wellBehaved.mailReturns.serves ?_) lists sys
  obtain ⟨world, draft, reply⟩ := drafts one member target present
  exact ⟨draft, (functional.draftEmail _ _ _ sys.world world).trans reply⟩

end Returns

end ReconcileFlow
