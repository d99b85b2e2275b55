import ReconcileFlow.Model.BackgroundRuns
import ReconcileFlow.Soundness.AuditTrail

/-! # The trail of a run follows the pipeline

Each node logs events of its own rank, so the events of a run come in pipeline order wherever the run
ends: this is what lets the trail serve as a progress feed. A graph that raises stops at the decisions,
and only a graph that returns logs the last event. The trail of a completed run is known event by event.
-/

namespace ReconcileFlow

open EffectRun ReconciliationAgent

variable {ω : Type}

/-- The rows added to the audit log are events of this run and of this rank. -/
def LogsRank (runId : String) (rank : ℕ) (before after : Sys ω) : Prop :=
  ∃ rows, after.db.audit = before.db.audit ++ rows ∧
    ∀ row ∈ rows, row.runId = runId ∧ eventRank row.eventType = some rank

namespace LogsRank

variable {runId : String} {rank : ℕ}

theorem of_audit {before after : Sys ω} (same : after.db.audit = before.db.audit) :
    LogsRank runId rank before after :=
  ⟨[], by rw [same, List.append_nil], fun _ none => (List.not_mem_nil none).elim⟩

instance : IsPreorder (Sys ω) (LogsRank runId rank) where
  refl _ := .of_audit rfl
  trans _ _ _ first second := by
    obtain ⟨rows, audit, ranked⟩ := first
    obtain ⟨rows', audit', ranked'⟩ := second
    refine ⟨rows ++ rows', by rw [audit', audit, List.append_assoc], ?_⟩
    exact List.forall_mem_append.mpr ⟨ranked, ranked'⟩

theorem rollsBack : RollsBack (LogsRank runId rank : Sys ω → Sys ω → Prop) := fun _ _ _ => .of_audit rfl

theorem lifecycleFrame : LifecycleFrame (LogsRank runId rank : Sys ω → Sys ω → Prop) where
  upsert _ _ _ _ _ _ := .of_audit rfl
  sweep _ _ _ _ := .of_audit rfl

theorem runFrame : RunFrame (LogsRank runId rank : Sys ω → Sys ω → Prop) where
  runs _ _ := .of_audit rfl
  incident _ _ _ := .of_audit rfl
  stored _ _ := .of_audit rfl

theorem hostFrame (host : Host ω) : HostFrame (LogsRank runId rank) host :=
  ⟨fun _ => .of_audit rfl, fun _ => .of_audit rfl⟩

theorem mailsWithin (service : NotificationService ω) (host : Host ω) (other : String) :
    MailsWithin (LogsRank runId rank) service host other :=
  fun call _ sys => .of_audit (dispatch_cases service host call sys).audit

end LogsRank

/-- The audit log is as it was. -/
def SameAudit (before after : Sys ω) : Prop := after.db.audit = before.db.audit

instance : IsPreorder (Sys ω) SameAudit where
  refl _ := rfl
  trans _ _ _ first second := Eq.trans second first

section Nodes

variable {runId : String} {rank : ℕ}

/-- Asking anybody leaves the audit log alone. -/
theorem logsRank_callOutside {α : Type} (record : Except Raised α → ExternalCall) (act : ω → Except Raised α × ω) :
    Keeps (LogsRank runId rank) (callOutside record act) := by
  intro sys
  rw [finalState_callOutside]
  exact .of_audit rfl

theorem logsRank_logEvent {event : AuditEvent} (ofRun : event.runId = runId)
    (ranked : eventRank event.eventType = some rank) (host : Host ω) :
    Keeps (LogsRank runId rank) (logEvent host event) :=
  fun sys => ⟨[{ event with ts := host.now sys.world }], rfl, List.forall_mem_singleton.mpr ⟨ofRun, ranked⟩⟩

theorem logsRank_session {event : AuditEvent} (ofRun : event.runId = runId)
    (ranked : eventRank event.eventType = some rank) (host : Host ω) :
    Keeps (LogsRank runId rank) (withSession (logEvent host event)) :=
  keeps_withSession LogsRank.rollsBack (logsRank_logEvent ofRun ranked host)

variable {deps : AgentDependencies ω} {state : ReconciliationState}

theorem logsRank_reconcileNode (ofRun : state.runId = runId) :
    Keeps (LogsRank runId 1) (reconcileNode deps state) :=
  keeps_bind (logsRank_session ofRun rfl deps.host) fun _ => keeps_pure _

/-- The pairing loop reports pairings, all of them in the fuzzy phase. -/
theorem eventRank_applyPairings {thresholds : FuzzyMatchConfig} {pairings : List FuzzyPairing}
    {event : String × String × String} (member : event ∈ (applyPairings thresholds state pairings).events) :
    eventRank event.1 = some 2 := by
  unfold applyPairings at member
  suffices all : ∀ (pairings : List FuzzyPairing) (fuzzy : FuzzyState),
      (∀ event ∈ fuzzy.events, eventRank event.1 = some 2) →
      ∀ event ∈ (pairings.foldl (applyPairing thresholds) fuzzy).events, eventRank event.1 = some 2 from
    all _ (initialFuzzyState state) (fun _ none => (List.not_mem_nil none).elim) event member
  intro pairings
  induction pairings with
  | nil => exact fun _ all => all
  | cons pairing rest ih =>
    intro fuzzy all
    refine ih _ fun event member => ?_
    unfold applyPairing at member
    split at member
    · exact all event member
    · split_ifs at member
      · rcases List.mem_append.mp member with early | last
        · exact all event early
        · rw [List.mem_singleton.mp last]
          rfl
      · rcases List.mem_append.mp member with early | last
        · exact all event early
        · rw [List.mem_singleton.mp last]
          rfl
      · exact all event member

theorem logsRank_fuzzyEdge (ofRun : state.runId = runId) : Keeps (LogsRank runId 2) (fuzzyEdge deps state) := by
  have proposes : Keeps (LogsRank runId 2) (proposedPairings deps state) := by
    refine keeps_bind (keeps_attempt (logsRank_callOutside _ _)) fun reply => ?_
    cases reply with
    | ok proposal => exact keeps_pure _
    | error raised => exact keeps_bind (logsRank_session ofRun rfl deps.host) fun _ => keeps_pure _
  unfold fuzzyEdge
  split
  · refine keeps_bind proposes fun pairings => keeps_bind (keeps_withSession LogsRank.rollsBack ?_) fun _ => keeps_pure _
    exact keeps_foldlM_of_mem (fun event member _ =>
      logsRank_logEvent ofRun (eventRank_applyPairings member) deps.host) _
  · exact keeps_pure _

theorem logsRank_classifyNode (ofRun : state.runId = runId) :
    Keeps (LogsRank runId 3) (classifyNode deps state) :=
  keeps_bind (logsRank_session ofRun rfl deps.host) fun _ => keeps_pure _

theorem logsRank_decideNode (ofRun : state.runId = runId) : Keeps (LogsRank runId 4) (decideNode deps state) := by
  refine keeps_bind (keeps_withSession LogsRank.rollsBack (keeps_foldlM (fun decisions exception => ?_) _ _))
    fun _ => keeps_pure _
  exact keeps_bind (logsRank_callOutside _ _) fun _ =>
    keeps_bind (logsRank_logEvent ofRun rfl deps.host) fun _ => keeps_pure _

end Nodes

/-- The rows added to the audit log are events of this run; a trail that had reached at most `low` accepts
them, and then has reached at most `high`. -/
def Trails (runId : String) (low high : ℕ) (before after : Sys ω) : Prop :=
  ∃ rows, after.db.audit = before.db.audit ++ rows ∧ (∀ row ∈ rows, row.runId = runId) ∧
    ∀ start ≤ low, ∃ reached ≤ high, advance start rows = some reached

theorem advance_append (start : ℕ) (first second : List AuditRow) :
    advance start (first ++ second) = (advance start first).bind fun reached => advance reached second :=
  List.foldlM_append

theorem advanceRank_of_rank {start rank : ℕ} {event : AuditRow} (ranked : eventRank event.eventType = some rank)
    (behind : start ≤ rank) : advanceRank start event = some rank := by
  unfold advanceRank
  rw [ranked, Option.filter_some, if_pos (decide_eq_true behind)]

theorem advance_of_rank {rank : ℕ} {rows : List AuditRow}
    (ranked : ∀ row ∈ rows, eventRank row.eventType = some rank) {start : ℕ} (behind : start ≤ rank) :
    ∃ reached ≤ rank, advance start rows = some reached := by
  induction rows generalizing start with
  | nil => exact ⟨start, behind, rfl⟩
  | cons row rest ih =>
    obtain ⟨first, later⟩ := List.forall_mem_cons.mp ranked
    obtain ⟨reached, within, advanced⟩ := ih later (Nat.le_refl rank)
    refine ⟨reached, within, ?_⟩
    unfold advance at advanced ⊢
    rw [List.foldlM_cons, advanceRank_of_rank first behind]
    exact advanced

namespace Trails

variable {runId : String} {before between after : Sys ω}

theorem of_logsRank {rank : ℕ} (logs : LogsRank runId rank before after) : Trails runId rank rank before after := by
  obtain ⟨rows, audit, ranked⟩ := logs
  exact ⟨rows, audit, fun row member => (ranked row member).1, fun start behind =>
    advance_of_rank (fun row member => (ranked row member).2) behind⟩

theorem mono {low low' high high' : ℕ} (trails : Trails runId low high before after) (lower : low' ≤ low)
    (higher : high ≤ high') : Trails runId low' high' before after := by
  obtain ⟨rows, audit, own, advances⟩ := trails
  refine ⟨rows, audit, own, fun start behind => ?_⟩
  obtain ⟨reached, within, advanced⟩ := advances start (behind.trans lower)
  exact ⟨reached, within.trans higher, advanced⟩

theorem trans {low middle high : ℕ} (first : Trails runId low middle before between)
    (second : Trails runId middle high between after) : Trails runId low high before after := by
  obtain ⟨rows, audit, own, advances⟩ := first
  obtain ⟨rows', audit', own', advances'⟩ := second
  refine ⟨rows ++ rows', by rw [audit', audit, List.append_assoc], List.forall_mem_append.mpr ⟨own, own'⟩, ?_⟩
  intro start behind
  obtain ⟨middleRank, met, advanced⟩ := advances start behind
  obtain ⟨reached, within, advanced'⟩ := advances' middleRank met
  exact ⟨reached, within, by rw [advance_append, advanced, Option.bind_some, advanced']⟩

/-- Events of one rank, and behind them a trail of later events. -/
theorem keeps_bind_logsRank {α β : Type} {rank low high : ℕ} {x : RunM ω α} {f : α → RunM ω β}
    (first : Keeps (LogsRank runId rank) x)
    (next : ∀ value before between, x.run before = .ok value between → Keeps (Trails runId low high) (f value))
    (earlier : rank ≤ low) (within : rank ≤ high) : Keeps (Trails runId rank high) (x >>= f) :=
  keeps_bind_into first next
    (fun _ _ _ logs trails => ((of_logsRank logs).mono (Nat.le_refl rank) earlier).trans trails)
    fun _ _ logs => (of_logsRank logs).mono (Nat.le_refl rank) within

end Trails

section Graph

variable {deps : AgentDependencies ω} {runId : String}

theorem runId_of_fuzzyEdge {state paired : ReconciliationState} {before after : Sys ω}
    (success : (fuzzyEdge deps state).run before = .ok paired after) : paired.runId = state.runId := by
  obtain ⟨ended, returned, -⟩ := fuzzyEdge_run deps state before
  rw [returned] at success
  cases success
  unfold afterFuzzyEdge
  split <;> rfl

theorem trails_sortNodes {initial : ReconciliationState} (ofRun : initial.runId = runId) :
    Keeps (Trails runId 1 3) (sortNodes deps initial) := by
  refine Trails.keeps_bind_logsRank (logsRank_reconcileNode ofRun) ?_ (show 1 ≤ 2 by omega) (by omega)
  intro reconciled before keyed reconciles
  have own : reconciled.runId = runId := by
    cases reconciles
    exact ofRun
  refine Trails.keeps_bind_logsRank (logsRank_fuzzyEdge own) ?_ (show 2 ≤ 3 by omega) (by omega)
  intro paired keyed pairs edge sys
  exact .of_logsRank (logsRank_classifyNode ((runId_of_fuzzyEdge edge).trans own) sys)

/-- The dispatch loop writes nothing to the audit log. -/
theorem sameAudit_dispatchLoop (deps : AgentDependencies ω) (state : ReconciliationState)
    (decided : List (ExceptionRecord × ExceptionDecision)) (lists : DispatchLists) :
    Keeps SameAudit (decided.foldlM (dispatchException deps state) lists) := by
  refine keeps_foldlM (fun lists one => ?_) _ _
  unfold dispatchException
  split
  · exact keeps_pure _
  · refine keeps_foldlM (fun lists target => ?_) _ _
    refine keeps_bind (fun sys => ?_) fun draft => keeps_bind ?_ fun _ => keeps_pure _
    · rw [finalState_callOutside]
      rfl
    · unfold dispatchOne
      split
      · exact keeps_pure _
      · exact fun sys => (dispatch_cases deps.notifications deps.host _ sys).audit

theorem trails_draftNodes {initial : ReconciliationState} (ofRun : initial.runId = runId) :
    Keeps (Trails runId 1 4) (draftNodes deps initial) := by
  refine keeps_bind_into (R := Trails runId 1 3) (S := Trails runId 3 4) (trails_sortNodes ofRun) ?_
    (fun _ _ _ => Trails.trans) fun _ _ trails => trails.mono (Nat.le_refl 1) (by omega)
  intro sorted before sortedSys sorts sys
  have own : sorted.runId = runId := (sortNodes_runId sorts).trans ofRun
  refine (Trails.of_logsRank (keeps_bind (logsRank_decideNode own) (fun decided => ?_) sys)).mono (by omega)
    (Nat.le_refl 4)
  refine keeps_bind (fun between => ?_) fun _ => keeps_pure _
  exact .of_audit (sameAudit_dispatchLoop deps decided _ _ between)

end Graph

/-! ## The events of each node -/

/-- The events added to the audit log. -/
def Logged (before : Sys ω) (events : List AuditEvent) (after : Sys ω) : Prop :=
  ∃ rows, after.db.audit = before.db.audit ++ rows ∧ rows.map AuditRow.toAuditEvent = events

namespace Logged

theorem of_audit {before after : Sys ω} (same : after.db.audit = before.db.audit) : Logged before [] after :=
  ⟨[], by rw [same, List.append_nil], rfl⟩

theorem trans {before between after : Sys ω} {first second : List AuditEvent} (early : Logged before first between)
    (late : Logged between second after) : Logged before (first ++ second) after := by
  obtain ⟨rows, audit, logged⟩ := early
  obtain ⟨rows', audit', logged'⟩ := late
  exact ⟨rows ++ rows', by rw [audit', audit, List.append_assoc], by rw [List.map_append, logged, logged']⟩

theorem single (sys : Sys ω) (event : AuditEvent) (now : Timestamp) :
    Logged sys [event] { sys with db := sys.db.logEvent event now } :=
  ⟨[{ event with ts := now }], rfl, rfl⟩

end Logged

/-- The event of the key matching. -/
def reconciledEvent (config : AppConfig) (state : ReconciliationState) : AuditEvent :=
  let result := reconcileKeys state.obligations state.settlements config.reconciliation.amountTolerance
  { runId := state.runId
    eventType := "reconcile_completed"
    status := some "ok"
    details := [("matched", .count result.matched.length),
      ("key_exceptions", .count result.exceptions.length),
      ("unmatched_obligations", .count result.unmatchedObligations.length),
      ("unmatched_settlements", .count result.unmatchedSettlements.length)] }

/-- The event of a failed fuzzy proposal. -/
def skippedEvent (runId : String) (raised : Raised) : AuditEvent where
  runId := runId
  eventType := "fuzzy_match_skipped"
  status := some "degraded"
  details := [("error", .text raised.text)]

/-- The event of a pairing that was acted on. -/
def fuzzyEvent (runId : String) (event : String × String × String) : AuditEvent where
  runId := runId
  eventType := event.1
  orderId := some event.2.1
  details := [("rationale", .text event.2.2)]

/-- The events of the proposal: none, when it succeeds. -/
def proposalTrail (runId : String) : Except Raised FuzzyProposal → List AuditEvent
  | .ok _ => []
  | .error raised => [skippedEvent runId raised]

/-- The events of the conditional edge. -/
def fuzzyTrail (deps : AgentDependencies ω) (state : ReconciliationState) (reply : Except Raised FuzzyProposal) :
    List AuditEvent :=
  if routesToFuzzy deps state then
    proposalTrail state.runId reply ++
      (applyPairings deps.config.fuzzyMatch state (replyPairings reply)).events.map (fuzzyEvent state.runId)
  else []

/-- The event of the final exception list. -/
def finalizedEvent (runId : String) (total : ℕ) : AuditEvent where
  runId := runId
  eventType := "exceptions_finalized"
  status := some "ok"
  details := [("total_exceptions", .count total)]

/-- The event of a decision, with the proposal it was made on. -/
def decidedEvent (deps : AgentDependencies ω) (runId : String) (exception : ExceptionRecord)
    (proposed : ExceptionDecision) : AuditEvent :=
  let planned := planAction proposed deps.config.planner (exception.slaStatus == .withinSla)
  { runId
    eventType := "exception_decided"
    orderId := exception.orderId
    action := some planned.action.value
    reason := some exception.reason.value
    status := some proposed.severity.value
    details := [("used_fallback", .flag planned.usedFallback), ("rationale", .text proposed.rationale)] }

/-- The event says what the client proposed about the exception and what was decided on it. -/
def DecisionLogged (deps : AgentDependencies ω) (runId : String) (one : ExceptionRecord × ExceptionDecision)
    (event : AuditEvent) : Prop :=
  ∃ world proposed, proposedDecision deps one.1 world = .ok proposed ∧
    one.2 = finalDecision proposed (planAction proposed deps.config.planner (one.1.slaStatus == .withinSla)) ∧
    event = decidedEvent deps runId one.1 proposed

/-- The event of the last node. -/
def verifiedEvent (runId : String) (resolved : ℕ) : AuditEvent where
  runId := runId
  eventType := "verify_completed"
  status := some "ok"
  details := [("resolved", .count resolved)]

section Nodes

variable {deps : AgentDependencies ω} {state : ReconciliationState}

theorem logged_reconcileNode {keyed : ReconciliationState} {before after : Sys ω}
    (success : (reconcileNode deps state).run before = .ok keyed after) :
    Logged before [reconciledEvent deps.config state] after := by
  cases success
  exact .single before _ _

theorem logged_classifyNode {classified : ReconciliationState} {before after : Sys ω}
    (success : (classifyNode deps state).run before = .ok classified after) :
    Logged before [finalizedEvent state.runId classified.exceptions.length] after := by
  cases success
  exact .single before _ _

theorem logged_forEach {α : Type} (host : Host ω) (event : α → AuditEvent) (items : List α) {before after : Sys ω}
    (success : (forEach items fun item => logEvent host (event item)).run before = .ok () after) :
    Logged before (items.map event) after := by
  unfold forEach at success
  refine foldlM_invariant (fun done _ sys => Logged before (done.map event) sys) ?_ (.of_audit rfl) success
  rintro done item _ between _ ended logged stepped
  cases stepped
  rw [List.map_append]
  exact logged.trans (.single between _ _)

theorem logged_callOutside {α : Type} {record : Except Raised α → ExternalCall} {act : ω → Except Raised α × ω}
    {value : α} {before after : Sys ω} (success : (callOutside record act).run before = .ok value after) :
    Logged before [] after := by
  have ended := finalState_callOutside record act before
  rw [success, finalState_ok] at ended
  exact .of_audit (by rw [ended])

theorem logged_proposedPairings {pairings : List FuzzyPairing} {before after : Sys ω}
    (success : (proposedPairings deps state).run before = .ok pairings after) :
    pairings = replyPairings (fuzzyReply deps state before.world) ∧
      Logged before (proposalTrail state.runId (fuzzyReply deps state before.world)) after := by
  unfold proposedPairings at success
  unfold fuzzyReply
  rw [EStateM.run_bind, run_attempt] at success
  unfold callOutside at success
  dsimp only [EStateM.run] at success
  cases reply : (deps.llm.proposeFuzzy state.unmatchedObligations state.unmatchedSettlements before.world).1 with
  | ok proposal =>
    rw [reply] at success
    cases success
    exact ⟨rfl, .of_audit rfl⟩
  | error raised =>
    rw [reply] at success
    cases success
    exact ⟨rfl, _, rfl, rfl⟩

theorem logged_fuzzyEdge {paired : ReconciliationState} {before after : Sys ω}
    (success : (fuzzyEdge deps state).run before = .ok paired after) :
    Logged before (fuzzyTrail deps state (fuzzyReply deps state before.world)) after := by
  unfold fuzzyEdge at success
  unfold fuzzyTrail
  split at success
  · next routed =>
    rw [if_pos routed]
    obtain ⟨pairings, proposed, proposes, success⟩ := bind_eq_ok_iff.mp success
    obtain ⟨_, written, writes, finished⟩ := bind_eq_ok_iff.mp success
    cases finished
    obtain ⟨rfl, logged⟩ := logged_proposedPairings proposes
    exact logged.trans (logged_forEach deps.host (fuzzyEvent state.runId) _ (of_withSession_ok writes))
  · next direct =>
    rw [if_neg direct]
    cases success
    exact .of_audit rfl

theorem callOutside_ok {α : Type} {record : Except Raised α → ExternalCall} {act : ω → Except Raised α × ω}
    {value : α} {before after : Sys ω} (success : (callOutside record act).run before = .ok value after) :
    (act before.world).1 = .ok value := by
  unfold callOutside at success
  dsimp only [EStateM.run] at success
  split at success
  · next reply replied =>
    cases success
    exact replied
  · cases success

theorem logged_decideException {runId : String} {decisions decisions' : List ExceptionDecision}
    {exception : ExceptionRecord} {before after : Sys ω}
    (success : (decideException deps runId decisions exception).run before = .ok decisions' after) :
    ∃ decision event, decisions' = decisions ++ [decision] ∧ Logged before [event] after ∧
      DecisionLogged deps runId (exception, decision) event := by
  obtain ⟨proposed, asked, asks, success⟩ := bind_eq_ok_iff.mp success
  have answered : proposedDecision deps exception before.world = .ok proposed := callOutside_ok asks
  have silent := logged_callOutside asks
  cases success
  exact ⟨_, decidedEvent deps runId exception proposed, rfl, silent.trans (.single asked _ _),
    before.world, proposed, answered, rfl, rfl⟩

theorem logged_decideNode {decided : ReconciliationState} {before after : Sys ω}
    (success : (decideNode deps state).run before = .ok decided after) :
    ∃ events, Logged before events after ∧
      List.Forall₂ (DecisionLogged deps state.runId) (decidedPairs decided) events := by
  obtain ⟨decisions, between, loop, finished⟩ := bind_eq_ok_iff.mp success
  cases finished
  obtain ⟨-, events, logged, paired⟩ := foldlM_invariant (fun done decisions sys =>
      done.length = decisions.length ∧ ∃ events, Logged before events sys ∧
        List.Forall₂ (DecisionLogged deps state.runId) (done.zip decisions) events)
    (fun done exception decisions between decisions' after holds stepped => by
      obtain ⟨same, events, logged, paired⟩ := holds
      obtain ⟨decision, event, rfl, last, judged⟩ := logged_decideException stepped
      refine ⟨by rw [List.length_append, List.length_append, same]; rfl, events ++ [event], logged.trans last, ?_⟩
      rw [List.zip_append same]
      exact List.rel_append paired (.cons judged .nil))
    ⟨rfl, [], .of_audit rfl, .nil⟩ (of_withSession_ok loop)
  exact ⟨events, logged, paired⟩

/-- The events of one decided exception, given the mails about it. -/
def mailTrail (runId : String) (one : ExceptionRecord × ExceptionDecision) (mails : List EmailMessageView) :
    List AuditEvent :=
  if one.2.action = .wait then [dispatchEvent runId one.1 .wait "WAITING"]
  else mails.map fun mail => dispatchEvent runId one.1 one.2.action mail.status

/-- The mail to a target: what the client drafted, with the status of its dispatch. -/
def MailsTarget (deps : AgentDependencies ω) (dryRun : Bool) (exception : ExceptionRecord) (tag : String)
    (target : RecipientTarget) (mail : EmailMessageView) : Prop :=
  ∃ world draft, (deps.llm.draftEmail exception target.role tag world).1 = .ok draft ∧
    (dryRun = true → mail.status = NotificationStatus.skipped.value) ∧
    mail =
      { recipientRole := target.role.value
        recipientEmail := target.email
        subject := draft.subject
        body := draft.body
        status := mail.status
        reason := some exception.reason.value
        mismatchKey := target.mismatchKey }

/-- The mails about a decided exception are those to its targets, in their order. -/
def MailsTargets (deps : AgentDependencies ω) (dryRun : Bool) (one : ExceptionRecord × ExceptionDecision)
    (mails : List EmailMessageView) : Prop :=
  List.Forall₂ (MailsTarget deps dryRun one.1 (targetsForAction deps.config one.1 one.2.action).1)
    (mailedTargets deps.config one) mails

/-- The mails and the events of a loop over decided exceptions, exception by exception. -/
structure LoopTrail (deps : AgentDependencies ω) (dryRun : Bool) (runId : String)
    (decided : List (ExceptionRecord × ExceptionDecision)) (emails : List EmailMessageView) (events : List AuditEvent)
    (mails : List (List EmailMessageView)) : Prop where
  targets : List.Forall₂ (MailsTargets deps dryRun) decided mails
  emails : emails = mails.flatten
  events : events = (List.zipWith (mailTrail runId) decided mails).flatten

theorem dispatchTarget_trail {exception : ExceptionRecord} {action : PlannerAction} {tag : String}
    {status : ExceptionLifecycleStatus} {target : RecipientTarget} {lists lists' : DispatchLists} {before after : Sys ω}
    (success : (dispatchTarget deps state exception action tag status lists target).run before = .ok lists' after) :
    ∃ mail : EmailMessageView, lists'.emails = lists.emails ++ [mail] ∧
      lists'.events = lists.events ++ [dispatchEvent state.runId exception action mail.status] ∧
      MailsTarget deps state.dryRun exception tag target mail := by
  obtain ⟨draft, drafted, drafts, success⟩ := bind_eq_ok_iff.mp success
  obtain ⟨result, sent, sends, finished⟩ := bind_eq_ok_iff.mp success
  cases finished
  refine ⟨_, rfl, rfl, before.world, draft, callOutside_ok drafts, fun dry => ?_, rfl⟩
  unfold dispatchOne at sends
  rw [if_pos dry] at sends
  cases sends
  rfl

theorem dispatchTargets_trail {exception : ExceptionRecord} {action : PlannerAction} {tag : String}
    {status : ExceptionLifecycleStatus} {targets : List RecipientTarget} {lists lists' : DispatchLists}
    {before after : Sys ω}
    (success : (targets.foldlM (dispatchTarget deps state exception action tag status) lists).run before =
      .ok lists' after) :
    ∃ mails, lists'.emails = lists.emails ++ mails ∧
      lists'.events = lists.events ++ (mails.map fun mail => dispatchEvent state.runId exception action mail.status) ∧
      List.Forall₂ (MailsTarget deps state.dryRun exception tag) targets mails := by
  refine foldlM_invariant (fun done lists' _ => ∃ mails, lists'.emails = lists.emails ++ mails ∧
    lists'.events = lists.events ++ (mails.map fun mail => dispatchEvent state.runId exception action mail.status) ∧
    List.Forall₂ (MailsTarget deps state.dryRun exception tag) done mails) ?_
    ⟨[], (List.append_nil _).symm, (List.append_nil _).symm, .nil⟩ success
  rintro done target acc between acc' ended ⟨mails, emails, events, drafted⟩ stepped
  obtain ⟨mail, lastEmail, lastEvent, last⟩ := dispatchTarget_trail stepped
  refine ⟨mails ++ [mail], ?_, ?_, List.rel_append drafted (.cons last .nil)⟩
  · rw [lastEmail, emails, List.append_assoc]
  · rw [lastEvent, events, List.map_append, List.append_assoc]
    rfl

theorem dispatchException_trail {one : ExceptionRecord × ExceptionDecision} {lists lists' : DispatchLists}
    {before after : Sys ω} (success : (dispatchException deps state lists one).run before = .ok lists' after) :
    ∃ mails, lists'.emails = lists.emails ++ mails ∧
      lists'.events = lists.events ++ mailTrail state.runId one mails ∧ MailsTargets deps state.dryRun one mails := by
  unfold dispatchException at success
  unfold MailsTargets mailTrail mailedTargets
  split at success
  · next waits =>
    cases success
    refine ⟨[], (List.append_nil _).symm, ?_, ?_⟩
    · rw [if_pos waits]
      rfl
    · rw [if_pos waits]
      exact .nil
  · next acts =>
    obtain ⟨mails, emails, events, drafted⟩ := dispatchTargets_trail success
    refine ⟨mails, emails, ?_, ?_⟩
    · rw [if_neg acts]
      exact events
    · rw [if_neg acts]
      exact drafted

theorem dispatchLoop_trail {decided : List (ExceptionRecord × ExceptionDecision)} {lists : DispatchLists}
    {before after : Sys ω}
    (success : (decided.foldlM (dispatchException deps state) {}).run before = .ok lists after) :
    ∃ mails, LoopTrail deps state.dryRun state.runId decided lists.emails lists.events mails := by
  refine foldlM_invariant (fun done lists _ => ∃ mails, LoopTrail deps state.dryRun state.runId done lists.emails
    lists.events mails) ?_ ⟨[], .nil, rfl, rfl⟩ success
  rintro done one lists between lists' ended ⟨mails, trail⟩ stepped
  obtain ⟨last, emails, events, targets⟩ := dispatchException_trail stepped
  refine ⟨mails ++ [last], List.rel_append trail.targets (.cons targets .nil), ?_, ?_⟩
  · rw [emails, trail.emails, List.flatten_append, List.flatten_singleton]
  · rw [events, trail.events, List.zipWith_append trail.targets.length_eq, List.flatten_append]
    congr 1
    exact (List.flatten_singleton).symm

end Nodes

/-! ## The trail of a completed run -/

/-- The audit events of a completed run, in the order in which they were committed: the key matching, the
fuzzy step where it is routed, the exception list, one event for each decision, the dispatches exception
by exception with the status of each mail, and the sweep with the number it resolved. -/
structure RunTrail (deps : AgentDependencies ω) (request : RunRequest) (before : Sys ω)
    (final : ReconciliationState) (events : List AuditEvent) : Prop where
  trail : ∃ decisions dispatches mails resolved,
    let runId := chosenRunId deps.host request before.world
    let initial := initialState deps.config request runId (startedAsOf deps request before)
    events = reconciledEvent deps.config initial ::
      (fuzzyTrail deps (afterKeys deps.config initial) (requestReply deps request before.world) ++
        finalizedEvent runId final.exceptions.length :: (decisions ++ (dispatches ++ [verifiedEvent runId resolved]))) ∧
    List.Forall₂ (DecisionLogged deps runId) (decidedPairs final) decisions ∧
    LoopTrail deps request.dryRun runId (decidedPairs final) final.emails dispatches mails ∧
    final.summary = some (buildSummary final resolved)

/-- What the nodes up to the end of the dispatch loop have logged, and what the loop has listed. -/
theorem draftNodes_trail {deps : AgentDependencies ω} {initial decided : ReconciliationState}
    {lists : DispatchLists} {before drafted : Sys ω}
    (success : (draftNodes deps initial).run before = .ok (decided, lists) drafted) :
    ∃ decisions mails, Logged before (reconciledEvent deps.config initial ::
        (fuzzyTrail deps (afterKeys deps.config initial)
            (fuzzyReply deps (afterKeys deps.config initial) before.world) ++
          finalizedEvent initial.runId decided.exceptions.length :: decisions)) drafted ∧
      decided.runId = initial.runId ∧
      List.Forall₂ (DecisionLogged deps initial.runId) (decidedPairs decided) decisions ∧
      LoopTrail deps initial.dryRun initial.runId (decidedPairs decided) lists.emails lists.events mails := by
  obtain ⟨sorted, sortedSys, sorts, success⟩ := bind_eq_ok_iff.mp success
  obtain ⟨judged, decidedSys, decides, success⟩ := bind_eq_ok_iff.mp success
  obtain ⟨built, looped, loop, finished⟩ := bind_eq_ok_iff.mp success
  cases finished
  have own : sorted.runId = initial.runId := sortNodes_runId sorts
  have flagged : sorted.dryRun = initial.dryRun := sortNodes_dryRun sorts
  obtain ⟨reconciled, keyedSys, reconciles, sorts⟩ := bind_eq_ok_iff.mp sorts
  obtain ⟨paired, pairedSys, pairs, classifies⟩ := bind_eq_ok_iff.mp sorts
  obtain ⟨keyed, returned, frame⟩ := reconcileNode_run deps initial before
  have first := logged_reconcileNode reconciles
  rw [reconciles] at returned
  cases returned
  have second := logged_fuzzyEdge pairs
  have third := logged_classifyNode classifies
  obtain ⟨decisions, fourth, judges⟩ := logged_decideNode decides
  have still : Logged decidedSys [] drafted := .of_audit ((sameAudit_dispatchLoop deps _ _ _).of_ok loop)
  obtain ⟨mails, trail⟩ := dispatchLoop_trail loop
  rw [frame.world] at second
  rw [runId_of_fuzzyEdge pairs] at third
  rw [own] at judges
  have kept : decided.exceptions = sorted.exceptions := by rw [decideNode_ok decides]
  have ofRun : decided.runId = initial.runId := by
    rw [decideNode_ok decides]
    exact own
  have dry : decided.dryRun = initial.dryRun := by
    rw [decideNode_ok decides]
    exact flagged
  rw [ofRun, dry] at trail
  refine ⟨decisions, mails, ?_, ofRun, judges, trail⟩
  rw [kept]
  have logged := first.trans (second.trans (third.trans (fourth.trans still)))
  rwa [List.append_nil] at logged

theorem logged_verifyNode {deps : AgentDependencies ω} {state final : ReconciliationState} {before after : Sys ω}
    (success : (verifyNode deps state).run before = .ok final after) :
    ∃ resolved, Logged before [verifiedEvent state.runId resolved] after ∧
      final = { state with summary := some (buildSummary state resolved) } := by
  cases success
  exact ⟨_, .single { before with db := _ } _ _, rfl⟩

/-- The trail of a completed run, event by event. -/
theorem completed_run_trail {deps : AgentDependencies ω} {request : RunRequest} {before after : Sys ω}
    {final : ReconciliationState} {outcome : RunOutcome}
    (completes : Completes deps request before final outcome after) :
    ∃ rows, after.db.audit = before.db.audit ++ rows ∧
      RunTrail deps request before final (rows.map AuditRow.toAuditEvent) := by
  obtain ⟨decided, lists, drafted, opened, verified, stages, -, rfl⟩ := completes.stages
  obtain ⟨begun, started, begins, drafts⟩ := bind_eq_ok_iff.mp stages.drafts
  obtain ⟨-, rfl, rfl⟩ := beginRun_ok begins
  obtain ⟨decisions, mails, logged, own, judges, trail⟩ := draftNodes_trail drafts
  have recorded : Logged drafted lists.events opened := recordDispatch_audit stages.opens
  obtain ⟨resolved, swept, rfl⟩ := logged_verifyNode stages.verifies
  obtain ⟨rows, audit, events⟩ := logged.trans (recorded.trans swept)
  refine ⟨rows, ?_, decisions, lists.events, mails, resolved, ?_, judges, trail, rfl⟩
  · rw [audit_concluded, audit]
    rfl
  · rw [events]
    change _ ++ (lists.events ++ [verifiedEvent decided.runId resolved]) = _
    rw [own, List.cons_append, List.append_assoc, List.cons_append]
    rfl

/-- Two unpaid orders and a stray settlement. -/
theorem completed_run_trail_separate : ∃ final outcome after rows,
    Completes (scriptedDependencies (.ok {})) separateRequest emptyStart final outcome after ∧
      after.db.audit = emptyStart.db.audit ++ rows ∧
      RunTrail (scriptedDependencies (.ok {})) separateRequest emptyStart final (rows.map AuditRow.toAuditEvent) := by
  have returns : (completedRun (scriptedDependencies (.ok {})) separateRequest emptyStart).any
      (fun _ => true) = true := by
    decide +kernel
  obtain ⟨final, outcome, after, completes, -⟩ := completes_passing returns
  obtain ⟨rows, audit, trail⟩ := completed_run_trail completes
  exact ⟨final, outcome, after, rows, completes, audit, trail⟩

/-! ## The trail of every run -/

theorem mem_mailTrail {runId : String} {one : ExceptionRecord × ExceptionDecision} {mails : List EmailMessageView}
    {event : AuditEvent} (member : event ∈ mailTrail runId one mails) :
    event.runId = runId ∧ eventRank event.eventType = some 5 := by
  unfold mailTrail at member
  split at member
  · rw [List.mem_singleton.mp member]
    exact ⟨rfl, rfl⟩
  · obtain ⟨mail, -, rfl⟩ := List.mem_map.mp member
    exact ⟨rfl, rfl⟩

/-- The dispatch loop lists events of its own rank. -/
theorem LoopTrail.ranked {deps : AgentDependencies ω} {dryRun : Bool} {runId : String} {decided : List (ExceptionRecord × ExceptionDecision)}
    {emails : List EmailMessageView} {events : List AuditEvent} {mails : List (List EmailMessageView)}
    (trail : LoopTrail deps dryRun runId decided emails events mails) :
    ∀ event ∈ events, event.runId = runId ∧ eventRank event.eventType = some 5 := by
  intro event member
  rw [trail.events, List.mem_flatten] at member
  obtain ⟨one, listed, member⟩ := member
  rw [← List.map_uncurry_zip_eq_zipWith] at listed
  obtain ⟨decidedMails, -, rfl⟩ := List.mem_map.mp listed
  exact mem_mailTrail member

theorem Logged.logsRank {before after : Sys ω} {events : List AuditEvent} (logged : Logged before events after)
    {runId : String} {rank : ℕ}
    (ranked : ∀ event ∈ events, event.runId = runId ∧ eventRank event.eventType = some rank) :
    LogsRank runId rank before after := by
  obtain ⟨rows, audit, rfl⟩ := logged
  exact ⟨rows, audit, fun row member => ranked _ (List.mem_map_of_mem member)⟩

/-- A graph that returns ends its trail on the last rank. -/
theorem ReconciliationAgent.Stages.reachesLast {deps : AgentDependencies ω} {request : RunRequest}
    {before drafted opened verified : Sys ω} {decided final : ReconciliationState} {lists : DispatchLists}
    (stages : Stages deps request before decided lists drafted opened final verified) :
    ∃ rows, verified.db.audit = before.db.audit ++ rows ∧
      (∀ row ∈ rows, row.runId = chosenRunId deps.host request before.world) ∧
      advance 0 rows = some totalRank := by
  obtain ⟨begun, started, begins, drafts⟩ := bind_eq_ok_iff.mp stages.drafts
  obtain ⟨-, rfl, rfl⟩ := beginRun_ok begins
  obtain ⟨decisions, mails, -, own, -, trail⟩ := draftNodes_trail drafts
  have early := (trails_draftNodes rfl).of_ok drafts
  have recorded : Logged drafted lists.events opened := recordDispatch_audit stages.opens
  have later := Trails.of_logsRank (recorded.logsRank trail.ranked)
  obtain ⟨rows, audit, ofRun, advances⟩ := early.trans (later.mono (show 4 ≤ 5 by omega) (Nat.le_refl 5))
  obtain ⟨resolved, ⟨swept, audit', events⟩, -⟩ := logged_verifyNode stages.verifies
  obtain ⟨last, rfl, event⟩ := List.map_eq_singleton_iff.mp events
  have kind : last.eventType = "verify_completed" := congrArg AuditEvent.eventType event
  have run : last.runId = chosenRunId deps.host request before.world :=
    (congrArg AuditEvent.runId event).trans own
  obtain ⟨reached, within, advanced⟩ := advances 0 (by omega)
  refine ⟨rows ++ [last], by rw [audit', audit, List.append_assoc]; rfl,
    List.forall_mem_append.mpr ⟨ofRun, List.forall_mem_singleton.mpr run⟩, ?_⟩
  rw [advance_append, advanced, Option.bind_some]
  unfold advance
  have ranked : eventRank last.eventType = some totalRank := by
    rw [kind]
    rfl
  rw [List.foldlM_cons, advanceRank_of_rank ranked (within.trans (by decide))]
  rfl

/-- A run that does not complete stops its trail at the decisions. -/
theorem trail_of_incomplete {deps : AgentDependencies ω} {request : RunRequest} {before : Sys ω}
    (incomplete : completedRun deps request before = none) :
    Trails (chosenRunId deps.host request before.world) 1 4 before
      (finalState ((ReconciliationAgent.run deps request).run before)) := by
  have nothing {after : Sys ω} (same : after.db.audit = before.db.audit) :
      Trails (chosenRunId deps.host request before.world) 1 4 before after :=
    (Trails.of_logsRank (LogsRank.of_audit same)).mono (Nat.le_refl 1) (by omega)
  cases fresh : before.db.runs.find? (chosenRunId deps.host request before.world) with
  | some row =>
    rw [run_of_taken fresh]
    exact nothing rfl
  | none =>
    cases graph : graphRun deps request before with
    | ok final ended =>
      obtain ⟨decided, lists, drafted, opened, verified, stages, -⟩ := (completes_of_graph_returns fresh graph).stages
      rw [stages.completedRun] at incomplete
      cases incomplete
    | error raised ended =>
      have drafts : Trails (chosenRunId deps.host request before.world) 1 4 (startedSys deps request before)
          (finalState ((draftNodes deps (initialState deps.config request
            (chosenRunId deps.host request before.world) (startedAsOf deps request before))).run
              (startedSys deps request before))) := trails_draftNodes rfl _
      rw [invokeGraph_error_iff.mp graph] at drafts
      have handled : SameAudit ended (finalState ((handleFailure deps request
          (chosenRunId deps.host request before.world) raised).run ended)) :=
        keeps_handleFailure (R := SameAudit) (fun _ _ _ => rfl) ⟨fun _ => rfl, fun _ => rfl⟩
          ⟨fun _ _ => rfl, fun _ _ _ => rfl, fun _ _ => rfl⟩
          request (.inr fun notifications _ call _ sys => (dispatch_cases notifications deps.host call sys).audit)
          raised ended
      obtain ⟨rows, audit, own, advances⟩ := drafts
      rw [run_of_graph_raises fresh graph]
      exact ⟨rows, Eq.trans handled audit, own, advances⟩

/-- A run that completes takes its trail to the last event. -/
theorem trail_of_completed {deps : AgentDependencies ω} {request : RunRequest} {before : Sys ω}
    {ended : ReconciliationState × Sys ω} (completed : completedRun deps request before = some ended) :
    ∃ rows, (finalState ((ReconciliationAgent.run deps request).run before)).db.audit = before.db.audit ++ rows ∧
      (∀ row ∈ rows, row.runId = chosenRunId deps.host request before.world) ∧
      advance 0 rows = some totalRank := by
  obtain ⟨outcome, completes⟩ := completes_of_completedRun completed
  obtain ⟨decided, lists, drafted, opened, verified, stages, -, same⟩ := completes.stages
  obtain ⟨rows, audit, own, advanced⟩ := stages.reachesLast
  refine ⟨rows, ?_, own, advanced⟩
  rw [completes.ran, finalState_ok, same, audit_concluded, audit]

/-- Every run adds events of its own in pipeline order. -/
theorem trail_of_run (deps : AgentDependencies ω) (request : RunRequest) (before : Sys ω) :
    ∃ rows reached,
      (finalState ((ReconciliationAgent.run deps request).run before)).db.audit = before.db.audit ++ rows ∧
      (∀ row ∈ rows, row.runId = chosenRunId deps.host request before.world) ∧
      advance 0 rows = some reached := by
  cases completed : completedRun deps request before with
  | some ended =>
    obtain ⟨rows, audit, own, advanced⟩ := trail_of_completed completed
    exact ⟨rows, totalRank, audit, own, advanced⟩
  | none =>
    obtain ⟨rows, audit, own, advances⟩ := trail_of_incomplete completed
    obtain ⟨reached, -, advanced⟩ := advances 0 (by omega)
    exact ⟨rows, reached, audit, own, advanced⟩

/-- Whatever its collaborators do, a run adds events of its own in pipeline order. It reaches the last
event exactly when it completes; any other run stops at the decisions or before. -/
theorem run_trail_ranked (deps : AgentDependencies ω) (request : RunRequest) (before : Sys ω) :
    let after := finalState ((ReconciliationAgent.run deps request).run before)
    ∃ rows reached, after.db.audit = before.db.audit ++ rows ∧
      (∀ row ∈ rows, row.runId = chosenRunId deps.host request before.world) ∧
      advance 0 rows = some reached ∧
      ((completedRun deps request before).isSome = true → reached = totalRank) ∧
      ((completedRun deps request before).isSome = false → reached ≤ 4) := by
  intro after
  cases completed : completedRun deps request before with
  | some ended =>
    obtain ⟨rows, audit, own, advanced⟩ := trail_of_completed completed
    exact ⟨rows, totalRank, audit, own, advanced, fun _ => rfl, nofun⟩
  | none =>
    obtain ⟨rows, audit, own, advances⟩ := trail_of_incomplete completed
    obtain ⟨reached, within, advanced⟩ := advances 0 (by omega)
    exact ⟨rows, reached, audit, own, advanced, nofun, fun _ => within⟩

end ReconcileFlow
