import ReconcileFlow.Soundness.KeyCompleteness
import ReconcileFlow.Soundness.MismatchKeys
import ReconcileFlow.Soundness.Rerun

/-! # The planner's guardrail

The planner replaces an action off the allow-list, and a `WAIT` outside the grace window, by the
configured fallback. The fallback passes no check of its own, neither here nor when the configuration
is validated. So the final actions of every run of a configuration are guarded exactly when its fallback
is on the allow-list and is not `WAIT` (`guardrail_iff`).
-/

namespace ReconcileFlow

open EffectRun ReconciliationAgent

variable {ω : Type}

/-- The exception is a late settlement of an online obligation that is within its grace days. -/
def LateWithinGrace (config : AppConfig) (asOf : Date) (obligations : List Obligation)
    (exception : ExceptionRecord) : Prop :=
  ∃ obligation ∈ obligations, ∃ grace,
    exception = missingObligationException config.reconciliation.slaGraceDays asOf obligation ∧
      exception.reason = .lateSettlement ∧ obligation.paymentType.isOnline = true ∧
      config.reconciliation.slaGraceDays obligation.paymentType = some grace ∧
      computeAgeDays obligation.orderDate asOf ≤ grace

/-- Only a missing online payment within its grace days gets the status. -/
theorem missing_withinSla {config : AppConfig} {asOf : Date} {obligations : List Obligation}
    {obligation : Obligation} (owed : obligation ∈ obligations)
    (within : (missingObligationException config.reconciliation.slaGraceDays asOf obligation).slaStatus =
      .withinSla) :
    LateWithinGrace config asOf obligations
      (missingObligationException config.reconciliation.slaGraceDays asOf obligation) := by
  have status : (slaStatus obligation asOf config.reconciliation.slaGraceDays).1 = .withinSla := within
  have online : obligation.paymentType.isOnline = true := by
    by_contra cash
    simp [slaStatus, cash] at status
  have reason : (missingObligationException config.reconciliation.slaGraceDays asOf obligation).reason =
      .lateSettlement := by
    simp only [missingObligationException, online, status, if_true]
  unfold slaStatus at status
  rw [if_pos online] at status
  split at status
  · cases status
  · next grace configured =>
    dsimp only at status
    split_ifs at status with young
    exact ⟨obligation, owed, grace, rfl, reason, online, configured, young⟩

/-- The status of everything that is raised before the leftovers are classified. -/
theorem slaStatus_na (deps : AgentDependencies ω) {initial : ReconciliationState}
    (reply : Except Raised FuzzyProposal)
    (sums : ∀ exception ∈ initial.orderSumExceptions, exception.slaStatus = .na) :
    ∀ exception ∈ (afterFuzzyEdge deps reply (afterKeys deps.config initial)).exceptions,
      exception.slaStatus = .na := by
  have keyed : ∀ exception ∈ (afterKeys deps.config initial).exceptions, exception.slaStatus = .na := by
    intro exception member
    rcases List.mem_append.mp member with sum | raised
    · exact sums exception sum
    · obtain ⟨prior, obligation, later, -, decided⟩ := mem_keyExceptions.mp raised
      revert decided
      match candidates (indexSettlements initial.settlements) (keySpent initial.settlements ∅ prior) obligation with
      | [] => rintro ⟨⟩
      | [settlement] =>
        simp only [KeyOutcome.ofTurn, KeyOutcome.exception?, Option.ite_none_left_eq_some, Option.some.injEq]
        rintro ⟨-, rfl⟩
        rfl
      | first :: second :: rest =>
        rintro ⟨⟩
        rfl
  unfold afterFuzzyEdge
  split
  · intro exception member
    have loop := foldl_applyPairing_account deps.config.fuzzyMatch
      (initialFuzzyState (afterKeys deps.config initial)) (byConfidence (replyPairings reply))
    have appended : (afterPairings deps.config.fuzzyMatch (replyPairings reply)
        (afterKeys deps.config initial)).exceptions = _ ++ _ := loop.exceptions
    rw [appended, List.mem_append] at member
    rcases member with early | reviewed
    · exact keyed exception early
    · obtain ⟨action, -, raised⟩ := List.mem_filterMap.mp reviewed
      unfold FuzzyAction.review? at raised
      split_ifs at raised
      cases raised
      rfl
  · exact keyed

theorem orderSum_slaStatus {orders : List Order} {tolerance : ℚ} {exception : ExceptionRecord}
    (member : exception ∈ (buildObligations orders tolerance).orderSumExceptions) :
    exception.slaStatus = .na := by
  obtain ⟨built, inGroups, present⟩ := List.mem_flatMap.mp member
  obtain ⟨group, -, rfl⟩ := List.mem_map.mp inGroups
  unfold buildGroup at present
  split at present
  · cases present
  · rw [Option.mem_toList, orderSumException] at present
    split_ifs at present <;>
      · cases present
        rfl

/-- Sorting leaves the date and the obligations of the run alone. -/
theorem sortedState_frame (deps : AgentDependencies ω) (initial : ReconciliationState)
    (reply : Except Raised FuzzyProposal) :
    (sortedState deps initial reply).asOfDate = initial.asOfDate ∧
      (sortedState deps initial reply).obligations = initial.obligations := by
  unfold sortedState afterFuzzyEdge
  split <;> exact ⟨rfl, rfl⟩

/-- In a sorted state only late settlements are within the grace window. -/
theorem sortedState_withinSla (deps : AgentDependencies ω) (request : RunRequest) (runId : String)
    (asOf : Date) (reply : Except Raised FuzzyProposal) :
    let sorted := sortedState deps (initialState deps.config request runId asOf) reply
    ∀ exception ∈ sorted.exceptions, exception.slaStatus = .withinSla →
      LateWithinGrace deps.config sorted.asOfDate sorted.obligations exception := by
  intro sorted exception member within
  let initial := initialState deps.config request runId asOf
  have known := afterFuzzyEdge_origins deps initial reply
  obtain ⟨dated, owed⟩ := sortedState_frame deps initial reply
  rw [dated, owed]
  rcases List.mem_append.mp member with raised | left
  · rw [slaStatus_na deps reply (fun _ => orderSum_slaStatus) exception raised] at within
    cases within
  · rcases List.mem_append.mp left with missing | stray
    · obtain ⟨obligation, present, rfl⟩ := List.mem_map.mp missing
      have sameDate : (afterFuzzyEdge deps reply (afterKeys deps.config initial)).asOfDate = asOf := dated
      rw [sameDate] at within ⊢
      exact missing_withinSla (known.owed obligation present) within
    · obtain ⟨settlement, -, rfl⟩ := List.mem_map.mp stray
      cases within

/-- A run up to its decisions. -/
def decideRun (deps : AgentDependencies ω) (request : RunRequest) : RunM ω ReconciliationState := do
  let begun ← beginRun deps request
  let sorted ← sortNodes deps (initialState deps.config request begun.1 begun.2)
  decideNode deps sorted

/-- The run goes on with its decisions. -/
theorem draftRun_eq (deps : AgentDependencies ω) (request : RunRequest) :
    draftRun deps request = (do
      let decided ← decideRun deps request
      let lists ← (decided.exceptions.zip decided.decisions).foldlM (dispatchException deps decided) {}
      pure (decided, lists)) := by
  simp only [draftRun, draftNodes, decideRun, bind_assoc]

/-- The guardrail on one final decision. -/
structure Guarded (config : AppConfig) (asOf : Date) (obligations : List Obligation)
    (exception : ExceptionRecord) (decision : ExceptionDecision) : Prop where
  allowed : decision.action ∈ config.planner.allowedActions
  withinSla : decision.action = .wait → exception.slaStatus = .withinSla
  late : decision.action = .wait → LateWithinGrace config asOf obligations exception

/-- A fallback that passes the guardrail itself makes every planned action pass. -/
theorem planAction_guarded {planner : PlannerConfig} (listed : planner.offListFallback ∈ planner.allowedActions)
    (acts : planner.offListFallback ≠ .wait) (proposed : ExceptionDecision) (withinSla : Bool) :
    (planAction proposed planner withinSla).action ∈ planner.allowedActions ∧
      ((planAction proposed planner withinSla).action = .wait → withinSla = true) := by
  unfold planAction
  split
  · exact ⟨listed, fun waits => (acts waits).elim⟩
  · next onList =>
    split
    · exact ⟨listed, fun waits => (acts waits).elim⟩
    · next inside =>
      refine ⟨not_not.mp onList, fun waits => ?_⟩
      by_contra breached
      exact inside ⟨waits, breached⟩

theorem decideRun_guarded {deps : AgentDependencies ω} {request : RunRequest} {before after : Sys ω}
    {decided : ReconciliationState}
    (listed : deps.config.planner.offListFallback ∈ deps.config.planner.allowedActions)
    (acts : deps.config.planner.offListFallback ≠ .wait)
    (success : (decideRun deps request).run before = .ok decided after) :
    List.Forall₂ (Guarded deps.config decided.asOfDate decided.obligations) decided.exceptions
      decided.decisions := by
  obtain ⟨begun, started, begins, success⟩ := bind_eq_ok_iff.mp success
  obtain ⟨sorted, sortedSys, sorts, decides⟩ := bind_eq_ok_iff.mp success
  obtain ⟨ended, returned, -⟩ := sortNodes_run deps (initialState deps.config request begun.1 begun.2) started
  rw [returned] at sorts
  cases sorts
  have judged := decideNode_decides decides
  rw [decideNode_ok decides]
  have graced := sortedState_withinSla deps request begun.1 begun.2
    (fuzzyReply deps (afterKeys deps.config (initialState deps.config request begun.1 begun.2)) started.world)
  refine ((List.forall₂_and_left _ _).mpr ⟨graced, judged⟩).imp ?_
  rintro exception decision ⟨late, world, proposed, -, rfl⟩
  obtain ⟨allowed, waits⟩ := planAction_guarded listed acts proposed (exception.slaStatus == .withinSla)
  have within (wait : (finalDecision proposed (planAction proposed deps.config.planner
      (exception.slaStatus == .withinSla))).action = .wait) : exception.slaStatus = .withinSla :=
    eq_of_beq (waits wait)
  exact ⟨allowed, within, fun wait => late (within wait)⟩

/-- The proposal to wait. -/
def waitProposal : ExceptionDecision := { severity := .routine, action := .wait, rationale := "Later." }

/-- A client that always wants to wait. -/
def patientLlm : LlmClient ω :=
  .ofFunctions (fun _ _ => .ok {}) (fun _ _ _ => .ok waitProposal) (fun _ _ _ => .ok scriptedDraft)

/-- A configuration around the patient client. -/
def patientDependencies (config : AppConfig) : AgentDependencies Unit :=
  buildDependencies config patientLlm mockNotifier closedBreaker (fixedHost defaultDate)

/-- One cash order that was never settled. -/
def unpaidCash : RunRequest where
  orders := [makeOrder]
  settlements := []

/-- The missing payment of that order. -/
def missingCash (config : AppConfig) : ExceptionRecord :=
  missingObligationException config.reconciliation.slaGraceDays defaultDate (toObligation makeOrder 0)

/-- What the planner makes of the proposal to wait. -/
def plannedWait (config : AppConfig) (exception : ExceptionRecord) : ExceptionDecision :=
  finalDecision waitProposal (planAction waitProposal config.planner (exception.slaStatus == .withinSla))

/-- Outside the grace window the fallback is executed, on the allow-list or not. -/
theorem plannedWait_missingCash (config : AppConfig) :
    (plannedWait config (missingCash config)).action = config.planner.offListFallback := by
  have outside : ((missingCash config).slaStatus == .withinSla) = false := rfl
  rw [plannedWait, outside, finalDecision, planAction]
  split
  · rfl
  · rw [if_pos ⟨rfl, Bool.false_ne_true⟩]

/-- The patient client answers about every exception, and the missing payment is one of them. -/
theorem patient_decides (config : AppConfig) :
    ∃ decided after, (decideRun (patientDependencies config) unpaidCash).run emptyStart = .ok decided after ∧
      missingCash config ∈ decided.exceptions ∧
      decided.decisions = decided.exceptions.map (plannedWait config) := by
  let deps := patientDependencies config
  let initial := initialState config unpaidCash (chosenRunId deps.host unpaidCash ())
    (startedAsOf deps unpaidCash emptyStart)
  have fresh : emptyStart.db.runs.find? (chosenRunId deps.host unpaidCash ()) = none := rfl
  obtain ⟨sortedSys, sorts, -⟩ := sortNodes_run deps initial (startedSys deps unpaidCash emptyStart)
  let sorted := sortedState deps initial
    (fuzzyReply deps (afterKeys config initial) (startedSys deps unpaidCash emptyStart).world)
  have answers : List.Forall₂ (Decides deps) sorted.exceptions (sorted.exceptions.map (plannedWait config)) := by
    rw [List.forall₂_map_right_iff, List.forall₂_same]
    exact fun exception _ => ⟨(), waitProposal, rfl, rfl⟩
  obtain ⟨after, decides⟩ := decideNode_returns (LlmClient.functional_ofFunctions ..) answers sortedSys
  refine ⟨{ sorted with decisions := sorted.exceptions.map (plannedWait config) }, after, ?_, ?_, rfl⟩
  · unfold decideRun
    rw [bind_of_ok (beginRun_of_fresh fresh)]
    exact (bind_of_ok sorts).trans decides
  · -- Nothing is paired, so the order is left over.
    have unrouted : ¬ routesToFuzzy deps (afterKeys deps.config initial) = true :=
      fun routed => Bool.false_ne_true ((Bool.and_false _).symm.trans routed)
    refine List.mem_append_right _ (List.mem_append_left _ ?_)
    rw [afterFuzzyEdge, if_neg unrouted]
    exact List.mem_singleton_self _

/-- Every run of a configuration is guarded exactly when its fallback passes the guardrail itself. -/
theorem guardrail_iff (config : AppConfig) :
    (∀ (ω : Type) (deps : AgentDependencies ω) (request : RunRequest) (before after : Sys ω)
        (decided : ReconciliationState), deps.config = config →
          (decideRun deps request).run before = .ok decided after →
          List.Forall₂ (Guarded config decided.asOfDate decided.obligations) decided.exceptions
            decided.decisions) ↔
      config.planner.offListFallback ∈ config.planner.allowedActions ∧
        config.planner.offListFallback ≠ .wait := by
  constructor
  · intro guarded
    obtain ⟨decided, after, ran, present, planned⟩ := patient_decides config
    have all := guarded Unit (patientDependencies config) unpaidCash emptyStart after decided rfl ran
    rw [planned, List.forall₂_map_right_iff, List.forall₂_same] at all
    obtain ⟨listed, within, -⟩ := all _ present
    rw [plannedWait_missingCash] at listed within
    refine ⟨listed, fun waits => ?_⟩
    cases within waits
  · rintro ⟨listed, acts⟩ ω deps request before after decided rfl success
    exact decideRun_guarded listed acts success

/-- The shipped configuration with a fallback that waits. -/
def waitingConfig : AppConfig :=
  { shippedConfig with planner := { shippedConfig.planner with offListFallback := .wait } }

/-- A missing cash payment is parked without a notification: waiting is on the allow-list, and the
fallback that replaces it outside the grace window is to wait. -/
theorem waiting_fallback_parks :
    ∃ decided after, (decideRun (patientDependencies waitingConfig) unpaidCash).run emptyStart =
        .ok decided after ∧
      (∃ decision ∈ decided.decisions, decision.action = .wait) ∧
      (∃ exception ∈ decided.exceptions, exception.reason = .cashMissing) ∧
      ¬ List.Forall₂ (Guarded waitingConfig decided.asOfDate decided.obligations) decided.exceptions
        decided.decisions := by
  obtain ⟨decided, after, ran, present, planned⟩ := patient_decides waitingConfig
  have waits : (plannedWait waitingConfig (missingCash waitingConfig)).action = .wait :=
    plannedWait_missingCash waitingConfig
  refine ⟨decided, after, ran, ⟨_, ?_, waits⟩, ⟨_, present, rfl⟩, fun all => ?_⟩
  · rw [planned]
    exact List.mem_map_of_mem present
  · rw [planned, List.forall₂_map_right_iff, List.forall₂_same] at all
    cases (all _ present).withinSla waits

end ReconcileFlow
