import ReconcileFlow.Soundness.Guardrail
import ReconcileFlow.Soundness.Preview
import ReconcileFlow.Soundness.ResponsibleParty

/-! # What waiting changes

The evaluation date shows in the ages and in the SLA of missing online payments, and nowhere else. So when
the same rows come again on a later date, the same problems are reported, older by the days in between, and
a late payment may have become a missing one, never the other way round (`waiting_only_breaches`). Since
the grace periods are finite, the planner waits for no order forever (`waiting_ends`).
-/

namespace ReconcileFlow

open EffectRun ReconciliationAgent

variable {ω : Type}

/-- The exception on a later date, if its reason is still the same. -/
def ExceptionRecord.older (exception : ExceptionRecord) (days : ℤ) : ExceptionRecord :=
  { exception with ageDays := exception.ageDays.map (· + days) }

/-- What becomes of an exception after some days. -/
inductive Aged (days : ℤ) (exception : ExceptionRecord) : ExceptionRecord → Prop
  | kept : Aged days exception (exception.older days)
  | breached (late : exception.reason = .lateSettlement) (within : exception.slaStatus = .withinSla) :
      Aged days exception { exception.older days with reason := .onlineMissing, slaStatus := .breached }

/-- An exception without an age does not age. -/
theorem aged_of_ageless {days : ℤ} {exception : ExceptionRecord} (ageless : exception.ageDays = none) :
    Aged days exception exception := by
  have same : exception.older days = exception := by
    unfold ExceptionRecord.older
    rw [ageless, Option.map_none, ← ageless]
  rw [← same]
  nth_rewrite 1 [same]
  exact .kept

theorem aged_unmatchedSettlement (asOf days : ℤ) (settlement : Settlement) :
    Aged days (unmatchedSettlementException asOf settlement) (unmatchedSettlementException (asOf + days) settlement) := by
  have older : (unmatchedSettlementException asOf settlement).older days =
      unmatchedSettlementException (asOf + days) settlement := by
    unfold ExceptionRecord.older unmatchedSettlementException computeAgeDays
    simp only [Option.map_some]
    rw [sub_add_eq_add_sub]
  rw [← older]
  exact .kept

/-- A payment that was missing within its grace may breach it; one that had breached it stays so. -/
theorem aged_missingObligation {days : ℤ} (later : 0 ≤ days) (graceDays : PaymentType → Option ℤ) (asOf : Date)
    (obligation : Obligation) :
    Aged days (missingObligationException graceDays asOf obligation)
      (missingObligationException graceDays (asOf + days) obligation) := by
  have age : computeAgeDays obligation.orderDate (asOf + days) = computeAgeDays obligation.orderDate asOf + days := by
    unfold computeAgeDays
    omega
  cases online : obligation.paymentType.isOnline with
  | false =>
    have older : (missingObligationException graceDays asOf obligation).older days =
        missingObligationException graceDays (asOf + days) obligation := by
      simp [ExceptionRecord.older, missingObligationException, slaStatus, online, age]
    rw [← older]
    exact .kept
  | true =>
    cases grace : graceDays obligation.paymentType with
    | none =>
      have older : (missingObligationException graceDays asOf obligation).older days =
          missingObligationException graceDays (asOf + days) obligation := by
        simp [ExceptionRecord.older, missingObligationException, slaStatus, online, grace, age]
      rw [← older]
      exact .kept
    | some limit =>
      by_cases within : computeAgeDays obligation.orderDate asOf + days ≤ limit
      · have early : computeAgeDays obligation.orderDate asOf ≤ limit := by omega
        have older : (missingObligationException graceDays asOf obligation).older days =
            missingObligationException graceDays (asOf + days) obligation := by
          simp [ExceptionRecord.older, missingObligationException, slaStatus, online, grace, age, within, early]
        rw [← older]
        exact .kept
      · by_cases early : computeAgeDays obligation.orderDate asOf ≤ limit
        · have breaches : { (missingObligationException graceDays asOf obligation).older days with
              reason := .onlineMissing, slaStatus := .breached } =
              missingObligationException graceDays (asOf + days) obligation := by
            simp [ExceptionRecord.older, missingObligationException, slaStatus, online, grace, age, within]
          rw [← breaches]
          refine .breached ?_ ?_ <;> simp [missingObligationException, slaStatus, online, grace, early]
        · have older : (missingObligationException graceDays asOf obligation).older days =
              missingObligationException graceDays (asOf + days) obligation := by
            simp [ExceptionRecord.older, missingObligationException, slaStatus, online, grace, age, within, early]
          rw [← older]
          exact .kept

/-- Order sums, key matching and the pairing loop report no ages. -/
theorem ageless_orderSum {orders : List Order} {tolerance : ℚ} {exception : ExceptionRecord}
    (member : exception ∈ (buildObligations orders tolerance).orderSumExceptions) : exception.ageDays = none := by
  obtain ⟨built, inGroups, present⟩ := List.mem_flatMap.mp member
  obtain ⟨group, -, rfl⟩ := List.mem_map.mp inGroups
  unfold buildGroup at present
  split at present
  · cases present
  · rw [Option.mem_toList] at present
    unfold orderSumException at present
    dsimp only at present
    split at present
    · cases present
    · cases present
      rfl

theorem ageless_keyed {config : AppConfig} {initial : ReconciliationState} {entry : Obligation × ExceptionRecord}
    (member : entry ∈ keyedExceptions config initial) : entry.2.ageDays = none := by
  obtain ⟨⟨obligation, outcome⟩, -, raised⟩ := List.mem_filterMap.mp member
  obtain ⟨exception, made, rfl⟩ := Option.map_eq_some_iff.mp raised
  dsimp only at made ⊢
  cases outcome with
  | single settlement status =>
    rw [KeyOutcome.exception?] at made
    split_ifs at made
    cases made
    rfl
  | duplicate first rest =>
    cases made
    rfl
  | unmatched => cases made

theorem ageless_reviewed {deps : AgentDependencies ω} {initial : ReconciliationState}
    {reply : Except Raised FuzzyProposal} {entry : Obligation × ExceptionRecord}
    (member : entry ∈ reviewedExceptions deps initial reply) : entry.2.ageDays = none := by
  obtain ⟨action, -, raised⟩ := List.mem_filterMap.mp member
  obtain ⟨exception, made, rfl⟩ := Option.map_eq_some_iff.mp raised
  unfold FuzzyAction.review? at made
  split_ifs at made
  cases made
  rfl

/-- The date goes through the nodes before the classification. -/
theorem afterFuzzyEdge_dated (deps : AgentDependencies ω) (initial : ReconciliationState)
    (reply : Except Raised FuzzyProposal) (runId : String) (dryRun : Bool) (asOfDate : Date) :
    afterFuzzyEdge deps reply (afterKeys deps.config { initial with runId, dryRun, asOfDate }) =
      { afterFuzzyEdge deps reply (afterKeys deps.config initial) with runId, dryRun, asOfDate } := by
  unfold afterFuzzyEdge
  have same : routesToFuzzy deps (afterKeys deps.config { initial with runId, dryRun, asOfDate }) =
    routesToFuzzy deps (afterKeys deps.config initial) := rfl
  rw [same]
  split <;> rfl

/-- The same rows on a later date: the same pairs, and each exception aged by the days in between. -/
theorem sortedState_aged (deps : AgentDependencies ω) {initial : ReconciliationState}
    (reply : Except Raised FuzzyProposal) (ageless : ∀ exception ∈ initial.orderSumExceptions, exception.ageDays = none)
    (runId : String) (dryRun : Bool) {days : ℤ} (later : 0 ≤ days) :
    let next := { initial with runId, dryRun, asOfDate := initial.asOfDate + days }
    (sortedState deps next reply).matched = (sortedState deps initial reply).matched ∧
      List.Forall₂ (Aged days) (sortedState deps initial reply).exceptions (sortedState deps next reply).exceptions := by
  intro next
  have moved := afterFuzzyEdge_dated deps initial reply runId dryRun (initial.asOfDate + days)
  have matched : (afterFuzzyEdge deps reply (afterKeys deps.config next)).matched =
      (afterFuzzyEdge deps reply (afterKeys deps.config initial)).matched := by
    rw [moved]
  refine ⟨matched, ?_⟩
  have keyed : keyedExceptions deps.config next = keyedExceptions deps.config initial := rfl
  have reviewed : reviewedExceptions deps next reply = reviewedExceptions deps initial reply := rfl
  have still {exceptions : List ExceptionRecord} (none : ∀ exception ∈ exceptions, exception.ageDays = none) :
      List.Forall₂ (Aged days) exceptions exceptions :=
    List.forall₂_same.mpr fun exception member => aged_of_ageless (none exception member)
  rw [sortedState_attributed, sortedState_attributed]
  unfold obligationExceptions
  rw [keyed, reviewed, List.map_append, List.map_append, List.map_append, List.map_append]
  refine List.rel_append (List.rel_append (still ageless) (List.rel_append (List.rel_append (still ?_) (still ?_)) ?_)) ?_
  · exact List.forall_mem_map.mpr fun entry member => ageless_keyed member
  · exact List.forall_mem_map.mpr fun entry member => ageless_reviewed member
  · unfold missingExceptions
    rw [moved, List.map_map, List.map_map]
    exact List.forall₂_map_left_iff.mpr (List.forall₂_map_right_iff.mpr (List.forall₂_same.mpr fun obligation _ =>
      aged_missingObligation later _ _ obligation))
  · unfold strayExceptions
    rw [moved]
    exact List.forall₂_map_left_iff.mpr (List.forall₂_map_right_iff.mpr (List.forall₂_same.mpr fun settlement _ =>
      aged_unmatchedSettlement _ _ settlement))

/-- Two completed runs on the same rows, the second evaluated on a later date, with a client that answers by
its arguments: the second matches the same pairs and reports the same problems, each aged by the days in
between. -/
theorem waiting_only_breaches {deps : AgentDependencies ω} (functional : deps.llm.Functional)
    {request next : RunRequest} {before after start ended : Sys ω} {final final' : ReconciliationState}
    {outcome outcome' : RunOutcome} (completes : Completes deps request before final outcome after)
    (completes' : Completes deps next start final' outcome' ended) (orders : next.orders = request.orders)
    (settlements : next.settlements = request.settlements)
    (later : startedAsOf deps request before ≤ startedAsOf deps next start) :
    final'.matched = final.matched ∧
      List.Forall₂ (Aged (startedAsOf deps next start - startedAsOf deps request before)) final.exceptions
        final'.exceptions := by
  have reply : requestReply deps next start.world = requestReply deps request before.world := by
    unfold requestReply requestKeys
    rw [orders, settlements]
    exact functional.proposeFuzzy _ _ _ _
  have initial : initialState deps.config next (chosenRunId deps.host next start.world) (startedAsOf deps next start) =
      { initialState deps.config request (chosenRunId deps.host request before.world)
          (startedAsOf deps request before) with
        runId := chosenRunId deps.host next start.world
        dryRun := next.dryRun
        asOfDate := startedAsOf deps request before +
          (startedAsOf deps next start - startedAsOf deps request before) } := by
    unfold initialState
    rw [orders, settlements, add_sub_cancel]
  have ageless : ∀ exception ∈ (initialState deps.config request (chosenRunId deps.host request before.world)
      (startedAsOf deps request before)).orderSumExceptions, exception.ageDays = none := fun _ => ageless_orderSum
  have aged := sortedState_aged deps (requestReply deps request before.world) ageless
    (chosenRunId deps.host next start.world) next.dryRun (sub_nonneg.mpr later)
  have first := completes.requestSorted
  have second := completes'.requestSorted
  rw [first, second]
  unfold requestSorted
  rw [reply, initial]
  exact aged

/-- One card payment that nobody settled. -/
def unpaidCard (days : ℤ) : RunRequest where
  orders := [{ makeOrder "O1" with
    paymentType := .card, gatewayTxnId := some "T1", paymentGateway := some .razorpay
    checkPaymentFields := by decide }]
  settlements := []
  asOfDate := some (defaultDate + days)
  runId := some "run-1"

/-- The payment is late after two days, and missing after three. -/
theorem waiting_only_breaches_card :
    ∃ final outcome after final' outcome' after',
      Completes (scriptedDependencies (.ok {})) (unpaidCard 2) emptyStart final outcome after ∧
      Completes (scriptedDependencies (.ok {})) (unpaidCard 3) emptyStart final' outcome' after' ∧
      final.exceptions.map (·.reason) = [.lateSettlement] ∧ final'.exceptions.map (·.reason) = [.onlineMissing] ∧
      final'.matched = final.matched ∧ List.Forall₂ (Aged 1) final.exceptions final'.exceptions := by
  have returned : (completedRun (scriptedDependencies (.ok {})) (unpaidCard 2) emptyStart).any
      (fun ended => decide (ended.1.exceptions.map (·.reason) = [.lateSettlement])) = true := by
    decide +kernel
  have returned' : (completedRun (scriptedDependencies (.ok {})) (unpaidCard 3) emptyStart).any
      (fun ended => decide (ended.1.exceptions.map (·.reason) = [.onlineMissing])) = true := by
    decide +kernel
  obtain ⟨final, outcome, after, completes, late⟩ := completes_passing returned
  obtain ⟨final', outcome', after', completes', missing⟩ := completes_passing returned'
  obtain ⟨matched, aged⟩ := waiting_only_breaches (LlmClient.functional_ofFunctions ..) completes completes' rfl rfl
    (by decide)
  exact ⟨final, outcome, after, final', outcome', after', completes, completes', of_decide_eq_true late,
    of_decide_eq_true missing, matched, aged⟩

/-- The decisions of a completed run are those of its planner, under the guardrail. -/
theorem ReconciliationAgent.Completes.guarded {deps : AgentDependencies ω} {request : RunRequest}
    {before after : Sys ω} {final : ReconciliationState} {outcome : RunOutcome}
    (completes : Completes deps request before final outcome after)
    (listed : deps.config.planner.offListFallback ∈ deps.config.planner.allowedActions)
    (acts : deps.config.planner.offListFallback ≠ .wait) :
    List.Forall₂ (Guarded deps.config final.asOfDate final.obligations) final.exceptions final.decisions := by
  obtain ⟨decided, lists, drafted, opened, verified, stages, -⟩ := completes.stages
  have drafts := stages.drafts
  rw [draftRun_eq] at drafts
  obtain ⟨planned, between, decides, drafts⟩ := bind_eq_ok_iff.mp drafts
  obtain ⟨dispatched, ended, -, returned⟩ := bind_eq_ok_iff.mp drafts
  cases returned
  obtain ⟨resolved, -, rfl⟩ := logged_verifyNode stages.verifies
  have guarded := decideRun_guarded listed acts decides
  exact guarded

/-- With a fallback that passes the guardrail, every set of orders has a deadline: a run that is evaluated
after it waits for nothing, whatever was settled and whatever the client wants. -/
theorem waiting_ends {config : AppConfig}
    (listed : config.planner.offListFallback ∈ config.planner.allowedActions)
    (acts : config.planner.offListFallback ≠ .wait) (orders : List Order) :
    ∃ deadline : Date, ∀ (deps : AgentDependencies ω) (request : RunRequest) (before after : Sys ω)
      (final : ReconciliationState) (outcome : RunOutcome), deps.config = config → request.orders = orders →
        Completes deps request before final outcome after → deadline < startedAsOf deps request before →
          ∀ decision ∈ final.decisions, decision.action ≠ .wait := by
  let obligations := (buildObligations orders config.reconciliation.amountTolerance).obligations
  let lastDay (obligation : Obligation) : ℤ :=
    obligation.orderDate + (config.reconciliation.slaGraceDays obligation.paymentType).getD 0
  obtain ⟨deadline, bounds⟩ := (List.finite_toSet (obligations.map lastDay)).bddAbove
  refine ⟨deadline, ?_⟩
  rintro deps request before after final outcome rfl rfl completes past decision decided waits
  obtain ⟨dated, owed⟩ := sortedState_frame deps
    (initialState deps.config request (chosenRunId deps.host request before.world) (startedAsOf deps request before))
    (requestReply deps request before.world)
  have guarded := completes.guarded listed acts
  have sorted := completes.requestSorted
  obtain ⟨index, bound, rfl⟩ := List.getElem_of_mem decided
  have guards := guarded.get (guarded.length_eq ▸ bound) bound
  obtain ⟨obligation, member, grace, -, -, -, configured, within⟩ := guards.late waits
  have asOf : final.asOfDate = startedAsOf deps request before := by
    rw [sorted]
    exact dated
  have built : final.obligations = obligations := by
    rw [sorted]
    exact owed
  have bounded : lastDay obligation ≤ deadline := by
    refine bounds (List.mem_map_of_mem ?_)
    rwa [← built]
  unfold computeAgeDays at within
  rw [asOf] at within
  simp only [lastDay, configured, Option.getD_some] at bounded
  linarith only [past, within, bounded]

/-- The shipped configuration waits for no card payment forever. -/
theorem waiting_ends_card :
    shippedConfig.planner.offListFallback ∈ shippedConfig.planner.allowedActions ∧
      ∃ deadline : Date, ∀ (deps : AgentDependencies Unit) (request : RunRequest) (before after : Sys Unit)
        (final : ReconciliationState) (outcome : RunOutcome), deps.config = shippedConfig →
          request.orders = (unpaidCard 2).orders → Completes deps request before final outcome after →
            deadline < startedAsOf deps request before → ∀ decision ∈ final.decisions, decision.action ≠ .wait :=
  ⟨by decide, waiting_ends (by decide) (by decide) (unpaidCard 2).orders⟩

end ReconcileFlow
