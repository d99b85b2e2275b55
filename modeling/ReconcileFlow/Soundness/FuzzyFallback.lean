import ReconcileFlow.Model.Offline
import ReconcileFlow.Soundness.FuzzyApplication
import ReconcileFlow.Soundness.ObligationAccounting

/-! # The pipeline without a usable proposal

When the LLM fails, or proposes nothing worth a review, the agent's path through the fuzzy node is
compared with `reconcile`. The node rebuilds both leftover lists from dictionaries even when it applies
nothing, so the two agree exactly when the leftover ids are distinct (`fuzzy_fallback_iff`).
-/

namespace ReconcileFlow

open EffectRun

variable {ω : Type}

/-- The pairing names a leftover order and a leftover settlement of the state. -/
def FuzzyPairing.NamesLeftovers (pairing : FuzzyPairing) (state : ReconciliationState) : Prop :=
  (∃ obligation ∈ state.unmatchedObligations, pairing.orderId = some obligation.orderId) ∧
    ∃ settlement ∈ state.unmatchedSettlements, pairing.settlementId = some settlement.settlementId

/-- No pairing of the reply that names leftovers reaches the threshold. -/
def NoneReaches (threshold : ℚ) (reply : Except Raised FuzzyProposal) (state : ReconciliationState) :
    Prop :=
  ∀ pairing ∈ replyPairings reply, pairing.NamesLeftovers state → pairing.confidence < threshold

/-- The loop starts with both rows of a pairing exactly when the pairing names leftovers. -/
theorem exists_named_initial_iff {state : ReconciliationState} {pairing : FuzzyPairing} :
    (∃ rows, (initialFuzzyState state).named pairing = some rows) ↔ pairing.NamesLeftovers state := by
  have orders (k : String) : (∃ obligation ∈ (initialFuzzyState state).oblByOrder.rows,
      obligation.orderId = k) ↔ ∃ obligation ∈ state.unmatchedObligations, obligation.orderId = k := by
    rw [← List.mem_map, ← List.mem_map]
    exact KeyedTable.mem_keys_ofList
  have settles (k : String) : (∃ settlement ∈ (initialFuzzyState state).settleById.rows,
      settlement.settlementId = k) ↔
        ∃ settlement ∈ state.unmatchedSettlements, settlement.settlementId = k := by
    rw [← List.mem_map, ← List.mem_map]
    exact KeyedTable.mem_keys_ofList
  constructor
  · rintro ⟨⟨obligation, settlement⟩, found⟩
    obtain ⟨order, settle, presentO, presentS⟩ := named_eq_some_iff.mp found
    obtain ⟨leftO, memberO, sameO⟩ := (orders _).mp ⟨obligation, presentO, rfl⟩
    obtain ⟨leftS, memberS, sameS⟩ := (settles _).mp ⟨settlement, presentS, rfl⟩
    exact ⟨⟨leftO, memberO, by rw [order, sameO]⟩, ⟨leftS, memberS, by rw [settle, sameS]⟩⟩
  · rintro ⟨⟨leftO, memberO, order⟩, ⟨leftS, memberS, settle⟩⟩
    obtain ⟨obligation, presentO, sameO⟩ := (orders _).mpr ⟨leftO, memberO, rfl⟩
    obtain ⟨settlement, presentS, sameS⟩ := (settles _).mpr ⟨leftS, memberS, rfl⟩
    exact ⟨(obligation, settlement),
      named_eq_some_iff.mpr ⟨by rw [order, sameO], by rw [settle, sameS], presentO, presentS⟩⟩

/-- Where nothing reaches the review threshold, the loop acts exactly on the pairings that reach the
automatic one. -/
theorem pairingActions_idle_iff {thresholds : FuzzyMatchConfig} {reply : Except Raised FuzzyProposal}
    {state : ReconciliationState} (idle : NoneReaches thresholds.reviewThreshold reply state) :
    pairingActions thresholds (initialFuzzyState state) (byConfidence (replyPairings reply)) = [] ↔
      NoneReaches thresholds.autoApplyThreshold reply state := by
  have sorted (pairing : FuzzyPairing) :
      pairing ∈ byConfidence (replyPairings reply) ↔ pairing ∈ replyPairings reply :=
    List.mem_insertionSort _
  rw [pairingActions_eq_nil_iff]
  simp only [sorted]
  refine forall₂_congr fun pairing proposed => ?_
  rw [Option.eq_none_iff_forall_ne_some]
  constructor
  · intro inactive names
    obtain ⟨⟨obligation, settlement⟩, found⟩ := exists_named_initial_iff.mpr names
    by_contra high
    exact inactive ⟨obligation, settlement, pairing, true⟩
      (pairingAction_eq_some_iff.mpr ⟨found, rfl, not_lt.mp high⟩)
  · intro low action acts
    obtain ⟨found, -, reached⟩ := pairingAction_eq_some_iff.mp acts
    have names := exists_named_initial_iff.mp ⟨_, found⟩
    split at reached
    · exact absurd (low names) (not_lt.mpr reached)
    · exact absurd (idle pairing proposed names) (not_lt.mpr reached.2)

/-- Below the review threshold the loop can only match. -/
theorem autoApplied_of_idle {thresholds : FuzzyMatchConfig} {reply : Except Raised FuzzyProposal}
    {state : ReconciliationState} (idle : NoneReaches thresholds.reviewThreshold reply state)
    {action : FuzzyAction} (acts : action ∈ pairingActions thresholds (initialFuzzyState state)
      (byConfidence (replyPairings reply))) : action.autoApplied = true := by
  obtain ⟨prior, pairing, later, split, now⟩ := mem_pairingActions_iff.mp acts
  obtain ⟨found, -, reached⟩ := pairingAction_eq_some_iff.mp now
  have loop := foldl_applyPairing_account thresholds (initialFuzzyState state) prior
  obtain ⟨order, settle, presentO, presentS⟩ := named_eq_some_iff.mp found
  have names : pairing.NamesLeftovers state := exists_named_initial_iff.mp ⟨_, named_eq_some_iff.mpr
    ⟨order, settle, loop.oblSublist.subset presentO, loop.settleSublist.subset presentS⟩⟩
  have proposed : pairing ∈ replyPairings reply := by
    apply (List.mem_insertionSort (fun first second : FuzzyPairing => second.confidence ≤ first.confidence)).mp
    change pairing ∈ byConfidence (replyPairings reply)
    simp [split]
  by_contra flagged
  rw [if_neg flagged] at reached
  exact absurd (idle pairing proposed names) (not_lt.mpr reached.2)

theorem length_classifyLeftovers (obligations : List Obligation) (settlements : List Settlement)
    (graceDays : PaymentType → Option ℤ) (asOfDate : Date) :
    (classifyLeftovers obligations settlements graceDays asOfDate).length =
      obligations.length + settlements.length := by
  simp [classifyLeftovers]

/-- Rebuilding the leftovers by id keeps their exceptions exactly when no id repeats. -/
theorem classifyLeftovers_ofList_iff (obligations : List Obligation) (settlements : List Settlement)
    (graceDays : PaymentType → Option ℤ) (asOfDate : Date) :
    classifyLeftovers (KeyedTable.ofList Obligation.orderId obligations).rows
        (KeyedTable.ofList Settlement.settlementId settlements).rows graceDays asOfDate =
      classifyLeftovers obligations settlements graceDays asOfDate ↔
      (obligations.map Obligation.orderId).Nodup ∧ (settlements.map Settlement.settlementId).Nodup := by
  constructor
  · intro same
    have count := congrArg List.length same
    rw [length_classifyLeftovers, length_classifyLeftovers] at count
    have fewerO := KeyedTable.length_ofList_le Obligation.orderId obligations
    have fewerS := KeyedTable.length_ofList_le Settlement.settlementId settlements
    constructor
    · by_contra repeated
      have lost := KeyedTable.length_ofList_lt repeated
      omega
    · by_contra repeated
      have lost := KeyedTable.length_ofList_lt repeated
      omega
  · rintro ⟨distinctO, distinctS⟩
    rw [KeyedTable.rows_ofList_of_nodup distinctO, KeyedTable.rows_ofList_of_nodup distinctS]

/-- `reconcile_node`, `fuzzy_node` and `classify_node` in a row. -/
def sortThroughFuzzy (deps : AgentDependencies ω) (state : ReconciliationState) :
    RunM ω ReconciliationState := do
  let reconciled ← reconcileNode deps state
  let paired ← fuzzyNode deps reconciled
  classifyNode deps paired

/-- The outcome of `reconcile` on the rows of a state, after its order-sum exceptions. -/
def Deterministic (config : AppConfig) (state final : ReconciliationState) : Prop :=
  let result := reconcile state.obligations state.settlements config state.asOfDate
  final.matched = result.matched ∧ final.exceptions = state.orderSumExceptions ++ result.exceptions

theorem sortThroughFuzzy_run (deps : AgentDependencies ω) (state : ReconciliationState)
    (before : Sys ω) : ∃ after, (sortThroughFuzzy deps state).run before =
      .ok (afterLeftovers deps.config (afterPairings deps.config.fuzzyMatch (replyPairings
        (fuzzyReply deps (afterKeys deps.config state) before.world)) (afterKeys deps.config state)))
        after := by
  obtain ⟨keyedSys, reconciled, frame⟩ := reconcileNode_run deps state before
  obtain ⟨pairedSys, paired, -⟩ := fuzzyNode_run deps (afterKeys deps.config state) keyedSys
  obtain ⟨after, classified, -⟩ := classifyNode_run deps (afterPairings deps.config.fuzzyMatch
    (replyPairings (fuzzyReply deps (afterKeys deps.config state) keyedSys.world))
    (afterKeys deps.config state)) pairedSys
  refine ⟨after, ?_⟩
  unfold sortThroughFuzzy
  rw [bind_of_ok reconciled, bind_of_ok paired, classified, frame.world]

/-- A loop without actions leaves the deterministic result up to the rebuilt lists. -/
theorem deterministic_idle_iff {config : AppConfig} {pairings : List FuzzyPairing}
    {state : ReconciliationState}
    (inactive : pairingActions config.fuzzyMatch (initialFuzzyState (afterKeys config state))
      (byConfidence pairings) = []) :
    Deterministic config state (afterLeftovers config
        (afterPairings config.fuzzyMatch pairings (afterKeys config state))) ↔
      ((afterKeys config state).unmatchedObligations.map Obligation.orderId).Nodup ∧
        ((afterKeys config state).unmatchedSettlements.map Settlement.settlementId).Nodup := by
  have loop := foldl_applyPairing_account config.fuzzyMatch (initialFuzzyState (afterKeys config state))
    (byConfidence pairings)
  rw [inactive] at loop
  have obligations := loop.oblSublist.eq_of_length loop.obligations.length_eq.symm
  have settlements := loop.settleSublist.eq_of_length loop.settlements.length_eq.symm
  rw [← classifyLeftovers_ofList_iff _ _ config.reconciliation.slaGraceDays state.asOfDate]
  unfold Deterministic afterLeftovers afterPairings applyPairings
  dsimp only
  rw [loop.matched, loop.exceptions, obligations, settlements]
  simp [initialFuzzyState, afterKeys, reconcile]

/-- When nothing proposed reaches the review threshold, the path returns the deterministic result
exactly when the leftover ids on either side are distinct and nothing proposed reaches the automatic
threshold either. -/
theorem fuzzy_fallback_iff (deps : AgentDependencies ω) (state : ReconciliationState) (before : Sys ω)
    (idle : NoneReaches deps.config.fuzzyMatch.reviewThreshold
      (fuzzyReply deps (afterKeys deps.config state) before.world) (afterKeys deps.config state)) :
    ∃ final after, (sortThroughFuzzy deps state).run before = .ok final after ∧
      (Deterministic deps.config state final ↔
        ((afterKeys deps.config state).unmatchedObligations.map Obligation.orderId).Nodup ∧
        ((afterKeys deps.config state).unmatchedSettlements.map Settlement.settlementId).Nodup ∧
        NoneReaches deps.config.fuzzyMatch.autoApplyThreshold
          (fuzzyReply deps (afterKeys deps.config state) before.world) (afterKeys deps.config state)) := by
  obtain ⟨after, returned⟩ := sortThroughFuzzy_run deps state before
  refine ⟨_, after, returned, ?_⟩
  rw [← pairingActions_idle_iff idle, ← and_assoc]
  constructor
  · intro deterministic
    have inactive : pairingActions deps.config.fuzzyMatch (initialFuzzyState (afterKeys deps.config state))
        (byConfidence (replyPairings (fuzzyReply deps (afterKeys deps.config state) before.world))) = [] := by
      have loop := foldl_applyPairing_account deps.config.fuzzyMatch
        (initialFuzzyState (afterKeys deps.config state))
        (byConfidence (replyPairings (fuzzyReply deps (afterKeys deps.config state) before.world)))
      have nothing := List.append_right_eq_self.mp (loop.matched.symm.trans deterministic.1)
      refine List.eq_nil_iff_forall_not_mem.mpr fun action acts => ?_
      have unmatched := List.filterMap_eq_nil_iff.mp nothing action acts
      rw [FuzzyAction.matched?, if_pos (autoApplied_of_idle idle acts)] at unmatched
      cases unmatched
    exact ⟨(deterministic_idle_iff inactive).mp deterministic, inactive⟩
  · rintro ⟨distinct, inactive⟩
    exact (deterministic_idle_iff inactive).mpr distinct

/-- A client that cannot be reached for proposals. -/
def silentDependencies : AgentDependencies Unit :=
  scriptedDependencies (.error (.other "Connection error."))

/-- A failed call proposes nothing. -/
theorem noneReaches_of_error (threshold : ℚ) (raised : Raised) (state : ReconciliationState) :
    NoneReaches threshold (.error raised) state := by
  intro pairing proposed
  cases proposed

/-- Two unpaid cash orders, as the graph receives them. -/
def separateState : ReconciliationState := initialState shippedConfig separateRequest "run-1" (defaultDate + 2)

/-- One cash order due in two unpaid parts, as the graph receives it. -/
def splitState : ReconciliationState := initialState shippedConfig splitRequest "run-1" (defaultDate + 2)

theorem fuzzy_fallback_separate : ∃ final after,
    (sortThroughFuzzy silentDependencies separateState).run emptyStart = .ok final after ∧
    (Deterministic shippedConfig separateState final ↔
      ((afterKeys shippedConfig separateState).unmatchedObligations.map Obligation.orderId).Nodup ∧
      ((afterKeys shippedConfig separateState).unmatchedSettlements.map Settlement.settlementId).Nodup ∧
      NoneReaches shippedConfig.fuzzyMatch.autoApplyThreshold
        (fuzzyReply silentDependencies (afterKeys shippedConfig separateState) ())
        (afterKeys shippedConfig separateState)) :=
  fuzzy_fallback_iff silentDependencies separateState emptyStart (noneReaches_of_error _ _ _)

/-- Of the order due in two parts, the path without any proposal drops one part. -/
theorem split_order_drops_part : ∃ final after,
    (sortThroughFuzzy silentDependencies splitState).run emptyStart = .ok final after ∧
    NoneReaches shippedConfig.fuzzyMatch.reviewThreshold
      (fuzzyReply silentDependencies (afterKeys shippedConfig splitState) ())
      (afterKeys shippedConfig splitState) ∧
    ¬ Deterministic shippedConfig splitState final := by
  obtain ⟨after, returned⟩ := sortThroughFuzzy_run silentDependencies splitState emptyStart
  refine ⟨_, after, returned, noneReaches_of_error _ _ _, fun deterministic => ?_⟩
  have shorter := congrArg List.length deterministic.2
  revert shorter
  decide +kernel

end ReconcileFlow
