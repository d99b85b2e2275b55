import ReconcileFlow.Model.Offline
import ReconcileFlow.Soundness.FuzzyApplication
import ReconcileFlow.Soundness.KeyMatching
import ReconcileFlow.Soundness.Pipeline

/-! # The amounts of matched pairs

Key matching only pairs equal amounts, up to the tolerance. The pairing loop pairs what a confident
proposal names and compares no amounts, so the matched pairs of a completed run agree on their
amounts exactly when every proposal the loop applies does (`Completes.amounts_agree_iff`).
-/

namespace ReconcileFlow

variable {ω : Type}

/-- The settled amount is within the tolerance of the expected one. -/
def AmountsAgree (tolerance : ℚ) (pair : MatchedPair) : Prop :=
  |pair.settlement.amount.rupees - pair.obligation.expectedAmount.rupees| ≤ tolerance

instance (tolerance : ℚ) (pair : MatchedPair) : Decidable (AmountsAgree tolerance pair) :=
  inferInstanceAs (Decidable (_ ≤ _))

/-- Key matching compares the amounts of every pair it makes. -/
theorem reconcileKeys_amounts {obligations : List Obligation} {settlements : List Settlement}
    {tolerance : ℚ} {pair : MatchedPair}
    (member : pair ∈ (reconcileKeys obligations settlements tolerance).matched) :
    AmountsAgree tolerance pair := by
  rw [reconcileKeys_eq] at member
  obtain ⟨entry, inOutcomes, made⟩ := List.mem_filterMap.mp member
  obtain ⟨⟨obligation, picked⟩, -, rfl⟩ := List.mem_map.mp inOutcomes
  dsimp only at made
  match picked with
  | [] => cases made
  | [settlement] =>
    rw [KeyOutcome.ofTurn, KeyOutcome.matched?] at made
    split_ifs at made with same
    cases made
    exact amountStatus_matched_iff.mp same
  | _ :: _ :: _ => cases made

/-- The pairing loop makes a pair at a confident pairing whose rows are both still open. -/
theorem mem_autoApplied_iff {thresholds : FuzzyMatchConfig} {state : FuzzyState}
    {pairings : List FuzzyPairing} {pair : MatchedPair} :
    pair ∈ (pairingActions thresholds state pairings).filterMap FuzzyAction.matched? ↔
      ∃ prior pairing later, pairings = prior ++ pairing :: later ∧
        thresholds.autoApplyThreshold ≤ pairing.confidence ∧
        (prior.foldl (applyPairing thresholds) state).named pairing =
          some (pair.obligation, pair.settlement) := by
  rw [List.mem_filterMap]
  constructor
  · rintro ⟨action, member, made⟩
    obtain ⟨prior, pairing, later, split, acts⟩ := mem_pairingActions_iff.mp member
    obtain ⟨named, -, confident⟩ := pairingAction_eq_some_iff.mp acts
    unfold FuzzyAction.matched? at made
    split_ifs at made with auto
    cases made
    rw [if_pos auto] at confident
    exact ⟨prior, pairing, later, split, confident, named⟩
  · rintro ⟨prior, pairing, later, split, confident, named⟩
    refine ⟨⟨pair.obligation, pair.settlement, pairing, true⟩, ?_, rfl⟩
    apply mem_pairingActions_iff.mpr
    refine ⟨prior, pairing, later, split, ?_⟩
    apply pairingAction_eq_some_iff.mpr
    exact ⟨named, rfl, confident⟩

/-- The tables of the pairing loop before its first pairing. -/
def requestTables (config : AppConfig) (request : RunRequest) : FuzzyState :=
  initialFuzzyState (afterKeys config (initialState config request "" 0))

/-- Where a pairing comes confident enough to be applied, after the more confident ones, and still
finds both of its rows open, their amounts agree. -/
def AppliedAgree (config : AppConfig) (request : RunRequest) (pairings : List FuzzyPairing) : Prop :=
  ∀ prior pairing later, byConfidence pairings = prior ++ pairing :: later →
    config.fuzzyMatch.autoApplyThreshold ≤ pairing.confidence →
    ∀ obligation settlement,
      (prior.foldl (applyPairing config.fuzzyMatch) (requestTables config request)).named pairing =
        some (obligation, settlement) →
      AmountsAgree config.reconciliation.amountTolerance ⟨obligation, settlement⟩

/-- The pairs of a sorted state: those of key matching and, behind the edge, those of the loop. -/
theorem mem_sorted_matched_iff (deps : AgentDependencies ω) (request : RunRequest) (runId : String)
    (asOf : Date) (reply : Except Raised FuzzyProposal) (pair : MatchedPair) :
    pair ∈ (sortedState deps (initialState deps.config request runId asOf) reply).matched ↔
      pair ∈ (requestKeys deps.config request).matched ∨
        requestRoutes deps request ∧
          pair ∈ (pairingActions deps.config.fuzzyMatch (requestTables deps.config request)
            (byConfidence (replyPairings reply))).filterMap FuzzyAction.matched? := by
  unfold sortedState afterFuzzyEdge
  rw [← routesToFuzzy_iff deps request runId asOf]
  by_cases routed :
      routesToFuzzy deps (afterKeys deps.config (initialState deps.config request runId asOf)) = true
  · have loop := foldl_applyPairing_account deps.config.fuzzyMatch (requestTables deps.config request)
      (byConfidence (replyPairings reply))
    rw [if_pos routed, and_iff_right routed]
    change pair ∈ ((byConfidence (replyPairings reply)).foldl (applyPairing deps.config.fuzzyMatch)
      (requestTables deps.config request)).matched ↔ _
    rw [loop.matched, List.mem_append]
    rfl
  · rw [if_neg routed]
    simp only [routed, Bool.false_eq_true, false_and, or_false]
    rfl

/-- The matched pairs of a completed run agree on their amounts exactly when every pairing that the
loop applies does. -/
theorem ReconciliationAgent.Completes.amounts_agree_iff {deps : AgentDependencies ω}
    {request : RunRequest} {before after : Sys ω} {final : ReconciliationState} {outcome : RunOutcome}
    (completes : Completes deps request before final outcome after) :
    (∀ pair ∈ final.matched, AmountsAgree deps.config.reconciliation.amountTolerance pair) ↔
      (requestRoutes deps request →
        AppliedAgree deps.config request (replyPairings (requestReply deps request before.world))) := by
  obtain ⟨runId, asOf, -, sorted⟩ := completes.sorted
  have matched : final.matched = (sortedState deps (initialState deps.config request runId asOf)
      (requestReply deps request before.world)).matched := by
    rw [sorted]
  rw [matched]
  constructor
  · intro agree routed prior pairing later split confident obligation settlement named
    apply agree
    rw [mem_sorted_matched_iff]
    exact Or.inr ⟨routed, mem_autoApplied_iff.mpr ⟨prior, pairing, later, split, confident, named⟩⟩
  · intro applied pair member
    rcases (mem_sorted_matched_iff _ _ _ _ _ _).mp member with keyed | ⟨routed, paired⟩
    · exact reconcileKeys_amounts keyed
    · obtain ⟨prior, pairing, later, split, confident, named⟩ := mem_autoApplied_iff.mp paired
      exact applied routed prior pairing later split confident _ _ named

/-- An order of 500.00 and a settlement of the given amount, with nothing to join them. -/
def leftoverRequest (amount : Money) : RunRequest where
  orders := [makeOrder]
  settlements := [makeSettlement "ST9" none none amount]

/-- A confident proposal for the two rows. -/
def confidentReply : Except Raised FuzzyProposal :=
  .ok { pairings := [{ orderId := some "O1"
                       settlementId := some "ST9"
                       confidence := 9 / 10
                       rationale := "Same day." }] }

theorem amounts_agree_iff_equal :
    ∃ final outcome after,
      ReconciliationAgent.Completes (scriptedDependencies confidentReply) (leftoverRequest ⟨50000⟩)
        emptyStart final outcome after ∧
      ((∀ pair ∈ final.matched, AmountsAgree 1 pair) ↔
        (requestRoutes (scriptedDependencies confidentReply : AgentDependencies Unit)
            (leftoverRequest ⟨50000⟩) →
          AppliedAgree shippedConfig (leftoverRequest ⟨50000⟩) (replyPairings confidentReply))) := by
  have returned : (ReconciliationAgent.completedRun (scriptedDependencies confidentReply)
      (leftoverRequest ⟨50000⟩) emptyStart).any (fun _ => true) = true := by
    decide +kernel
  obtain ⟨final, outcome, after, completes, -⟩ := ReconciliationAgent.completes_passing returned
  exact ⟨final, outcome, after, completes, completes.amounts_agree_iff⟩

/-- A settlement of 1000.00 is applied to the order of 500.00. -/
theorem confident_reply_matches_excess :
    ∃ final outcome after,
      ReconciliationAgent.Completes (scriptedDependencies confidentReply) (leftoverRequest ⟨100000⟩)
        emptyStart final outcome after ∧
      ¬ ∀ pair ∈ final.matched, AmountsAgree 1 pair := by
  have differs : (ReconciliationAgent.completedRun (scriptedDependencies confidentReply)
      (leftoverRequest ⟨100000⟩) emptyStart).any
        (fun ended => decide (¬ ∀ pair ∈ ended.1.matched, AmountsAgree 1 pair)) = true := by
    decide +kernel
  obtain ⟨final, outcome, after, completes, differs⟩ := ReconciliationAgent.completes_passing differs
  exact ⟨final, outcome, after, completes, of_decide_eq_true differs⟩

end ReconcileFlow
