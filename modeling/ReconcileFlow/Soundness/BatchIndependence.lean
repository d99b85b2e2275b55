import ReconcileFlow.Model.Offline
import ReconcileFlow.Soundness.KeyMatching

/-! # Independent batches reconcile independently

The rows of several batches are interleaved in one obligation list and one settlement list. Each pass
of the matching loop contributes to the part of its obligation's batch. When no settlement satisfies
an obligation of another batch and no settlement id occurs in two batches, every part is the result of
its batch alone (`batches_independent`).
-/

namespace ReconcileFlow

open Allocation

variable {τ : Type} [DecidableEq τ]

/-- One pass of the loop body; only a pass for the batch shows in the lists. -/
def batchStep (index : SettlementIndex) (tolerance : ℚ) (batch : τ) (state : KeyMatchState)
    (row : τ × Obligation) : KeyMatchState :=
  let next := keyMatchStep index tolerance state row.2
  if row.1 = batch then next else { state with consumed := next.consumed }

/-- What the loop over all rows contributes to its result on behalf of one batch. -/
def batchPart (obligations : List (τ × Obligation)) (settlements : List (τ × Settlement))
    (tolerance : ℚ) (batch : τ) : KeyMatchResult :=
  let final := obligations.foldl
    (batchStep (indexSettlements (settlements.map Prod.snd)) tolerance batch) ⟨∅, [], [], []⟩
  { matched := final.matched
    exceptions := final.exceptions
    unmatchedObligations := final.unmatchedObligations
    unmatchedSettlements := ofBatch batch
      (settlements.filter fun row => decide (row.2.settlementId ∉ final.consumed)) }

/-- Each list of the result is an interleaving of the lists of the parts. -/
structure KeyMatchResult.Woven (parts : τ → KeyMatchResult) (whole : KeyMatchResult) : Prop where
  matched : WovenFrom (fun batch => (parts batch).matched) whole.matched
  exceptions : WovenFrom (fun batch => (parts batch).exceptions) whole.exceptions
  unmatchedObligations :
    WovenFrom (fun batch => (parts batch).unmatchedObligations) whole.unmatchedObligations
  unmatchedSettlements :
    WovenFrom (fun batch => (parts batch).unmatchedSettlements) whole.unmatchedSettlements

/-- The candidates of a tagged obligation. -/
def batchCandidates (settlements : List Settlement) (consumed : Finset String) (row : τ × Obligation) :
    List Settlement :=
  candidates (indexSettlements settlements) consumed row.2

/-- The history of the loop over tagged obligations. -/
def batchTurns (settlements : List Settlement) (consumed : Finset String)
    (obligations : List (τ × Obligation)) : List ((τ × Obligation) × List Settlement) :=
  turns Settlement.settlementId (batchCandidates settlements) consumed obligations

/-- The outcome of a turn, without its tag. -/
def turnOutcome (tolerance : ℚ) (turn : (τ × Obligation) × List Settlement) : Obligation × KeyOutcome :=
  (turn.1.2, KeyOutcome.ofTurn tolerance turn.1.2 turn.2)

omit [DecidableEq τ] in
/-- Forgetting the tags gives the outcomes of the plain loop. -/
theorem map_turnOutcome (settlements : List Settlement) (tolerance : ℚ) (consumed : Finset String)
    (obligations : List (τ × Obligation)) :
    (batchTurns settlements consumed obligations).map (turnOutcome tolerance) =
      keyOutcomes settlements tolerance consumed (obligations.map Prod.snd) := by
  unfold keyOutcomes keyTurns batchTurns batchCandidates
  rw [← turns_map, List.map_map]
  rfl

theorem foldl_batchStep (settlements : List Settlement) (tolerance : ℚ) (batch : τ)
    (obligations : List (τ × Obligation)) (state : KeyMatchState) :
    obligations.foldl (batchStep (indexSettlements settlements) tolerance batch) state =
      let outcomes := ((batchTurns settlements state.consumed obligations).filter
        fun turn => decide (turn.1.1 = batch)).map (turnOutcome tolerance)
      { consumed := spent Settlement.settlementId (batchCandidates settlements) state.consumed obligations
        matched := state.matched ++ outcomes.filterMap (fun entry => entry.2.matched? entry.1)
        exceptions := state.exceptions ++ outcomes.filterMap (fun entry => entry.2.exception? entry.1)
        unmatchedObligations := state.unmatchedObligations ++
          outcomes.filterMap (fun entry => entry.2.leftover? entry.1) } := by
  induction obligations generalizing state with
  | nil => simp [batchTurns, spent, turns]
  | cons row rest ih =>
    rw [List.foldl_cons, ih, batchStep, keyMatchStep_eq]
    by_cases own : row.1 = batch
    · simp only [own, if_true, batchTurns, turns, spent, List.filter_cons, decide_true, List.map_cons,
        List.filterMap_eq_flatMap_toList, List.flatMap_cons, List.append_assoc, turnOutcome, batchCandidates]
    · simp only [own, if_false, batchTurns, turns, spent, List.filter_cons, decide_false, batchCandidates,
        Bool.false_eq_true]

omit [DecidableEq τ] in
theorem spent_batchCandidates (settlements : List Settlement) (consumed : Finset String)
    (obligations : List (τ × Obligation)) :
    spent Settlement.settlementId (batchCandidates settlements) consumed obligations =
      keySpent settlements consumed (obligations.map Prod.snd) :=
  spent_map Settlement.settlementId (candidates (indexSettlements settlements)) Prod.snd consumed obligations

/-- The parts make up the result. -/
theorem reconcileKeys_woven (obligations : List (τ × Obligation)) (settlements : List (τ × Settlement))
    (tolerance : ℚ) :
    (reconcileKeys (obligations.map Prod.snd) (settlements.map Prod.snd) tolerance).Woven
      (batchPart obligations settlements tolerance) := by
  have weave {α : Type} (entry : Obligation × KeyOutcome → Option α) :
      WovenFrom (fun batch : τ => (((batchTurns (settlements.map Prod.snd) ∅ obligations).filter
          fun turn => decide (turn.1.1 = batch)).map (turnOutcome tolerance)).filterMap entry)
        ((keyOutcomes (settlements.map Prod.snd) tolerance ∅ (obligations.map Prod.snd)).filterMap entry) := by
    rw [← map_turnOutcome, List.filterMap_map]
    simp only [List.filterMap_map]
    exact wovenFrom_filterMap (fun turn : (τ × Obligation) × List Settlement => turn.1.1) _ _
  rw [reconcileKeys_eq]
  unfold batchPart
  simp only [foldl_batchStep, List.nil_append]
  constructor
  · exact weave fun entry => entry.2.matched? entry.1
  · exact weave fun entry => entry.2.exception? entry.1
  · exact weave fun entry => entry.2.leftover? entry.1
  · refine ⟨settlements.filter fun row => decide (row.2.settlementId ∉
      keySpent (settlements.map Prod.snd) ∅ (obligations.map Prod.snd)), ?_, fun batch => ?_⟩
    · rw [live, List.filter_map]
      rfl
    · rw [spent_batchCandidates]

section Apart

variable {obligations : List (τ × Obligation)} {settlements : List (τ × Settlement)}
  (apart : ∀ row ∈ obligations, ∀ other ∈ settlements, row.1 ≠ other.1 → ¬ Satisfies row.2 other.2)
  (separate : ∀ row ∈ settlements, ∀ other ∈ settlements, row.1 ≠ other.1 →
    row.2.settlementId ≠ other.2.settlementId)

/-- The settlement ids of a batch. -/
def batchIds (settlements : List (τ × Settlement)) (batch : τ) (settlementId : String) : Prop :=
  ∃ settlement ∈ ofBatch batch settlements, settlement.settlementId = settlementId

include apart

/-- One lookup finds the same live rows among all settlements as among the batch's own. -/
theorem live_lookup_eq {row : τ × Obligation} (present : row ∈ obligations)
    {wanted : Settlement → Prop} [DecidablePred wanted]
    (satisfies : ∀ settlement, wanted settlement → Satisfies row.2 settlement) {used other : Finset String}
    (agree : AgreeOn (batchIds settlements row.1) used other) :
    live used ((settlements.map Prod.snd).filter fun settlement => decide (wanted settlement)) =
      live other ((ofBatch row.1 settlements).filter fun settlement => decide (wanted settlement)) := by
  rw [live, live, ofBatch, List.filter_map, List.filter_map, List.filter_map, List.filter_map,
    List.filter_filter, List.filter_filter, List.filter_filter]
  congr 1
  refine List.filter_congr fun settled member => Bool.eq_iff_iff.mpr ?_
  simp only [Function.comp_apply, Bool.and_eq_true, decide_eq_true_eq]
  constructor
  · rintro ⟨free, wants⟩
    have same : settled.1 = row.1 := by
      by_contra different
      exact apart row present settled member (Ne.symm different) (satisfies _ wants)
    have owned : batchIds settlements row.1 settled.2.settlementId :=
      ⟨settled.2, mem_ofBatch.mpr (same ▸ member), rfl⟩
    exact ⟨⟨fun taken => free ((agree _ owned).mpr taken), wants⟩, same⟩
  · rintro ⟨⟨free, wants⟩, same⟩
    have owned : batchIds settlements row.1 settled.2.settlementId :=
      ⟨settled.2, mem_ofBatch.mpr (same ▸ member), rfl⟩
    exact ⟨fun taken => free ((agree _ owned).mp taken), wants⟩

/-- An obligation finds the same candidates among all settlements as among its batch's own. -/
theorem candidates_eq_alone {row : τ × Obligation} (present : row ∈ obligations)
    {used other : Finset String} (agree : AgreeOn (batchIds settlements row.1) used other) :
    candidates (indexSettlements (settlements.map Prod.snd)) used row.2 =
      candidates (indexSettlements (ofBatch row.1 settlements)) other row.2 := by
  have byTxn : txnCandidates (indexSettlements (settlements.map Prod.snd)) used row.2 =
      txnCandidates (indexSettlements (ofBatch row.1 settlements)) other row.2 := by
    rw [txnCandidates_eq, txnCandidates_eq]
    exact live_lookup_eq apart present (fun _ => Or.inl) agree
  have fallback : fallbackCandidates (indexSettlements (settlements.map Prod.snd)) used row.2 =
      fallbackCandidates (indexSettlements (ofBatch row.1 settlements)) other row.2 := by
    rw [fallbackCandidates_eq, fallbackCandidates_eq]
    exact live_lookup_eq apart present (fun _ => Or.inr) agree
  unfold candidates
  rw [byTxn, fallback]

include separate

/-- The batches do not look at each other's rows. -/
theorem batches_apart (batch : τ) : ∀ row ∈ obligations,
    Independent Settlement.settlementId (batchCandidates (settlements.map Prod.snd))
      (batchCandidates (ofBatch batch settlements)) (fun row => row.1 = batch)
      (batchIds settlements batch) row := by
  intro row present
  constructor
  · rintro rfl used other agree
    exact candidates_eq_alone apart present agree
  · rintro different used picked member ⟨own, ofOwn, same⟩
    obtain ⟨inAll, -, satisfied⟩ := mem_candidates member
    obtain ⟨settled, listed, rfl⟩ := List.mem_map.mp inAll
    have tagged : row.1 = settled.1 := by
      by_contra foreign
      exact apart row present settled listed foreign satisfied
    refine separate (batch, own) (mem_ofBatch.mp ofOwn) settled listed ?_ same
    exact fun equal => different (tagged.trans equal.symm)

end Apart

/-- In any interleaving of batches that share no key and no settlement id, the part of the result that
concerns a batch is the result of the batch alone. -/
theorem batches_independent (obligations : List (τ × Obligation)) (settlements : List (τ × Settlement))
    (tolerance : ℚ)
    (apart : ∀ row ∈ obligations, ∀ other ∈ settlements, row.1 ≠ other.1 → ¬ Satisfies row.2 other.2)
    (separate : ∀ row ∈ settlements, ∀ other ∈ settlements, row.1 ≠ other.1 →
      row.2.settlementId ≠ other.2.settlementId) :
    (reconcileKeys (obligations.map Prod.snd) (settlements.map Prod.snd) tolerance).Woven
        (batchPart obligations settlements tolerance) ∧
      ∀ batch, batchPart obligations settlements tolerance batch =
        reconcileKeys (ofBatch batch obligations) (ofBatch batch settlements) tolerance := by
  refine ⟨reconcileKeys_woven obligations settlements tolerance, fun batch => ?_⟩
  have start : AgreeOn (batchIds settlements batch) ∅ ∅ := fun _ _ => Iff.rfl
  have turns_alone := filter_turns Settlement.settlementId (batches_apart apart separate batch) start
  have spent_alone := agreeOn_spent Settlement.settlementId (batches_apart apart separate batch) start
  have outcomes : ((batchTurns (settlements.map Prod.snd) ∅ obligations).filter
      fun turn => decide (turn.1.1 = batch)).map (turnOutcome tolerance) =
        keyOutcomes (ofBatch batch settlements) tolerance ∅ (ofBatch batch obligations) := by
    rw [ofBatch.eq_def batch obligations, ← map_turnOutcome]
    exact congrArg (List.map (turnOutcome tolerance)) turns_alone
  rw [reconcileKeys_eq]
  unfold batchPart
  simp only [foldl_batchStep, List.nil_append, outcomes]
  congr 1
  rw [ofBatch, live, ofBatch, List.filter_map, List.filter_filter, List.filter_filter]
  congr 1
  refine List.filter_congr fun settled member => Bool.eq_iff_iff.mpr ?_
  simp only [Function.comp_apply, Bool.and_eq_true, decide_eq_true_eq]
  rw [and_comm]
  refine and_congr_left fun same => not_congr ?_
  rw [ofBatch, ← spent_batchCandidates]
  exact spent_alone _ ⟨settled.2, mem_ofBatch.mpr (same ▸ member), rfl⟩

/-- Two card obligations of different batches, and their settlements in the opposite order. -/
theorem batches_independent_two :
    let obligations := [(true, makeObligation "O1" "TXN1"), (false, makeObligation "O2" "TXN2")]
    let settlements := [(false, makeSettlement "ST2" none (some "TXN2")),
      (true, makeSettlement "ST1" none (some "TXN1"))]
    (reconcileKeys (obligations.map Prod.snd) (settlements.map Prod.snd) 1).Woven
        (batchPart obligations settlements 1) ∧
      ∀ batch, batchPart obligations settlements 1 batch =
        reconcileKeys (ofBatch batch obligations) (ofBatch batch settlements) 1 :=
  batches_independent _ _ 1 (by decide) (by decide)

end ReconcileFlow
