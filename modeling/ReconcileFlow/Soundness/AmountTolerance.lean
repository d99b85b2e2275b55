import ReconcileFlow.Soundness.MatchedAmounts

/-! # The tolerance decides nothing but the status of a pair

The turns of key matching do not depend on the tolerance: amounts are compared after the settlements of
a turn are consumed. A looser tolerance therefore leaves the same rows over and reports the same
duplicates, and it turns some of the amount exceptions into matched pairs (`reconcileKeys_tolerance`).
-/

namespace ReconcileFlow

/-- The reasons that compare amounts. -/
def isAmountReason : ExceptionReason → Bool
  | .amountShort | .amountExcess => true
  | _ => false

namespace KeyMatchResult

/-- The amount exceptions of a result, in order. -/
def amountExceptions (result : KeyMatchResult) : List ExceptionRecord :=
  result.exceptions.filter fun exception => isAmountReason exception.reason

/-- The duplicate exceptions of a result, in order. -/
def duplicates (result : KeyMatchResult) : List ExceptionRecord :=
  result.exceptions.filter fun exception => exception.reason == .duplicateSettlement

end KeyMatchResult

/-- The exception that a tolerance makes of a pair it does not accept. -/
def pairException (tolerance : ℚ) (pair : MatchedPair) : ExceptionRecord :=
  amountException pair.obligation pair.settlement
    (amountStatus pair.obligation.expectedAmount pair.settlement.amount tolerance)

/-- What a looser tolerance changes: it accepts further pairs, which the tighter one reports. -/
structure Loosened (tolerance : ℚ) (tight loose : KeyMatchResult) : Prop where
  unmatchedObligations : tight.unmatchedObligations = loose.unmatchedObligations
  unmatchedSettlements : tight.unmatchedSettlements = loose.unmatchedSettlements
  duplicates : tight.duplicates = loose.duplicates
  matched : tight.matched.Sublist loose.matched
  amounts : loose.amountExceptions.Sublist tight.amountExceptions
  accepted : loose.matched.filter (fun pair => decide (AmountsAgree tolerance pair)) = tight.matched
  newly : tight.amountExceptions.Perm (loose.amountExceptions ++
    (loose.matched.filter fun pair => !decide (AmountsAgree tolerance pair)).map (pairException tolerance))

/-- What one turn contributes to the result. -/
def turnOutcomes (tolerance : ℚ) (turn : Obligation × List Settlement) : KeyOutcome :=
  KeyOutcome.ofTurn tolerance turn.1 turn.2

/-- The result, read off turns that do not depend on the tolerance. -/
theorem reconcileKeys_turns (obligations : List Obligation) (settlements : List Settlement)
    (tolerance : ℚ) :
    let turns := keyTurns settlements ∅ obligations
    reconcileKeys obligations settlements tolerance =
      { matched := turns.filterMap fun turn => (turnOutcomes tolerance turn).matched? turn.1
        exceptions := turns.filterMap fun turn => (turnOutcomes tolerance turn).exception? turn.1
        unmatchedObligations := turns.filterMap fun turn => (turnOutcomes tolerance turn).leftover? turn.1
        unmatchedSettlements := live (keySpent settlements ∅ obligations) settlements } := by
  rw [reconcileKeys_eq]
  simp only [keyOutcomes, List.filterMap_map]
  rfl

/-- The amount exception of a turn. -/
def turnAmount (tolerance : ℚ) (turn : Obligation × List Settlement) : Option ExceptionRecord :=
  ((turnOutcomes tolerance turn).exception? turn.1).filter fun exception => isAmountReason exception.reason

theorem amountException_reason (obligation : Obligation) (settlement : Settlement)
    (status : ObligationStatus) : isAmountReason (amountException obligation settlement status).reason = true := by
  cases status <;> rfl

/-- A turn that consumes one settlement makes a pair or an amount exception of it. -/
theorem turn_single (tolerance : ℚ) (obligation : Obligation) (settlement : Settlement) :
    (turnOutcomes tolerance (obligation, [settlement])).matched? obligation =
        (if AmountsAgree tolerance ⟨obligation, settlement⟩ then some ⟨obligation, settlement⟩ else none) ∧
      turnAmount tolerance (obligation, [settlement]) =
        if AmountsAgree tolerance ⟨obligation, settlement⟩ then none
        else some (pairException tolerance ⟨obligation, settlement⟩) := by
  have agree : amountStatus obligation.expectedAmount settlement.amount tolerance = .matched ↔
      AmountsAgree tolerance ⟨obligation, settlement⟩ := amountStatus_matched_iff
  unfold turnAmount turnOutcomes KeyOutcome.ofTurn KeyOutcome.matched? KeyOutcome.exception?
  simp only [agree]
  by_cases same : AmountsAgree tolerance ⟨obligation, settlement⟩
  · simp [same]
  · simp [same, pairException, amountException_reason]

/-- A turn that consumes no settlement or several makes neither. -/
theorem turn_other (tolerance : ℚ) {turn : Obligation × List Settlement} (other : turn.2.length ≠ 1) :
    (turnOutcomes tolerance turn).matched? turn.1 = none ∧ turnAmount tolerance turn = none := by
  obtain ⟨obligation, picked⟩ := turn
  match picked with
  | [] => exact ⟨rfl, rfl⟩
  | [settlement] => exact (other rfl).elim
  | first :: second :: rest => exact ⟨rfl, rfl⟩

/-- Two exceptions about one pair are the same one, when neither tolerance accepts the pair. -/
theorem pairException_eq {tight loose : ℚ} (le : tight ≤ loose) {pair : MatchedPair}
    (apart : ¬ AmountsAgree loose pair) : pairException tight pair = pairException loose pair := by
  have tighter : ¬ AmountsAgree tight pair := fun agree => apart (agree.trans le)
  unfold AmountsAgree at apart tighter
  unfold pairException amountStatus
  simp only [apart, tighter, if_false]

/-- What a turn makes under the looser tolerance, sorted by the tighter one. -/
theorem turn_loosened {tight loose : ℚ} (le : tight ≤ loose) (turn : Obligation × List Settlement) :
    ((turnOutcomes loose turn).matched? turn.1).filter (fun pair => decide (AmountsAgree tight pair)) =
        (turnOutcomes tight turn).matched? turn.1 ∧
      (turnAmount tight turn).toList = (turnAmount loose turn).toList ++
        (((turnOutcomes loose turn).matched? turn.1).filter
          (fun pair => !decide (AmountsAgree tight pair))).toList.map (pairException tight) := by
  by_cases one : turn.2.length = 1
  · obtain ⟨obligation, picked⟩ := turn
    obtain ⟨settlement, rfl⟩ := List.length_eq_one_iff.mp one
    dsimp only
    rw [(turn_single tight _ _).1, (turn_single tight _ _).2, (turn_single loose _ _).1,
      (turn_single loose _ _).2]
    by_cases far : AmountsAgree loose ⟨obligation, settlement⟩
    · by_cases close : AmountsAgree tight ⟨obligation, settlement⟩ <;> simp [far, close, Option.filter_some]
    · have tighter : ¬ AmountsAgree tight ⟨obligation, settlement⟩ := fun agree => far (agree.trans le)
      simp [far, tighter, pairException_eq le far]
  · rw [(turn_other tight one).1, (turn_other tight one).2, (turn_other loose one).1,
      (turn_other loose one).2]
    exact ⟨rfl, rfl⟩

/-- Whether a turn is left over or reports a duplicate does not depend on the tolerance. -/
theorem turn_kept (tight loose : ℚ) (turn : Obligation × List Settlement) :
    (turnOutcomes tight turn).leftover? turn.1 = (turnOutcomes loose turn).leftover? turn.1 ∧
      ((turnOutcomes tight turn).exception? turn.1).filter (fun raised => raised.reason == .duplicateSettlement) =
        ((turnOutcomes loose turn).exception? turn.1).filter
          (fun raised => raised.reason == .duplicateSettlement) := by
  have amounts (tolerance : ℚ) (settlement : Settlement) :
      ((turnOutcomes tolerance (turn.1, [settlement])).exception? turn.1).filter
        (fun raised => raised.reason == .duplicateSettlement) = none := by
    rw [turnOutcomes, KeyOutcome.ofTurn, KeyOutcome.exception?]
    split_ifs
    · rfl
    · cases amountStatus turn.1.expectedAmount settlement.amount tolerance <;> rfl
  obtain ⟨obligation, _ | ⟨settlement, _ | ⟨second, rest⟩⟩⟩ := turn
  · exact ⟨rfl, rfl⟩
  · exact ⟨rfl, (amounts tight settlement).trans (amounts loose settlement).symm⟩
  · exact ⟨rfl, rfl⟩

theorem amountExceptions_eq (obligations : List Obligation) (settlements : List Settlement) (tolerance : ℚ) :
    (reconcileKeys obligations settlements tolerance).amountExceptions =
      (keyTurns settlements ∅ obligations).filterMap (turnAmount tolerance) := by
  rw [reconcileKeys_turns, KeyMatchResult.amountExceptions, List.filter_filterMap]
  rfl

/-- A looser tolerance accepts pairs that the tighter one reports, and changes nothing else. -/
theorem reconcileKeys_tolerance (obligations : List Obligation) (settlements : List Settlement)
    {tight loose : ℚ} (le : tight ≤ loose) :
    Loosened tight (reconcileKeys obligations settlements tight)
      (reconcileKeys obligations settlements loose) := by
  have accepted : (reconcileKeys obligations settlements loose).matched.filter
      (fun pair => decide (AmountsAgree tight pair)) =
        (reconcileKeys obligations settlements tight).matched := by
    rw [reconcileKeys_turns, reconcileKeys_turns, List.filter_filterMap]
    exact List.filterMap_congr fun turn _ => (turn_loosened le turn).1
  refine ⟨?_, ?_, ?_, accepted ▸ List.filter_sublist, ?_, accepted, ?_⟩
  · rw [reconcileKeys_turns, reconcileKeys_turns]
    exact List.filterMap_congr fun turn _ => (turn_kept tight loose turn).1
  · rw [reconcileKeys_turns, reconcileKeys_turns]
  · rw [reconcileKeys_turns, reconcileKeys_turns, KeyMatchResult.duplicates, KeyMatchResult.duplicates,
      List.filter_filterMap, List.filter_filterMap]
    exact List.filterMap_congr fun turn _ => (turn_kept tight loose turn).2
  · rw [amountExceptions_eq, amountExceptions_eq, List.filterMap_eq_flatMap_toList,
      List.filterMap_eq_flatMap_toList]
    refine List.Sublist.flatMap_right _ fun turn _ => ?_
    rw [(turn_loosened le turn).2]
    exact List.sublist_append_left _ _
  · have each := List.flatMap_append_perm (keyTurns settlements ∅ obligations)
      (fun turn => (turnAmount loose turn).toList)
      (fun turn => (((turnOutcomes loose turn).matched? turn.1).filter
        (fun pair => !decide (AmountsAgree tight pair))).toList.map (pairException tight))
    rw [amountExceptions_eq, amountExceptions_eq, reconcileKeys_turns, List.filter_filterMap,
      List.filterMap_eq_flatMap_toList, List.filterMap_eq_flatMap_toList, List.filterMap_eq_flatMap_toList,
      List.map_flatMap]
    refine List.Perm.trans (List.Perm.of_eq ?_) each.symm
    exact List.flatMap_congr fun turn _ => (turn_loosened le turn).2

/-- A payment that is half a rupee short is accepted under the tolerance of one rupee. -/
theorem reconcileKeys_tolerance_short :
    Loosened 0
      (reconcileKeys [makeObligation "O1" "TXN1"] [makeSettlement "ST1" none (some "TXN1") ⟨99950⟩] 0)
      (reconcileKeys [makeObligation "O1" "TXN1"] [makeSettlement "ST1" none (some "TXN1") ⟨99950⟩] 1) :=
  reconcileKeys_tolerance _ _ (by norm_num)

end ReconcileFlow
