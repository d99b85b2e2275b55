import ReconcileFlow.Model.Offline
import ReconcileFlow.ToMathlib.Allocation

/-! # What key matching decides for each obligation

The matching loop is a sequential allocation of settlement rows: a turn picks the candidates of one
obligation and spends their settlement ids. Its three output lists are read off the turns, one entry
for each obligation, and its leftover settlements are the rows with an unspent id
(`reconcileKeys_eq`). Every statement about the loop is proved on the turns.
-/

namespace ReconcileFlow

open Allocation

/-- The settlement carries the obligation's transaction id. -/
def SatisfiesByTxn (obligation : Obligation) (settlement : Settlement) : Prop :=
  (truthy obligation.gatewayTxnId).isSome ∧ truthy settlement.gatewayTxnId = truthy obligation.gatewayTxnId

/-- The settlement carries the obligation's `(order_id, payment_type)`. -/
def SatisfiesByOrderType (obligation : Obligation) (settlement : Settlement) : Prop :=
  orderTypeKey settlement = some (obligation.orderId, obligation.paymentType)

instance (obligation : Obligation) (settlement : Settlement) :
    Decidable (SatisfiesByTxn obligation settlement) :=
  inferInstanceAs (Decidable (_ ∧ _))

instance (obligation : Obligation) (settlement : Settlement) :
    Decidable (SatisfiesByOrderType obligation settlement) :=
  inferInstanceAs (Decidable (_ = _))

/-- The settlement satisfies the obligation by one of the two keys. -/
def Satisfies (obligation : Obligation) (settlement : Settlement) : Prop :=
  SatisfiesByTxn obligation settlement ∨ SatisfiesByOrderType obligation settlement

instance (obligation : Obligation) (settlement : Settlement) :
    Decidable (Satisfies obligation settlement) :=
  inferInstanceAs (Decidable (_ ∨ _))

theorem txnCandidates_eq (settlements : List Settlement) (consumed : Finset String)
    (obligation : Obligation) :
    txnCandidates (indexSettlements settlements) consumed obligation =
      live consumed (settlements.filter (fun settlement => decide (SatisfiesByTxn obligation settlement))) := by
  cases txn : truthy obligation.gatewayTxnId with
  | none => simp [txnCandidates, SatisfiesByTxn, txn, live]
  | some value =>
    simp only [txnCandidates, txn, indexSettlements, KeyedTable.members_group]
    congr 1
    refine List.filter_congr fun settlement _ => decide_eq_decide.mpr ?_
    simp only [SatisfiesByTxn, txn, Option.isSome_some, true_and]

theorem fallbackCandidates_eq (settlements : List Settlement) (consumed : Finset String)
    (obligation : Obligation) :
    fallbackCandidates (indexSettlements settlements) consumed obligation =
      live consumed
        (settlements.filter (fun settlement => decide (SatisfiesByOrderType obligation settlement))) := by
  simp only [fallbackCandidates, indexSettlements, KeyedTable.members_group]
  rfl

/-- The candidates are the live rows of one of the two keys. -/
theorem candidates_cases (settlements : List Settlement) (consumed : Finset String)
    (obligation : Obligation) :
    candidates (indexSettlements settlements) consumed obligation =
        txnCandidates (indexSettlements settlements) consumed obligation ∨
      txnCandidates (indexSettlements settlements) consumed obligation = [] ∧
        candidates (indexSettlements settlements) consumed obligation =
          fallbackCandidates (indexSettlements settlements) consumed obligation := by
  unfold candidates
  split
  · next empty => exact Or.inr ⟨empty, rfl⟩
  · exact Or.inl rfl

theorem candidates_select (settlements : List Settlement) (consumed : Finset String)
    (obligation : Obligation) : ∃ wanted : Settlement → Bool,
      candidates (indexSettlements settlements) consumed obligation = settlements.filter wanted := by
  rcases candidates_cases settlements consumed obligation with byTxn | ⟨-, fallback⟩
  · exact ⟨_, by rw [byTxn, txnCandidates_eq, live, List.filter_filter]⟩
  · exact ⟨_, by rw [fallback, fallbackCandidates_eq, live, List.filter_filter]⟩

theorem mem_live {consumed : Finset String} {rows : List Settlement} {settlement : Settlement} :
    settlement ∈ live consumed rows ↔ settlement ∈ rows ∧ settlement.settlementId ∉ consumed := by
  simp [live]

/-- A candidate is an unconsumed row of the input that satisfies the obligation. -/
theorem mem_candidates {settlements : List Settlement} {consumed : Finset String}
    {obligation : Obligation} {settlement : Settlement}
    (member : settlement ∈ candidates (indexSettlements settlements) consumed obligation) :
    settlement ∈ settlements ∧ settlement.settlementId ∉ consumed ∧ Satisfies obligation settlement := by
  rcases candidates_cases settlements consumed obligation with byTxn | ⟨-, fallback⟩
  · rw [byTxn, txnCandidates_eq, mem_live, List.mem_filter, decide_eq_true_eq] at member
    exact ⟨member.1.1, member.2, Or.inl member.1.2⟩
  · rw [fallback, fallbackCandidates_eq, mem_live, List.mem_filter, decide_eq_true_eq] at member
    exact ⟨member.1.1, member.2, Or.inr member.1.2⟩

theorem candidates_fresh (settlements : List Settlement) (consumed : Finset String)
    (obligation : Obligation) :
    ∀ row ∈ candidates (indexSettlements settlements) consumed obligation, row.settlementId ∉ consumed :=
  fun _ member => (mem_candidates member).2.1

/-- What the loop decides for one obligation. -/
inductive KeyOutcome where
  /-- One settlement was consumed; its amount has the given status. -/
  | single (settlement : Settlement) (status : ObligationStatus)
  /-- Several settlements were consumed. -/
  | duplicate (first : Settlement) (rest : List Settlement)
  | unmatched
deriving DecidableEq, Repr

namespace KeyOutcome

/-- The settlement rows the obligation consumed. -/
def rows : KeyOutcome → List Settlement
  | single settlement _ => [settlement]
  | duplicate first rest => first :: rest
  | unmatched => []

/-- The entry in `matched`. -/
def matched? (obligation : Obligation) : KeyOutcome → Option MatchedPair
  | single settlement status => if status = .matched then some ⟨obligation, settlement⟩ else none
  | _ => none

/-- The entry in `exceptions`. -/
def exception? (obligation : Obligation) : KeyOutcome → Option ExceptionRecord
  | single settlement status =>
    if status = .matched then none else some (amountException obligation settlement status)
  | duplicate first rest => some (duplicateException obligation first rest)
  | unmatched => none

/-- The entry in `unmatched_obligations`. -/
def leftover? (obligation : Obligation) : KeyOutcome → Option Obligation
  | unmatched => some obligation
  | _ => none

/-- The outcome read off the candidates consumed at a turn. -/
def ofTurn (tolerance : ℚ) (obligation : Obligation) : List Settlement → KeyOutcome
  | [] => unmatched
  | [settlement] => single settlement (amountStatus obligation.expectedAmount settlement.amount tolerance)
  | first :: second :: rest => duplicate first (second :: rest)

@[simp] theorem rows_ofTurn (tolerance : ℚ) (obligation : Obligation) (picked : List Settlement) :
    (ofTurn tolerance obligation picked).rows = picked := by
  match picked with
  | [] => rfl
  | [_] => rfl
  | _ :: _ :: _ => rfl

/-- An outcome lands in exactly one of the three output lists. -/
theorem exactly_one (obligation : Obligation) (outcome : KeyOutcome) :
    (outcome.matched? obligation).toList.length + (outcome.exception? obligation).toList.length +
      (outcome.leftover? obligation).toList.length = 1 := by
  cases outcome with
  | single settlement status =>
    by_cases same : status = .matched <;> simp [matched?, exception?, leftover?, same]
  | duplicate first rest => rfl
  | unmatched => rfl

end KeyOutcome

/-! ## The loop as turns -/

/-- The history of the loop: every obligation with the candidates it consumed. -/
def keyTurns (settlements : List Settlement) (consumed : Finset String) (obligations : List Obligation) :
    List (Obligation × List Settlement) :=
  turns Settlement.settlementId (candidates (indexSettlements settlements)) consumed obligations

/-- The settlement ids consumed once the obligations are processed. -/
def keySpent (settlements : List Settlement) (consumed : Finset String) (obligations : List Obligation) :
    Finset String :=
  spent Settlement.settlementId (candidates (indexSettlements settlements)) consumed obligations

/-- The outcome of every obligation, in input order. -/
def keyOutcomes (settlements : List Settlement) (tolerance : ℚ) (consumed : Finset String)
    (obligations : List Obligation) : List (Obligation × KeyOutcome) :=
  (keyTurns settlements consumed obligations).map fun turn =>
    (turn.1, KeyOutcome.ofTurn tolerance turn.1 turn.2)

theorem keyOutcomes_cons (settlements : List Settlement) (tolerance : ℚ) (consumed : Finset String)
    (obligation : Obligation) (rest : List Obligation) :
    keyOutcomes settlements tolerance consumed (obligation :: rest) =
      (obligation, KeyOutcome.ofTurn tolerance obligation
        (candidates (indexSettlements settlements) consumed obligation)) ::
      keyOutcomes settlements tolerance (consumed ∪ idents Settlement.settlementId
        (candidates (indexSettlements settlements) consumed obligation)) rest := rfl

/-- There is one outcome for each obligation. -/
theorem map_fst_keyOutcomes (settlements : List Settlement) (tolerance : ℚ) (consumed : Finset String)
    (obligations : List Obligation) :
    (keyOutcomes settlements tolerance consumed obligations).map Prod.fst = obligations := by
  rw [keyOutcomes, List.map_map]
  exact map_fst_turns _ _ _ _

/-- An outcome is decided by the obligations before it. -/
theorem mem_keyOutcomes {settlements : List Settlement} {tolerance : ℚ} {consumed : Finset String}
    {obligations : List Obligation} {entry : Obligation × KeyOutcome} :
    entry ∈ keyOutcomes settlements tolerance consumed obligations ↔
      ∃ prior later, obligations = prior ++ entry.1 :: later ∧
        entry.2 = KeyOutcome.ofTurn tolerance entry.1
          (candidates (indexSettlements settlements) (keySpent settlements consumed prior) entry.1) := by
  constructor
  · intro member
    obtain ⟨turn, inTurns, rfl⟩ := List.mem_map.mp member
    obtain ⟨prior, later, split, picked⟩ := (mem_turns_iff _ _).mp inTurns
    refine ⟨prior, later, split, ?_⟩
    rw [picked]
    rfl
  · rintro ⟨prior, later, split, outcome⟩
    refine List.mem_map.mpr ⟨(entry.1, candidates (indexSettlements settlements)
      (keySpent settlements consumed prior) entry.1), ?_, Prod.ext rfl outcome.symm⟩
    exact (mem_turns_iff _ _).mpr ⟨prior, later, split, rfl⟩

/-- One pass of the loop body appends the outcome of its obligation. -/
theorem keyMatchStep_eq (index : SettlementIndex) (tolerance : ℚ) (state : KeyMatchState)
    (obligation : Obligation) :
    keyMatchStep index tolerance state obligation =
      let picked := candidates index state.consumed obligation
      let outcome := KeyOutcome.ofTurn tolerance obligation picked
      { consumed := state.consumed ∪ idents Settlement.settlementId picked
        matched := state.matched ++ (outcome.matched? obligation).toList
        exceptions := state.exceptions ++ (outcome.exception? obligation).toList
        unmatchedObligations := state.unmatchedObligations ++ (outcome.leftover? obligation).toList } := by
  unfold keyMatchStep
  split
  · next empty =>
    simp [empty, idents, KeyOutcome.ofTurn, KeyOutcome.matched?, KeyOutcome.exception?, KeyOutcome.leftover?]
  · next settlement one =>
    by_cases same : amountStatus obligation.expectedAmount settlement.amount tolerance = .matched <;>
      simp [one, idents, KeyOutcome.ofTurn, KeyOutcome.matched?, KeyOutcome.exception?,
        KeyOutcome.leftover?, same]
  · next first rest notOne several =>
    cases rest with
    | nil => exact (notOne rfl).elim
    | cons second rest =>
      simp [several, idents, KeyOutcome.ofTurn, KeyOutcome.matched?, KeyOutcome.exception?,
        KeyOutcome.leftover?]

theorem foldl_keyMatchStep (settlements : List Settlement) (tolerance : ℚ)
    (obligations : List Obligation) (state : KeyMatchState) :
    obligations.foldl (keyMatchStep (indexSettlements settlements) tolerance) state =
      let outcomes := keyOutcomes settlements tolerance state.consumed obligations
      { consumed := keySpent settlements state.consumed obligations
        matched := state.matched ++ outcomes.filterMap (fun entry => entry.2.matched? entry.1)
        exceptions := state.exceptions ++ outcomes.filterMap (fun entry => entry.2.exception? entry.1)
        unmatchedObligations := state.unmatchedObligations ++
          outcomes.filterMap (fun entry => entry.2.leftover? entry.1) } := by
  induction obligations generalizing state with
  | nil => simp [keySpent, keyOutcomes, keyTurns, spent, turns]
  | cons obligation rest ih =>
    rw [List.foldl_cons, ih, keyMatchStep_eq]
    simp only [keyOutcomes_cons, List.filterMap_eq_flatMap_toList, List.flatMap_cons, List.append_assoc,
      keySpent, spent]

/-- The four lists of the result, read off the outcomes. -/
theorem reconcileKeys_eq (obligations : List Obligation) (settlements : List Settlement) (tolerance : ℚ) :
    reconcileKeys obligations settlements tolerance =
      let outcomes := keyOutcomes settlements tolerance ∅ obligations
      { matched := outcomes.filterMap (fun entry => entry.2.matched? entry.1)
        exceptions := outcomes.filterMap (fun entry => entry.2.exception? entry.1)
        unmatchedObligations := outcomes.filterMap (fun entry => entry.2.leftover? entry.1)
        unmatchedSettlements := live (keySpent settlements ∅ obligations) settlements } := by
  simp only [reconcileKeys, foldl_keyMatchStep, List.nil_append]

/-- The exceptions are those of the turns. -/
theorem mem_keyExceptions {obligations : List Obligation} {settlements : List Settlement} {tolerance : ℚ}
    {exception : ExceptionRecord} :
    exception ∈ (reconcileKeys obligations settlements tolerance).exceptions ↔
      ∃ prior obligation later, obligations = prior ++ obligation :: later ∧
        (KeyOutcome.ofTurn tolerance obligation (candidates (indexSettlements settlements)
          (keySpent settlements ∅ prior) obligation)).exception? obligation = some exception := by
  simp only [reconcileKeys_eq, List.mem_filterMap, mem_keyOutcomes]
  constructor
  · rintro ⟨entry, ⟨prior, later, split, outcome⟩, raised⟩
    exact ⟨prior, entry.1, later, split, outcome ▸ raised⟩
  · rintro ⟨prior, obligation, later, split, raised⟩
    exact ⟨(obligation, _), ⟨prior, later, split, rfl⟩, raised⟩

theorem amountStatus_matched_iff {expected actual : Money} {tolerance : ℚ} :
    amountStatus expected actual tolerance = .matched ↔ |actual.rupees - expected.rupees| ≤ tolerance := by
  simp only [amountStatus]
  split_ifs <;> simp_all

theorem amountStatus_short_iff {expected actual : Money} {tolerance : ℚ} (nonneg : 0 ≤ tolerance) :
    amountStatus expected actual tolerance = .partiallyMatched ↔
      actual.rupees < expected.rupees - tolerance := by
  simp only [amountStatus]
  split_ifs with close short
  · simp only [false_iff, not_lt]
    linarith [neg_le_of_abs_le close]
  · simp only [true_iff]
    rw [abs_of_neg short] at close
    linarith
  · simp only [false_iff, not_lt]
    linarith

theorem amountStatus_excess_iff {expected actual : Money} {tolerance : ℚ} (nonneg : 0 ≤ tolerance) :
    amountStatus expected actual tolerance = .excess ↔ expected.rupees + tolerance < actual.rupees := by
  simp only [amountStatus]
  split_ifs with close short
  · simp only [false_iff, not_lt]
    linarith [le_of_abs_le close]
  · simp only [false_iff, not_lt]
    linarith
  · simp only [true_iff]
    rw [abs_of_nonneg (not_lt.mp short)] at close
    linarith

/-- Comparing amounts never yields one of the other two statuses. -/
theorem amountStatus_cases (expected actual : Money) (tolerance : ℚ) :
    amountStatus expected actual tolerance = .matched ∨
      amountStatus expected actual tolerance = .partiallyMatched ∨
        amountStatus expected actual tolerance = .excess := by
  simp only [amountStatus]
  split_ifs <;> simp

/-- The reason recorded for one consumed settlement, when its amount does not match. -/
def singleReason (obligation : Obligation) (settlement : Settlement) (status : ObligationStatus) :
    Option ExceptionReason :=
  ((KeyOutcome.single settlement status).exception? obligation).map ExceptionRecord.reason

theorem singleReason_short_iff (obligation : Obligation) (settlement : Settlement)
    (status : ObligationStatus) :
    singleReason obligation settlement status = some .amountShort ↔ status = .partiallyMatched := by
  cases status <;> simp [singleReason, KeyOutcome.exception?, amountException, amountReason]

theorem singleReason_excess_iff (obligation : Obligation) (settlement : Settlement)
    {expected actual : Money} {tolerance : ℚ} :
    singleReason obligation settlement (amountStatus expected actual tolerance) = some .amountExcess ↔
      amountStatus expected actual tolerance = .excess := by
  rcases amountStatus_cases expected actual tolerance with status | status | status <;>
    simp [status, singleReason, KeyOutcome.exception?, amountException, amountReason]

/-! ## Soundness and exclusivity -/

/-- What an outcome promises about the settlements it consumed. -/
def KeyOutcome.Valid (settlements : List Settlement) (tolerance : ℚ) (obligation : Obligation) :
    KeyOutcome → Prop
  | .single settlement status =>
    settlement ∈ settlements ∧ Satisfies obligation settlement ∧
      ((single settlement status).matched? obligation = some ⟨obligation, settlement⟩ ↔
        |settlement.amount.rupees - obligation.expectedAmount.rupees| ≤ tolerance) ∧
      (singleReason obligation settlement status = some .amountShort ↔
        settlement.amount.rupees < obligation.expectedAmount.rupees - tolerance) ∧
      (singleReason obligation settlement status = some .amountExcess ↔
        obligation.expectedAmount.rupees + tolerance < settlement.amount.rupees)
  | .duplicate first rest =>
    rest ≠ [] ∧ (first :: rest).Sublist settlements ∧ ∀ row ∈ first :: rest, Satisfies obligation row
  | .unmatched => True

/-- A complete account of a key-matching result: one outcome for each obligation, from which all
four lists are read off, and no settlement id in two outcomes. -/
structure KeyMatchAccount (obligations : List Obligation) (settlements : List Settlement)
    (tolerance : ℚ) (result : KeyMatchResult) (outcomes : List (Obligation × KeyOutcome)) : Prop where
  each : outcomes.map Prod.fst = obligations
  valid : ∀ entry ∈ outcomes, entry.2.Valid settlements tolerance entry.1
  matched : result.matched = outcomes.filterMap (fun entry => entry.2.matched? entry.1)
  exceptions : result.exceptions = outcomes.filterMap (fun entry => entry.2.exception? entry.1)
  unmatched : result.unmatchedObligations = outcomes.filterMap (fun entry => entry.2.leftover? entry.1)
  lengths : result.matched.length + result.exceptions.length + result.unmatchedObligations.length =
    obligations.length
  inOrder : result.unmatchedObligations.Sublist obligations
  exclusive : outcomes.Pairwise fun first second =>
    ∀ row ∈ first.2.rows, ∀ other ∈ second.2.rows, row.settlementId ≠ other.settlementId
  leftover : result.unmatchedSettlements = settlements.filter (fun settlement =>
    decide (∀ entry ∈ outcomes, ∀ row ∈ entry.2.rows, row.settlementId ≠ settlement.settlementId))

theorem ofTurn_valid {settlements : List Settlement} {tolerance : ℚ} (nonneg : 0 ≤ tolerance)
    {obligation : Obligation} {picked : List Settlement} (sub : picked.Sublist settlements)
    (satisfied : ∀ row ∈ picked, Satisfies obligation row) :
    (KeyOutcome.ofTurn tolerance obligation picked).Valid settlements tolerance obligation := by
  match picked with
  | [] => trivial
  | [settlement] =>
    have self := List.mem_singleton_self settlement
    refine ⟨sub.subset self, satisfied _ self, ?_, ?_, ?_⟩
    · rw [← amountStatus_matched_iff, KeyOutcome.matched?]
      split_ifs with same
      · exact iff_of_true rfl same
      · exact iff_of_false (by simp) same
    · exact (singleReason_short_iff _ _ _).trans (amountStatus_short_iff nonneg)
    · exact (singleReason_excess_iff _ _).trans (amountStatus_excess_iff nonneg)
  | first :: second :: rest => exact ⟨List.cons_ne_nil _ _, sub, satisfied⟩

theorem keyOutcomes_valid {settlements : List Settlement} {tolerance : ℚ} (nonneg : 0 ≤ tolerance)
    (consumed : Finset String) (obligations : List Obligation) :
    ∀ entry ∈ keyOutcomes settlements tolerance consumed obligations,
      entry.2.Valid settlements tolerance entry.1 := by
  intro entry member
  obtain ⟨prior, later, -, decided⟩ := mem_keyOutcomes.mp member
  rw [decided]
  refine ofTurn_valid nonneg ?_ fun row present => (mem_candidates present).2.2
  obtain ⟨wanted, selected⟩ := candidates_select settlements (keySpent settlements consumed prior) entry.1
  rw [selected]
  exact List.filter_sublist

theorem lengths_of_outcomes (outcomes : List (Obligation × KeyOutcome)) :
    (outcomes.filterMap (fun entry => entry.2.matched? entry.1)).length +
      (outcomes.filterMap (fun entry => entry.2.exception? entry.1)).length +
      (outcomes.filterMap (fun entry => entry.2.leftover? entry.1)).length = outcomes.length := by
  have length_cons {β : Type} (f : Obligation × KeyOutcome → Option β) (entry : Obligation × KeyOutcome)
      (rest : List (Obligation × KeyOutcome)) :
      ((entry :: rest).filterMap f).length = (f entry).toList.length + (rest.filterMap f).length := by
    cases value : f entry <;> simp [value, Nat.add_comm]
  induction outcomes with
  | nil => rfl
  | cons entry rest ih =>
    have one := entry.2.exactly_one entry.1
    rw [length_cons, length_cons, length_cons, List.length_cons]
    omega

theorem leftovers_sublist (outcomes : List (Obligation × KeyOutcome)) :
    (outcomes.filterMap (fun entry => entry.2.leftover? entry.1)).Sublist (outcomes.map Prod.fst) := by
  induction outcomes with
  | nil => exact List.Sublist.refl _
  | cons entry rest ih =>
    rcases entry with ⟨obligation, outcome⟩
    cases outcome with
    | single settlement status => exact ih.cons obligation
    | duplicate first others => exact ih.cons obligation
    | unmatched => exact ih.cons_cons obligation

theorem mem_keySpent {settlements : List Settlement} {tolerance : ℚ} {obligations : List Obligation}
    {settlementId : String} :
    settlementId ∈ keySpent settlements ∅ obligations ↔
      ∃ entry ∈ keyOutcomes settlements tolerance ∅ obligations,
        ∃ row ∈ entry.2.rows, row.settlementId = settlementId := by
  rw [keySpent, mem_spent]
  simp only [Finset.notMem_empty, false_or, keyOutcomes, List.mem_map, keyTurns, mem_idents]
  constructor
  · rintro ⟨turn, member, row, present, same⟩
    exact ⟨_, ⟨turn, member, rfl⟩, row, by rw [KeyOutcome.rows_ofTurn]; exact present, same⟩
  · rintro ⟨-, ⟨turn, member, rfl⟩, row, present, same⟩
    exact ⟨turn, member, row, by rw [KeyOutcome.rows_ofTurn] at present; exact present, same⟩

/-- Every obligation gets exactly one outcome, no settlement id is used twice, and exactly the rows
with an unused settlement id are left over. -/
theorem reconcileKeys_account (obligations : List Obligation) (settlements : List Settlement)
    (tolerance : ℚ) (nonneg : 0 ≤ tolerance) :
    ∃ outcomes, KeyMatchAccount obligations settlements tolerance
      (reconcileKeys obligations settlements tolerance) outcomes := by
  have each := map_fst_keyOutcomes settlements tolerance ∅ obligations
  refine ⟨keyOutcomes settlements tolerance ∅ obligations, ?_⟩
  rw [reconcileKeys_eq]
  constructor
  · exact each
  · exact keyOutcomes_valid nonneg ∅ obligations
  · rfl
  · rfl
  · rfl
  · rw [lengths_of_outcomes, ← List.length_map, each]
  · have inOrder := leftovers_sublist (keyOutcomes settlements tolerance ∅ obligations)
    rwa [each] at inOrder
  · rw [keyOutcomes, List.pairwise_map]
    simp only [KeyOutcome.rows_ofTurn]
    exact turns_disjoint _ (candidates_fresh settlements) ∅ obligations
  · refine List.filter_congr fun settlement _ => decide_eq_decide.mpr ?_
    rw [mem_keySpent]
    push Not
    rfl

/-- Two rows of one payment, a missing one and a short one: the first row is found by its transaction
id, the repeated one falls back on the order and meets two settlements, and the short one falls back on
one. -/
theorem reconcileKeys_account_repeated :
    let obligations := [makeObligation "O1" "TXN1", makeObligation "O1" "TXN1", makeObligation "O2" "TXN2",
      makeObligation "O3" "TXN3"]
    let settlements := [makeSettlement "ST1" (some "O1") (some "TXN1"), makeSettlement "ST2" (some "O1"),
      makeSettlement "ST3" (some "O1"), makeSettlement "ST4" (some "O3") none ⟨40000⟩, makeSettlement "ST5"]
    let result := reconcileKeys obligations settlements 1
    result.matched.length = 1 ∧
      result.exceptions.map ExceptionRecord.reason = [.duplicateSettlement, .amountShort] ∧
      result.unmatchedObligations.map Obligation.orderId = ["O2"] ∧
      result.unmatchedSettlements.map Settlement.settlementId = ["ST5"] ∧
      ∃ outcomes, KeyMatchAccount obligations settlements 1 result outcomes := by
  intro obligations settlements result
  refine ⟨by decide +kernel, by decide +kernel, by decide +kernel, by decide +kernel, ?_⟩
  exact reconcileKeys_account obligations settlements 1 (by norm_num)

end ReconcileFlow
