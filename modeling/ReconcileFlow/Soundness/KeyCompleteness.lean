import ReconcileFlow.Soundness.LookupPriority

/-! # What key matching leaves, groups and detects

An obligation is left over when no row that satisfies it is unspent at its turn, and what is spent
stays spent, so no leftover settlement satisfies a leftover obligation (`reconcileKeys_maximal`).

The other two results are about the rule that several candidates are a duplicate. Obligations that
share an `(order_id, payment_type)` share their candidates as well, and the first of them takes every
row of the group (`splitSettled_iff`). Two payments of one obligation are put in one group only when
one lookup finds both of them (`doubleReported_iff`).
-/

namespace ReconcileFlow

open Allocation

/-- A transaction id, or an order id together with the payment type, that is not empty and that both
rows carry. -/
def SharesKey (obligation : Obligation) (settlement : Settlement) : Prop :=
  (∃ txn, txn ≠ "" ∧ obligation.gatewayTxnId = some txn ∧ settlement.gatewayTxnId = some txn) ∨
    obligation.orderId ≠ "" ∧ settlement.orderId = some obligation.orderId ∧
      settlement.paymentType = obligation.paymentType

theorem truthy_eq_some_iff {text : Option String} {value : String} :
    truthy text = some value ↔ value ≠ "" ∧ text = some value := by
  simp [truthy, Option.filter_eq_some_iff, and_comm]

theorem satisfiesByOrderType_iff {obligation : Obligation} {settlement : Settlement} :
    SatisfiesByOrderType obligation settlement ↔
      obligation.orderId ≠ "" ∧ settlement.orderId = some obligation.orderId ∧
        settlement.paymentType = obligation.paymentType := by
  simp only [SatisfiesByOrderType, orderTypeKey, Option.map_eq_some_iff, truthy_eq_some_iff,
    Prod.mk.injEq]
  constructor
  · rintro ⟨orderId, ⟨nonempty, named⟩, rfl, same⟩
    exact ⟨nonempty, named, same⟩
  · rintro ⟨nonempty, named, same⟩
    exact ⟨obligation.orderId, ⟨nonempty, named⟩, rfl, same⟩

/-- The keys that the loop looks up are the ones that are not empty. -/
theorem sharesKey_iff {obligation : Obligation} {settlement : Settlement} :
    SharesKey obligation settlement ↔ Satisfies obligation settlement := by
  refine or_congr ?_ satisfiesByOrderType_iff.symm
  rw [SatisfiesByTxn, Option.isSome_iff_exists]
  constructor
  · rintro ⟨txn, nonempty, own, other⟩
    have carried := truthy_eq_some_iff.mpr ⟨nonempty, own⟩
    exact ⟨⟨txn, carried⟩, (truthy_eq_some_iff.mpr ⟨nonempty, other⟩).trans carried.symm⟩
  · rintro ⟨⟨txn, carried⟩, same⟩
    obtain ⟨nonempty, own⟩ := truthy_eq_some_iff.mp carried
    exact ⟨txn, nonempty, own, (truthy_eq_some_iff.mp (same.trans carried)).2⟩

/-- An obligation with an unspent row that satisfies it has a candidate. -/
theorem candidates_ne_nil {settlements : List Settlement} {consumed : Finset String}
    {obligation : Obligation} {settlement : Settlement} (member : settlement ∈ settlements)
    (unspent : settlement.settlementId ∉ consumed) (satisfied : Satisfies obligation settlement) :
    candidates (indexSettlements settlements) consumed obligation ≠ [] := by
  intro nothing
  rcases satisfied with byTxn | byOrderType
  · have found := (mem_candidates_of_txn member unspent byTxn).2
    rw [nothing] at found
    cases found
  · have found : settlement ∈ fallbackCandidates (indexSettlements settlements) consumed obligation := by
      rw [fallbackCandidates_eq, mem_live, List.mem_filter]
      exact ⟨⟨member, decide_eq_true byOrderType⟩, unspent⟩
    rcases candidates_cases settlements consumed obligation with byTxn | ⟨-, fallback⟩
    · have empty := byTxn.symm.trans nothing
      rw [← candidates_of_empty empty, nothing] at found
      cases found
    · rw [← fallback, nothing] at found
      cases found

/-- An obligation that is left over had no candidate at its turn. -/
theorem mem_unmatchedObligations {obligations : List Obligation} {settlements : List Settlement}
    {tolerance : ℚ} {obligation : Obligation}
    (member : obligation ∈ (reconcileKeys obligations settlements tolerance).unmatchedObligations) :
    ∃ prior later, obligations = prior ++ obligation :: later ∧
      candidates (indexSettlements settlements) (keySpent settlements ∅ prior) obligation = [] := by
  rw [reconcileKeys_eq] at member
  obtain ⟨entry, listed, left⟩ := List.mem_filterMap.mp member
  obtain ⟨prior, later, split, outcome⟩ := mem_keyOutcomes.mp listed
  rw [outcome] at left
  cases found : candidates (indexSettlements settlements) (keySpent settlements ∅ prior) entry.1 with
  | nil =>
    obtain rfl : entry.1 = obligation := by simpa [found, KeyOutcome.ofTurn, KeyOutcome.leftover?] using left
    exact ⟨prior, later, split, found⟩
  | cons first rest =>
    cases rest <;> simp [found, KeyOutcome.ofTurn, KeyOutcome.leftover?] at left

/-- Whatever shares a key with a leftover obligation was spent when its turn came, and stays spent. -/
theorem reconcileKeys_maximal (obligations : List Obligation) (settlements : List Settlement)
    (tolerance : ℚ) :
    let result := reconcileKeys obligations settlements tolerance
    ∀ obligation ∈ result.unmatchedObligations, ∀ settlement ∈ result.unmatchedSettlements,
      ¬ SharesKey obligation settlement := by
  intro result obligation left settlement stray shared
  obtain ⟨prior, later, split, nothing⟩ := mem_unmatchedObligations left
  have unspent : settlement ∈ live (keySpent settlements ∅ obligations) settlements := by
    simpa only [result, reconcileKeys_eq] using stray
  obtain ⟨member, unspent⟩ := mem_live.mp unspent
  have before : settlement.settlementId ∉ keySpent settlements ∅ prior := by
    intro taken
    refine unspent ?_
    rw [split]
    exact spent_subset_append _ _ _ _ _ taken
  exact candidates_ne_nil member before (sharesKey_iff.mp shared) nothing

/-- The outcome at a position is decided by the obligations before it. -/
theorem keyOutcomes_at (settlements : List Settlement) (tolerance : ℚ) (prior : List Obligation)
    (obligation : Obligation) (later : List Obligation) :
    (keyOutcomes settlements tolerance ∅ (prior ++ obligation :: later))[prior.length]? =
      some (obligation, KeyOutcome.ofTurn tolerance obligation
        (candidates (indexSettlements settlements) (keySpent settlements ∅ prior) obligation)) := by
  have served := congrArg List.length (map_fst_keyOutcomes settlements tolerance ∅ prior)
  rw [List.length_map] at served
  have split : keyOutcomes settlements tolerance ∅ (prior ++ obligation :: later) =
      keyOutcomes settlements tolerance ∅ prior ++
        keyOutcomes settlements tolerance (keySpent settlements ∅ prior) (obligation :: later) := by
    simp only [keyOutcomes, keyTurns, turns_append, List.map_append, keySpent]
  rw [split, List.getElem?_append_right served.le, served, Nat.sub_self, keyOutcomes_cons,
    List.getElem?_cons_zero]

/-- A duplicate is reported for two candidates and more. -/
theorem duplicate_of_reason {tolerance : ℚ} {obligation : Obligation} {picked : List Settlement}
    {exception : ExceptionRecord}
    (raised : (KeyOutcome.ofTurn tolerance obligation picked).exception? obligation = some exception)
    (duplicate : exception.reason = .duplicateSettlement) :
    ∃ first second rest, picked = first :: second :: rest ∧
      exception = duplicateException obligation first (second :: rest) := by
  match picked with
  | [] => cases raised
  | [settlement] =>
    simp only [KeyOutcome.ofTurn, KeyOutcome.exception?, Option.ite_none_left_eq_some,
      Option.some.injEq] at raised
    rw [← raised.2, amountException] at duplicate
    revert duplicate
    cases amountStatus obligation.expectedAmount settlement.amount tolerance <;> simp [amountReason]
  | first :: second :: rest => exact ⟨first, second, rest, rfl, (Option.some.inj raised).symm⟩

/-- With distinct ids, a row is spent only by obligations that it satisfies. -/
theorem satisfied_of_spent {settlements : List Settlement}
    (distinct : (settlements.map Settlement.settlementId).Nodup) {obligations : List Obligation}
    {settlement : Settlement} (member : settlement ∈ settlements)
    (taken : settlement.settlementId ∈ keySpent settlements ∅ obligations) :
    ∃ obligation ∈ obligations, Satisfies obligation settlement := by
  rw [keySpent, mem_spent] at taken
  rcases taken with never | ⟨turn, inTurns, spends⟩
  · cases never
  · obtain ⟨prior, later, rfl, picked⟩ := (mem_turns_iff _ _).mp inTurns
    obtain ⟨row, present, same⟩ := mem_idents.mp spends
    rw [picked] at present
    obtain ⟨inRows, -, satisfied⟩ := mem_candidates present
    have equal := List.inj_on_of_nodup_map distinct inRows member same
    exact ⟨turn.1, List.mem_append_right _ List.mem_cons_self, equal ▸ satisfied⟩

/-! ## Split payments of one type -/

/-- The obligation is a part of the order with the payment type. -/
def IsPart (orderId : String) (paymentType : PaymentType) (obligation : Obligation) : Prop :=
  obligation.orderId = orderId ∧ obligation.paymentType = paymentType

instance (orderId : String) (paymentType : PaymentType) (obligation : Obligation) :
    Decidable (IsPart orderId paymentType obligation) :=
  inferInstanceAs (Decidable (_ ∧ _))

/-- The settlements that carry the pair. -/
def pairSettlements (settlements : List Settlement) (orderId : String) (paymentType : PaymentType) :
    List Settlement :=
  settlements.filter fun settlement =>
    decide (settlement.orderId = some orderId ∧ settlement.paymentType = paymentType)

/-- As many obligations as settlements carry the pair, and transaction ids play no part in it. -/
structure SplitPayments (obligations : List Obligation) (settlements : List Settlement)
    (orderId : String) (paymentType : PaymentType) : Prop where
  enough : (pairSettlements settlements orderId paymentType).length ≤
    (obligations.filter fun obligation => decide (IsPart orderId paymentType obligation)).length
  noTxn : ∀ settlement ∈ pairSettlements settlements orderId paymentType,
    truthy settlement.gatewayTxnId = none
  notByTxn : ∀ prior obligation later, obligations = prior ++ obligation :: later →
    IsPart orderId paymentType obligation →
      txnCandidates (indexSettlements settlements) (keySpent settlements ∅ prior) obligation = []

/-- No part is reported as a duplicate, and every settlement of the pair is given to a part of its
own, found at its place in the obligation list. -/
structure SplitSettled (obligations : List Obligation) (settlements : List Settlement) (tolerance : ℚ)
    (orderId : String) (paymentType : PaymentType) : Prop where
  noDuplicate : ∀ exception ∈ (reconcileKeys obligations settlements tolerance).exceptions,
    exception.reason = .duplicateSettlement →
      ¬ (exception.orderId = some orderId ∧ exception.paymentType = some paymentType)
  spread : ∃ place : Settlement → ℕ,
    (∀ settlement ∈ pairSettlements settlements orderId paymentType,
      ∃ obligation status, IsPart orderId paymentType obligation ∧
        (keyOutcomes settlements tolerance ∅ obligations)[place settlement]? =
          some (obligation, .single settlement status)) ∧
    ∀ settlement ∈ pairSettlements settlements orderId paymentType,
      ∀ other ∈ pairSettlements settlements orderId paymentType,
        place settlement = place other → settlement = other

theorem mem_pairSettlements {settlements : List Settlement} {orderId : String} {paymentType : PaymentType}
    {settlement : Settlement} :
    settlement ∈ pairSettlements settlements orderId paymentType ↔
      settlement ∈ settlements ∧ settlement.orderId = some orderId ∧
        settlement.paymentType = paymentType := by
  rw [pairSettlements, List.mem_filter, decide_eq_true_eq]

section Split

variable {obligations : List Obligation} {settlements : List Settlement} {orderId : String}
  {paymentType : PaymentType} (payments : SplitPayments obligations settlements orderId paymentType)
include payments

/-- A settlement of the pair satisfies parts of the order only. -/
theorem part_of_satisfies {obligation : Obligation} {settlement : Settlement}
    (member : settlement ∈ pairSettlements settlements orderId paymentType)
    (satisfied : Satisfies obligation settlement) :
    orderId ≠ "" ∧ IsPart orderId paymentType obligation := by
  have named := (mem_pairSettlements.mp member).2
  rcases sharesKey_iff.mpr satisfied with ⟨txn, nonempty, -, carried⟩ | ⟨nonempty, other, same⟩
  · have absent := payments.noTxn settlement member
    rw [truthy_eq_some_iff.mpr ⟨nonempty, carried⟩] at absent
    cases absent
  · have equal : orderId = obligation.orderId := Option.some.inj (named.1.symm.trans other)
    exact ⟨equal ▸ nonempty, equal.symm, same.symm.trans named.2⟩

/-- A part finds the settlements of the pair that are unspent. -/
theorem candidates_of_part (nonempty : orderId ≠ "") {prior later : List Obligation}
    {obligation : Obligation} (split : obligations = prior ++ obligation :: later)
    (part : IsPart orderId paymentType obligation) :
    candidates (indexSettlements settlements) (keySpent settlements ∅ prior) obligation =
      live (keySpent settlements ∅ prior) (pairSettlements settlements orderId paymentType) := by
  rw [candidates_of_empty (payments.notByTxn prior obligation later split part), fallbackCandidates_eq]
  congr 1
  refine List.filter_congr fun settlement _ => decide_eq_decide.mpr ?_
  rw [satisfiesByOrderType_iff, part.1, part.2, and_iff_right nonempty]

/-- A part finds no other settlements. -/
theorem candidates_sublist {prior later : List Obligation} {obligation : Obligation}
    (split : obligations = prior ++ obligation :: later) (part : IsPart orderId paymentType obligation) :
    (candidates (indexSettlements settlements) (keySpent settlements ∅ prior) obligation).Sublist
      (pairSettlements settlements orderId paymentType) := by
  rw [candidates_of_empty (payments.notByTxn prior obligation later split part), fallbackCandidates_eq]
  refine List.filter_sublist.trans (List.monotone_filter_right _ fun settlement found => ?_)
  obtain ⟨-, named⟩ := satisfiesByOrderType_iff.mp (of_decide_eq_true found)
  rw [part.1, part.2] at named
  exact decide_eq_true named

/-- The first part finds the whole group. -/
theorem candidates_of_first (distinct : (settlements.map Settlement.settlementId).Nodup)
    (nonempty : orderId ≠ "") {prior later : List Obligation} {obligation : Obligation}
    (split : obligations = prior ++ obligation :: later) (part : IsPart orderId paymentType obligation)
    (first : ∀ other ∈ prior, ¬ IsPart orderId paymentType other) :
    candidates (indexSettlements settlements) (keySpent settlements ∅ prior) obligation =
      pairSettlements settlements orderId paymentType := by
  rw [candidates_of_part payments nonempty split part, live, List.filter_eq_self]
  intro settlement member
  refine decide_eq_true fun taken => ?_
  obtain ⟨other, served, satisfied⟩ :=
    satisfied_of_spent distinct (mem_pairSettlements.mp member).1 taken
  exact first other served (part_of_satisfies payments member satisfied).2

omit payments in
theorem exists_first_part
    (some_part : 0 < (obligations.filter fun obligation => decide (IsPart orderId paymentType obligation)).length) :
    ∃ prior obligation later, obligations = prior ++ obligation :: later ∧
      IsPart orderId paymentType obligation ∧ ∀ other ∈ prior, ¬ IsPart orderId paymentType other := by
  obtain ⟨part, present⟩ := List.exists_mem_of_length_pos some_part
  obtain ⟨member, isPart⟩ := List.mem_filter.mp present
  have found : (obligations.find? fun obligation => decide (IsPart orderId paymentType obligation)).isSome :=
    List.find?_isSome.mpr ⟨part, member, isPart⟩
  obtain ⟨obligation, found⟩ := Option.isSome_iff_exists.mp found
  obtain ⟨isFirst, prior, later, split, before⟩ := List.find?_eq_some_iff_append.mp found
  exact ⟨prior, obligation, later, split, of_decide_eq_true isFirst, fun other served => by
    simpa using before other served⟩

/-- A settlement is given to an obligation that it satisfies, so the order has a name. -/
theorem orderId_ne_of_given {tolerance : ℚ} {obligation : Obligation} {settlement : Settlement}
    {status : ObligationStatus} (member : settlement ∈ pairSettlements settlements orderId paymentType)
    (given : (obligation, .single settlement status) ∈ keyOutcomes settlements tolerance ∅ obligations) :
    orderId ≠ "" := by
  obtain ⟨prior, later, -, decided⟩ := mem_keyOutcomes.mp given
  have rows := congrArg KeyOutcome.rows decided
  rw [KeyOutcome.rows_ofTurn] at rows
  have present : settlement ∈ candidates (indexSettlements settlements)
      (keySpent settlements ∅ prior) obligation := rows ▸ List.mem_singleton_self settlement
  exact (part_of_satisfies payments member (mem_candidates present).2.2).1

/-- Two settlements and more are reported as one duplicate, about the first part. -/
theorem group_reported (distinct : (settlements.map Settlement.settlementId).Nodup)
    (nonempty : orderId ≠ "") (tolerance : ℚ) {settlement second : Settlement} {others : List Settlement}
    (group : pairSettlements settlements orderId paymentType = settlement :: second :: others) :
    ∃ part, IsPart orderId paymentType part ∧ duplicateException part settlement (second :: others) ∈
      (reconcileKeys obligations settlements tolerance).exceptions := by
  have several := payments.enough
  rw [group] at several
  obtain ⟨prior, part, later, split, isPart, first⟩ :=
    exists_first_part (Nat.lt_of_lt_of_le (Nat.succ_pos _) several)
  refine ⟨part, isPart, mem_keyExceptions.mpr ⟨prior, part, later, split, ?_⟩⟩
  rw [candidates_of_first payments distinct nonempty split isPart first, group]
  rfl

/-- One settlement is given to the first part. -/
theorem single_given (distinct : (settlements.map Settlement.settlementId).Nodup)
    (nonempty : orderId ≠ "") (tolerance : ℚ) {settlement : Settlement}
    (group : pairSettlements settlements orderId paymentType = [settlement]) :
    ∃ (place : ℕ) (part : Obligation) (status : ObligationStatus), IsPart orderId paymentType part ∧
      (keyOutcomes settlements tolerance ∅ obligations)[place]? = some (part, .single settlement status) := by
  have enough := payments.enough
  rw [group] at enough
  obtain ⟨prior, part, later, split, isPart, first⟩ :=
    exists_first_part (Nat.lt_of_lt_of_le Nat.one_pos enough)
  have outcome := keyOutcomes_at settlements tolerance prior part later
  rw [← split, candidates_of_first payments distinct nonempty split isPart first, group] at outcome
  exact ⟨prior.length, part, _, isPart, outcome⟩

/-- The rule that several candidates are a duplicate is right for a group exactly when it has no two
settlements: the first part takes all of them. -/
theorem splitSettled_iff (distinct : (settlements.map Settlement.settlementId).Nodup) (tolerance : ℚ) :
    SplitSettled obligations settlements tolerance orderId paymentType ↔
      pairSettlements settlements orderId paymentType = [] ∨
        (pairSettlements settlements orderId paymentType).length = 1 ∧ orderId ≠ "" := by
  constructor
  · intro settled
    cases group : pairSettlements settlements orderId paymentType with
    | nil => exact Or.inl rfl
    | cons settlement others =>
      right
      have member : settlement ∈ pairSettlements settlements orderId paymentType := by simp [group]
      obtain ⟨place, given, -⟩ := settled.spread
      obtain ⟨obligation, status, -, outcome⟩ := given settlement member
      have nonempty := orderId_ne_of_given payments member (List.mem_of_getElem? outcome)
      refine ⟨?_, nonempty⟩
      cases others with
      | nil => rfl
      | cons second others =>
        obtain ⟨part, isPart, reported⟩ := group_reported payments distinct nonempty tolerance group
        exact (settled.noDuplicate _ reported rfl
          ⟨congrArg some isPart.1, congrArg some isPart.2⟩).elim
  · intro condition
    have atMostOne : (pairSettlements settlements orderId paymentType).length ≤ 1 := by
      rcases condition with none | one
      · simp [none]
      · exact one.1.le
    constructor
    · rintro exception raised duplicate ⟨ofOrder, ofType⟩
      obtain ⟨prior, part, later, split, raised⟩ := mem_keyExceptions.mp raised
      obtain ⟨first, second, rest, several, rfl⟩ := duplicate_of_reason raised duplicate
      have found := candidates_sublist payments split ⟨Option.some.inj ofOrder, Option.some.inj ofType⟩
      rw [several] at found
      have two := found.length_le.trans atMostOne
      simp at two
    · rcases condition with none | ⟨one, nonempty⟩
      · refine ⟨fun _ => 0, ?_, ?_⟩ <;> simp [none]
      · obtain ⟨settlement, group⟩ := List.length_eq_one_iff.mp one
        obtain ⟨place, part, status, isPart, outcome⟩ :=
          single_given payments distinct nonempty tolerance group
        rw [group]
        refine ⟨fun _ => place, fun given member => ?_, fun left inGroup right alsoInGroup _ => ?_⟩
        · rw [List.mem_singleton.mp member]
          exact ⟨part, status, isPart, outcome⟩
        · rw [List.mem_singleton.mp inGroup, List.mem_singleton.mp alsoInGroup]

end Split

/-- Obligations without transaction ids are not found by one. -/
theorem SplitPayments.of_no_txn {obligations : List Obligation} {settlements : List Settlement}
    {orderId : String} {paymentType : PaymentType}
    (enough : (pairSettlements settlements orderId paymentType).length ≤
      (obligations.filter fun obligation => decide (IsPart orderId paymentType obligation)).length)
    (noTxn : ∀ settlement ∈ pairSettlements settlements orderId paymentType,
      truthy settlement.gatewayTxnId = none)
    (unnamed : ∀ obligation ∈ obligations, truthy obligation.gatewayTxnId = none) :
    SplitPayments obligations settlements orderId paymentType where
  enough := enough
  noTxn := noTxn
  notByTxn := by
    rintro prior obligation later rfl -
    rw [txnCandidates, unnamed obligation (List.mem_append_right _ List.mem_cons_self)]

def cashSettlement (settlementId : String) : Settlement :=
  { makeSettlement settlementId (some "O1") with paymentType := .cash }

/-- A cash order in two parts, of which one was settled, and the same order with both parts settled: one
deposit is given to one part, two deposits are not. -/
theorem splitSettled_iff_parts :
    let parts := [makeObligation "O1" "" .cash, makeObligation "O1" "" .cash ⟨70000⟩]
    SplitSettled parts [cashSettlement "ST1"] 1 "O1" .cash ∧
      ¬ SplitSettled parts [cashSettlement "ST1", cashSettlement "ST2"] 1 "O1" .cash := by
  intro parts
  have one : SplitPayments parts [cashSettlement "ST1"] "O1" .cash :=
    .of_no_txn (by decide) (by decide) (by decide)
  have two : SplitPayments parts [cashSettlement "ST1", cashSettlement "ST2"] "O1" .cash :=
    .of_no_txn (by decide) (by decide) (by decide)
  rw [splitSettled_iff one (by decide), splitSettled_iff two (by decide)]
  decide

/-- An order paid in two cash parts of the expected amounts, each settled by its own deposit: the
deposits are reported as a duplicate of the first part. -/
theorem split_payments_duplicate :
    let obligations := [makeObligation "O1" "" .cash, makeObligation "O1" "" .cash ⟨70000⟩]
    let settlements := [cashSettlement "ST1", { cashSettlement "ST2" with amount := ⟨70000⟩ }]
    (settlements.map Settlement.settlementId).Nodup ∧
      SplitPayments obligations settlements "O1" .cash ∧
        ¬ SplitSettled obligations settlements 1 "O1" .cash := by
  refine ⟨by decide, SplitPayments.of_no_txn (by decide) (by decide) (by decide), fun settled => ?_⟩
  refine settled.noDuplicate (duplicateException (makeObligation "O1" "" .cash) (cashSettlement "ST1")
    [{ cashSettlement "ST2" with amount := ⟨70000⟩ }]) ?_ rfl ⟨rfl, rfl⟩
  exact mem_keyExceptions.mpr ⟨[], _, [makeObligation "O1" "" .cash ⟨70000⟩], rfl, by decide⟩

/-! ## Two payments of one obligation -/

/-- The obligation is reported as a duplicate whose group holds both settlements, and neither of them
is left over. -/
structure DoubleReported (obligations : List Obligation) (settlements : List Settlement) (tolerance : ℚ)
    (place : ℕ) (obligation : Obligation) (left right : Settlement) : Prop where
  grouped : ∃ first rest,
    (keyOutcomes settlements tolerance ∅ obligations)[place]? =
        some (obligation, .duplicate first rest) ∧
      duplicateException obligation first rest ∈
        (reconcileKeys obligations settlements tolerance).exceptions ∧
      left ∈ first :: rest ∧ right ∈ first :: rest
  leftUsed : left ∉ (reconcileKeys obligations settlements tolerance).unmatchedSettlements
  rightUsed : right ∉ (reconcileKeys obligations settlements tolerance).unmatchedSettlements

/-- One lookup finds both payments: by transaction id, or by order and type when none of the first
lookup's rows is left. -/
def OneLookup (settlements : List Settlement) (prior : List Obligation) (obligation : Obligation)
    (left right : Settlement) : Prop :=
  SatisfiesByTxn obligation left ∧ SatisfiesByTxn obligation right ∨
    (SatisfiesByOrderType obligation left ∧ SatisfiesByOrderType obligation right ∧
      txnCandidates (indexSettlements settlements) (keySpent settlements ∅ prior) obligation = [])

/-- What a turn consumes is not left over. -/
theorem not_unmatched_of_picked {prior later : List Obligation} {obligation : Obligation}
    {settlements : List Settlement} (tolerance : ℚ) {settlement : Settlement}
    (picked : settlement ∈ candidates (indexSettlements settlements) (keySpent settlements ∅ prior) obligation) :
    settlement ∉
      (reconcileKeys (prior ++ obligation :: later) settlements tolerance).unmatchedSettlements := by
  rw [reconcileKeys_eq]
  intro stray
  exact (mem_live.mp stray).2 (mem_spent_of_picked Settlement.settlementId _ picked)

section Double

variable {prior later : List Obligation} {obligation : Obligation} {settlements : List Settlement}
  {left right : Settlement}

/-- Rows of one lookup are candidates of the turn. -/
theorem OneLookup.picked (one : OneLookup settlements prior obligation left right)
    (inLeft : left ∈ settlements) (inRight : right ∈ settlements)
    (freshLeft : left.settlementId ∉ keySpent settlements ∅ prior)
    (freshRight : right.settlementId ∉ keySpent settlements ∅ prior) :
    left ∈ candidates (indexSettlements settlements) (keySpent settlements ∅ prior) obligation ∧
      right ∈ candidates (indexSettlements settlements) (keySpent settlements ∅ prior) obligation := by
  rcases one with ⟨ofLeft, ofRight⟩ | ⟨ofLeft, ofRight, empty⟩
  · exact ⟨(mem_candidates_of_txn inLeft freshLeft ofLeft).2,
      (mem_candidates_of_txn inRight freshRight ofRight).2⟩
  · rw [candidates_of_empty empty, fallbackCandidates_eq, mem_live, mem_live, List.mem_filter,
      List.mem_filter]
    exact ⟨⟨⟨inLeft, decide_eq_true ofLeft⟩, freshLeft⟩, ⟨inRight, decide_eq_true ofRight⟩, freshRight⟩

/-- Candidates of one turn were found by one lookup. -/
theorem OneLookup.of_picked
    (pickedLeft : left ∈ candidates (indexSettlements settlements) (keySpent settlements ∅ prior) obligation)
    (pickedRight : right ∈ candidates (indexSettlements settlements) (keySpent settlements ∅ prior) obligation) :
    OneLookup settlements prior obligation left right := by
  rcases candidates_cases settlements (keySpent settlements ∅ prior) obligation with
    byTxn | ⟨empty, fallback⟩
  · rw [byTxn, txnCandidates_eq, mem_live, List.mem_filter] at pickedLeft pickedRight
    exact Or.inl ⟨of_decide_eq_true pickedLeft.1.2, of_decide_eq_true pickedRight.1.2⟩
  · rw [fallback, fallbackCandidates_eq, mem_live, List.mem_filter] at pickedLeft pickedRight
    exact Or.inr ⟨of_decide_eq_true pickedLeft.1.2, of_decide_eq_true pickedRight.1.2, empty⟩

/-- Two payments that satisfy no other obligation are detected as a double settlement of this one
exactly when one lookup finds both: the fallback is not consulted for the second once the first lookup
has found the other. -/
theorem doubleReported_iff (distinct : (settlements.map Settlement.settlementId).Nodup) (tolerance : ℚ)
    (inLeft : left ∈ settlements) (inRight : right ∈ settlements) (different : left ≠ right)
    (alone : ∀ other ∈ prior ++ later, ¬ Satisfies other left ∧ ¬ Satisfies other right) :
    DoubleReported (prior ++ obligation :: later) settlements tolerance prior.length obligation left right ↔
      OneLookup settlements prior obligation left right := by
  have outcome := keyOutcomes_at settlements tolerance prior obligation later
  constructor
  · intro reported
    obtain ⟨first, rest, grouped, -, pickedLeft, pickedRight⟩ := reported.grouped
    have decided := congrArg KeyOutcome.rows
      (Prod.ext_iff.mp (Option.some.inj (outcome.symm.trans grouped))).2
    rw [KeyOutcome.rows_ofTurn] at decided
    refine OneLookup.of_picked ?_ ?_ <;> rw [decided]
    · exact pickedLeft
    · exact pickedRight
  · intro one
    have freshLeft : left.settlementId ∉ keySpent settlements ∅ prior := by
      intro taken
      obtain ⟨other, served, satisfied⟩ := satisfied_of_spent distinct inLeft taken
      exact (alone other (List.mem_append_left _ served)).1 satisfied
    have freshRight : right.settlementId ∉ keySpent settlements ∅ prior := by
      intro taken
      obtain ⟨other, served, satisfied⟩ := satisfied_of_spent distinct inRight taken
      exact (alone other (List.mem_append_left _ served)).2 satisfied
    obtain ⟨pickedLeft, pickedRight⟩ := one.picked inLeft inRight freshLeft freshRight
    refine ⟨?_, not_unmatched_of_picked tolerance pickedLeft, not_unmatched_of_picked tolerance pickedRight⟩
    match found : candidates (indexSettlements settlements) (keySpent settlements ∅ prior) obligation with
    | [] =>
      rw [found] at pickedLeft
      cases pickedLeft
    | [only] =>
      rw [found, List.mem_singleton] at pickedLeft pickedRight
      exact (different (pickedLeft.trans pickedRight.symm)).elim
    | first :: second :: rest =>
      rw [found] at outcome pickedLeft pickedRight
      refine ⟨first, second :: rest, outcome, ?_, pickedLeft, pickedRight⟩
      refine mem_keyExceptions.mpr ⟨prior, obligation, later, rfl, ?_⟩
      rw [found]
      rfl

end Double

/-- Both payments of a card order carry its transaction id. -/
theorem doubleReported_iff_same_txn :
    DoubleReported ([] ++ makeObligation "O1" "TXN1" :: [])
        [makeSettlement "ST1" none (some "TXN1"), makeSettlement "ST2" none (some "TXN1")] 1 0
        (makeObligation "O1" "TXN1") (makeSettlement "ST1" none (some "TXN1"))
        (makeSettlement "ST2" none (some "TXN1")) ↔
      OneLookup [makeSettlement "ST1" none (some "TXN1"), makeSettlement "ST2" none (some "TXN1")] []
        (makeObligation "O1" "TXN1") (makeSettlement "ST1" none (some "TXN1"))
        (makeSettlement "ST2" none (some "TXN1")) :=
  doubleReported_iff (by decide) 1 (by decide) (by decide) (by decide) (by decide)

/-- A card order paid once with its transaction id and once more with its order id only: the second
payment is reported as a settlement without an order. -/
theorem mixed_keys_not_double :
    let obligation := makeObligation "O1" "TXN1"
    let byTxn := makeSettlement "ST1" none (some "TXN1")
    let byOrder := makeSettlement "ST2" (some "O1") none
    ([byTxn, byOrder].map Settlement.settlementId).Nodup ∧ byTxn ≠ byOrder ∧
      Satisfies obligation byTxn ∧ Satisfies obligation byOrder ∧
      ¬ DoubleReported [obligation] [byTxn, byOrder] 1 0 obligation byTxn byOrder ∧
      byOrder ∈ (reconcileKeys [obligation] [byTxn, byOrder] 1).unmatchedSettlements := by
  have stray : makeSettlement "ST2" (some "O1") none ∈
      (reconcileKeys [makeObligation "O1" "TXN1"] [makeSettlement "ST1" none (some "TXN1"),
        makeSettlement "ST2" (some "O1") none] 1).unmatchedSettlements := by decide +kernel
  exact ⟨by decide, by decide, by decide, by decide, fun reported => reported.rightUsed stray, stray⟩

end ReconcileFlow
