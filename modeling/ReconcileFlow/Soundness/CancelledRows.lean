import ReconcileFlow.Soundness.KeyCompleteness
import ReconcileFlow.Soundness.ObligationGroups
import ReconcileFlow.Soundness.SettlementAccounting

/-! # Files with cancelled rows

A cancelled row raises no obligation, but it can be the row by which its order is first seen. The
obligations of each order are the same without the cancelled rows; the orders may come in another
order, and settlements go to whoever is served first.

The two results have the same pairs and exceptions when every obligation finds the same settlements at its
turn, and only then: a turn that finds settlements shows in the result with its order, their number and
the first of them. Every obligation does so exactly when none looks at a settlement taken by an order that
only cancelled rows put in front of its own (`cancelled_ignored_iff`).
-/

namespace ReconcileFlow

open Allocation

/-- What a file reconciles to, its order sums included. -/
def fileResult (config : AppConfig) (asOfDate : Date) (settlements : List Settlement) (orders : List Order) :
    KeyMatchResult :=
  let built := buildObligations orders config.reconciliation.amountTolerance
  let result := reconcile built.obligations settlements config asOfDate
  { result with exceptions := built.orderSumExceptions ++ result.exceptions }

/-- Without the cancelled rows the file gives the same pairs and the same exceptions. -/
structure CancelledIgnored (config : AppConfig) (asOfDate : Date) (settlements : List Settlement)
    (orders : List Order) : Prop where
  matched : (fileResult config asOfDate settlements (placed orders)).matched.Perm
    (fileResult config asOfDate settlements orders).matched
  exceptions : (fileResult config asOfDate settlements (placed orders)).exceptions.Perm
    (fileResult config asOfDate settlements orders).exceptions

/-- The turns of the matching loop for the obligations of one order: each obligation with the settlements
it finds unconsumed. -/
def orderTurns (settlements : List Settlement) (obligations : List Obligation) (orderId : String) :
    List (Obligation × List Settlement) :=
  groupTurns Obligation.orderId orderId (keyTurns settlements ∅ obligations)

/-- Every obligation finds the same settlements in both lists. -/
def SameTurns (settlements : List Settlement) (first second : List Obligation) : Prop :=
  ∀ orderId, orderTurns settlements first orderId = orderTurns settlements second orderId

/-- The obligations of every order are the same, in the same order. -/
def SameOrders (first second : List Obligation) : Prop :=
  ∀ orderId, first.filter (fun obligation => decide (obligation.orderId = orderId)) =
    second.filter fun obligation => decide (obligation.orderId = orderId)

/-- Without the cancelled rows the first order comes before the other. -/
def ComesFirst (orders : List Order) (orderId other : String) : Prop :=
  (orderIds (placed orders)).idxOf orderId < (orderIds (placed orders)).idxOf other

/-- The obligation looks at the row: it has the obligation's transaction id or, when no unconsumed row
has that, its `(order_id, payment_type)`. -/
def LooksAt (settlements : List Settlement) (consumed : Finset String) (obligation : Obligation)
    (row : Settlement) : Prop :=
  row ∈ settlements ∧ (SatisfiesByTxn obligation row ∨
    txnCandidates (indexSettlements settlements) consumed obligation = [] ∧
      SatisfiesByOrderType obligation row)

/-- No obligation looks at a row whose id was consumed by an order that comes after its own without the
cancelled rows. -/
def NoneTakenAhead (settlements : List Settlement) (orders : List Order) (tolerance : ℚ) : Prop :=
  ∀ prior obligation later,
    (buildObligations orders tolerance).obligations = prior ++ obligation :: later →
    ∀ turn ∈ keyTurns settlements ∅ prior, ComesFirst orders obligation.orderId turn.1.orderId →
    ∀ row, LooksAt settlements (keySpent settlements ∅ prior) obligation row →
      ∀ taken ∈ turn.2, taken.settlementId ≠ row.settlementId

theorem placedOf_placed (orders : List Order) (orderId : String) :
    placedOf (placed orders) orderId = placedOf orders orderId := by
  simp only [placedOf, placed, List.filter_filter, Bool.and_self]

theorem sameOrders_placed (orders : List Order) (tolerance : ℚ) :
    SameOrders (buildObligations (placed orders) tolerance).obligations
      (buildObligations orders tolerance).obligations := by
  intro orderId
  rw [obligations_restricted, obligations_restricted, obligationsOf, obligationsOf, placedOf_placed]

/-! ## One obligation in two runs -/

section

variable {settlements : List Settlement} {used used' : Finset String} {obligation : Obligation}
  {row : Settlement}

/-- The candidates are the unconsumed rows that the obligation looks at. -/
theorem mem_candidates_iff : row ∈ candidates (indexSettlements settlements) used obligation ↔
    LooksAt settlements used obligation row ∧ row.settlementId ∉ used := by
  constructor
  · intro found
    refine ⟨⟨(mem_candidates found).1, ?_⟩, (mem_candidates found).2.1⟩
    rcases candidates_cases settlements used obligation with byTxn | ⟨empty, fallback⟩
    · rw [byTxn, txnCandidates_eq, mem_live, List.mem_filter, decide_eq_true_eq] at found
      exact .inl found.1.2
    · rw [fallback, fallbackCandidates_eq, mem_live, List.mem_filter, decide_eq_true_eq] at found
      exact .inr ⟨empty, found.1.2⟩
  · rintro ⟨⟨member, byTxn | ⟨empty, byOrderType⟩⟩, fresh⟩
    · exact (mem_candidates_of_txn member fresh byTxn).2
    · rw [candidates_of_empty empty, fallbackCandidates_eq, mem_live, List.mem_filter, decide_eq_true_eq]
      exact ⟨⟨member, byOrderType⟩, fresh⟩

/-- If everything found under the second set is unconsumed in the first, then the lookup by transaction id
is empty under the second set where it is under the first. -/
theorem txnCandidates_empty
    (unspent : ∀ row ∈ candidates (indexSettlements settlements) used' obligation, row.settlementId ∉ used)
    (empty : txnCandidates (indexSettlements settlements) used obligation = []) :
    txnCandidates (indexSettlements settlements) used' obligation = [] := by
  refine List.eq_nil_iff_forall_not_mem.mpr fun row member => ?_
  rw [txnCandidates_eq, mem_live, List.mem_filter, decide_eq_true_eq] at member
  obtain ⟨⟨present, byTxn⟩, unused⟩ := member
  have found := (mem_candidates_of_txn present unused byTxn).2
  have listed := (mem_candidates_of_txn present (unspent row found) byTxn).1
  rw [empty] at listed
  cases listed

/-- Where the candidates are the same, the obligation looks at the same rows. -/
theorem LooksAt.of_candidates_eq (looks : LooksAt settlements used' obligation row)
    (same : candidates (indexSettlements settlements) used obligation =
      candidates (indexSettlements settlements) used' obligation) : LooksAt settlements used obligation row := by
  refine looks.imp_right (Or.imp_right fun ⟨empty, byOrderType⟩ => ⟨?_, byOrderType⟩)
  exact txnCandidates_empty (same ▸ candidates_fresh settlements used' obligation) empty

/-- Ids that are consumed in one run only do not change the candidates if the obligation does not look at
their rows. -/
theorem candidates_eq_of_looksAt
    (unspent : ∀ row ∈ candidates (indexSettlements settlements) used' obligation, row.settlementId ∉ used)
    (kept : ∀ row, LooksAt settlements used' obligation row → row.settlementId ∈ used' →
      row.settlementId ∈ used) :
    candidates (indexSettlements settlements) used obligation =
      candidates (indexSettlements settlements) used' obligation := by
  have agree {row : Settlement} (looks : LooksAt settlements used' obligation row) :
      row.settlementId ∈ used ↔ row.settlementId ∈ used' := by
    refine ⟨fun spent => ?_, kept row looks⟩
    by_contra fresh
    exact unspent row (mem_candidates_iff.mpr ⟨looks, fresh⟩) spent
  have byTxn : txnCandidates (indexSettlements settlements) used obligation =
      txnCandidates (indexSettlements settlements) used' obligation := by
    rw [txnCandidates_eq, txnCandidates_eq]
    refine List.filter_congr fun row member => decide_eq_decide.mpr (not_congr (agree ?_))
    obtain ⟨present, found⟩ := List.mem_filter.mp member
    exact ⟨present, .inl (of_decide_eq_true found)⟩
  unfold candidates
  rw [byTxn]
  split
  · next empty =>
    rw [fallbackCandidates_eq, fallbackCandidates_eq]
    refine List.filter_congr fun row member => decide_eq_decide.mpr (not_congr (agree ?_))
    obtain ⟨present, found⟩ := List.mem_filter.mp member
    exact ⟨present, .inr ⟨empty, of_decide_eq_true found⟩⟩
  · rfl

/-- An obligation that is served in two runs and finds, in the second, only rows unconsumed in the first:
once a row it finds in the first is unconsumed in the second, it uses the same lookup in both. -/
theorem candidates_same_lookup
    (unspent : ∀ other ∈ candidates (indexSettlements settlements) used' obligation, other.settlementId ∉ used)
    (found : row ∈ candidates (indexSettlements settlements) used obligation)
    (here : row.settlementId ∉ used') :
    candidates (indexSettlements settlements) used' obligation =
      live used' (candidates (indexSettlements settlements) used obligation) := by
  have restrict (wanted : Settlement → Bool)
      (rows : candidates (indexSettlements settlements) used obligation = live used (settlements.filter wanted))
      (rows' : candidates (indexSettlements settlements) used' obligation =
        live used' (settlements.filter wanted)) :
      candidates (indexSettlements settlements) used' obligation =
        live used' (candidates (indexSettlements settlements) used obligation) := by
    have both : live used (candidates (indexSettlements settlements) used' obligation) =
        candidates (indexSettlements settlements) used' obligation :=
      List.filter_eq_self.mpr fun other member => decide_eq_true (unspent other member)
    rw [← both, rows, rows']
    exact List.filter_comm _ _ _
  rcases candidates_cases settlements used obligation with byTxn | ⟨empty, fallback⟩
  · rw [byTxn, txnCandidates_eq, mem_live] at found
    rcases candidates_cases settlements used' obligation with byTxn' | ⟨empty', -⟩
    · exact restrict _ (byTxn.trans (txnCandidates_eq _ _ _)) (byTxn'.trans (txnCandidates_eq _ _ _))
    · have listed : row ∈ txnCandidates (indexSettlements settlements) used' obligation := by
        rw [txnCandidates_eq, mem_live]
        exact ⟨found.1, here⟩
      rw [empty'] at listed
      cases listed
  · exact restrict _ (fallback.trans (fallbackCandidates_eq _ _ _))
      ((candidates_of_empty (txnCandidates_empty unspent empty)).trans (fallbackCandidates_eq _ _ _))

end

section

variable {settlements : List Settlement} {first second : List Obligation} (same : SameTurns settlements first second)

include same

theorem SameTurns.turns_perm : (keyTurns settlements ∅ first).Perm (keyTurns settlements ∅ second) :=
  perm_of_parts (fun turn : Obligation × List Settlement => turn.1.orderId) same

theorem SameTurns.outcomes (tolerance : ℚ) : (keyOutcomes settlements tolerance ∅ first).Perm
    (keyOutcomes settlements tolerance ∅ second) :=
  same.turns_perm.map _

/-- The same settlement ids are consumed. -/
theorem SameTurns.spent : keySpent settlements ∅ first = keySpent settlements ∅ second := by
  ext id
  unfold keySpent
  rw [mem_spent, mem_spent]
  refine or_congr_right (exists_congr fun turn => and_congr_left fun _ => ?_)
  exact same.turns_perm.mem_iff

theorem SameTurns.reconcile_perm (config : AppConfig) (asOfDate : Date) :
    (reconcile first settlements config asOfDate).matched.Perm
        (reconcile second settlements config asOfDate).matched ∧
      (reconcile first settlements config asOfDate).exceptions.Perm
        (reconcile second settlements config asOfDate).exceptions := by
  have outcomes := same.outcomes config.reconciliation.amountTolerance
  unfold reconcile classifyLeftovers
  rw [reconcileKeys_eq, reconcileKeys_eq]
  dsimp only
  rw [same.spent]
  refine ⟨outcomes.filterMap _, (outcomes.filterMap _).append (List.Perm.append_right _ ?_)⟩
  exact (outcomes.filterMap _).map _

end

/-- The order-sum exceptions of one order. -/
theorem orderSums_restricted (orders : List Order) (tolerance : ℚ) (orderId : String) :
    (buildObligations orders tolerance).orderSumExceptions.filter
        (fun exception => decide (exception.orderId.getD "" = orderId)) =
      (groupException tolerance orderId (placedOf orders orderId)).toList := by
  rw [orderSumExceptions_eq, List.filterMap_eq_flatMap_toList]
  refine filter_flatMap_orders orders (fun orderId => (groupException tolerance orderId
    (placedOf orders orderId)).toList) (fun exception => exception.orderId.getD "") ?_ orderId ?_
  · intro own exception member
    rw [groupException_orderId (Option.mem_toList.mp member)]
    rfl
  · intro absent
    rw [placedOf_eq_nil absent]
    rfl

/-- The order sums of a file are those of its placed rows. -/
theorem orderSums_placed_perm (orders : List Order) (tolerance : ℚ) :
    (buildObligations (placed orders) tolerance).orderSumExceptions.Perm
      (buildObligations orders tolerance).orderSumExceptions := by
  refine perm_of_parts (fun exception => exception.orderId.getD "") fun orderId => ?_
  rw [orderSums_restricted, orderSums_restricted, placedOf_placed]

/-- Where every obligation finds the same settlements, the cancelled rows do not show. -/
theorem CancelledIgnored.of_sameTurns {config : AppConfig} {settlements : List Settlement}
    {orders : List Order} (asOfDate : Date) (same : SameTurns settlements
      (buildObligations (placed orders) config.reconciliation.amountTolerance).obligations
      (buildObligations orders config.reconciliation.amountTolerance).obligations) :
    CancelledIgnored config asOfDate settlements orders where
  matched := (same.reconcile_perm config asOfDate).1
  exceptions := (orderSums_placed_perm orders _).append (same.reconcile_perm config asOfDate).2

/-- What the exception of a turn shows of it. -/
structure ShowsTurn (turn : Obligation × List Settlement) (exception : ExceptionRecord) : Prop where
  orderId : exception.orderId = some turn.1.orderId
  quoted : exception.settlementId = turn.2.head?.map Settlement.settlementId
  holds : HoldsRows exception turn.2

/-- Two turns of one order with equally many settlements and the same first one. -/
structure SameHand (turn other : Obligation × List Settlement) : Prop where
  orderId : turn.1.orderId = other.1.orderId
  leader : turn.2.head?.map Settlement.settlementId = other.2.head?.map Settlement.settlementId
  count : turn.2.length = other.2.length

theorem ShowsTurn.sameHand {turn other : Obligation × List Settlement} {exception : ExceptionRecord}
    (shown : ShowsTurn turn exception) (shown' : ShowsTurn other exception) : SameHand turn other where
  orderId := Option.some.inj (shown.orderId.symm.trans shown'.orderId)
  leader := shown.quoted.symm.trans shown'.quoted
  count := HoldsRows.length_eq exception _ _ shown.holds shown'.holds

theorem showsTurn_of_raised {tolerance : ℚ} {turn : Obligation × List Settlement} {exception : ExceptionRecord}
    (raised : (KeyOutcome.ofTurn tolerance turn.1 turn.2).exception? turn.1 = some exception) :
    ShowsTurn turn exception := by
  obtain ⟨obligation, picked⟩ := turn
  refine ⟨?_, ?_, KeyOutcome.exception_holds tolerance raised⟩
  all_goals
    match picked with
    | [] => cases raised
    | [settlement] =>
      dsimp only [KeyOutcome.ofTurn, KeyOutcome.exception?] at raised
      split_ifs at raised
      cases raised
      rfl
    | first :: second :: rest =>
      cases raised
      rfl

theorem turn_of_matched {tolerance : ℚ} {turn : Obligation × List Settlement} {pair : MatchedPair}
    (given : (KeyOutcome.ofTurn tolerance turn.1 turn.2).matched? turn.1 = some pair) :
    turn = (pair.obligation, [pair.settlement]) := by
  obtain ⟨obligation, picked⟩ := turn
  match picked with
  | [] => cases given
  | [settlement] =>
    dsimp only [KeyOutcome.ofTurn, KeyOutcome.matched?] at given
    split_ifs at given
    cases given
    rfl
  | first :: second :: rest => cases given

theorem mem_matched_iff {obligations : List Obligation} {settlements : List Settlement} {tolerance : ℚ}
    {pair : MatchedPair} : pair ∈ (reconcileKeys obligations settlements tolerance).matched ↔
      ∃ turn ∈ keyTurns settlements ∅ obligations,
        (KeyOutcome.ofTurn tolerance turn.1 turn.2).matched? turn.1 = some pair := by
  rw [reconcileKeys_eq]
  dsimp only
  rw [keyOutcomes, List.filterMap_map]
  exact List.mem_filterMap

theorem mem_exceptions_iff {obligations : List Obligation} {settlements : List Settlement} {tolerance : ℚ}
    {exception : ExceptionRecord} : exception ∈ (reconcileKeys obligations settlements tolerance).exceptions ↔
      ∃ turn ∈ keyTurns settlements ∅ obligations,
        (KeyOutcome.ofTurn tolerance turn.1 turn.2).exception? turn.1 = some exception := by
  rw [reconcileKeys_eq]
  dsimp only
  rw [keyOutcomes, List.filterMap_map]
  exact List.mem_filterMap

/-- A turn that finds settlements is matched or raises an exception. -/
theorem matched_or_raised {turn : Obligation × List Settlement} (found : turn.2 ≠ []) (tolerance : ℚ) :
    (∃ pair, (KeyOutcome.ofTurn tolerance turn.1 turn.2).matched? turn.1 = some pair) ∨
      ∃ exception, (KeyOutcome.ofTurn tolerance turn.1 turn.2).exception? turn.1 = some exception := by
  obtain ⟨obligation, picked⟩ := turn
  match picked with
  | [] => exact absurd rfl found
  | [settlement] =>
    dsimp only [KeyOutcome.ofTurn, KeyOutcome.matched?, KeyOutcome.exception?]
    split_ifs
    · exact .inl ⟨_, rfl⟩
    · exact .inr ⟨_, rfl⟩
  | first :: second :: rest => exact .inr ⟨_, rfl⟩

/-- An exception that names an order and a settlement comes from a turn. -/
theorem raised_at_turn {config : AppConfig} {asOfDate : Date} {settlements : List Settlement}
    {orders : List Order} {exception : ExceptionRecord}
    (listed : exception ∈ (fileResult config asOfDate settlements orders).exceptions)
    (order : exception.orderId.isSome) (settlement : exception.settlementId.isSome) :
    exception ∈ (reconcileKeys (buildObligations orders config.reconciliation.amountTolerance).obligations
      settlements config.reconciliation.amountTolerance).exceptions := by
  unfold fileResult reconcile classifyLeftovers at listed
  dsimp only at listed
  rw [List.mem_append, List.mem_append, List.mem_append, List.mem_map, List.mem_map] at listed
  rcases listed with sums | keyed | ⟨obligation, -, rfl⟩ | ⟨stray, -, rfl⟩
  · obtain ⟨-, -, none, -⟩ := orderSumExceptions_fields sums
    rw [none] at settlement
    cases settlement
  · exact keyed
  · cases settlement
  · cases order

/-- Where the cancelled rows do not show, a turn that finds settlements has a counterpart. -/
theorem CancelledIgnored.counterpart {config : AppConfig} {asOfDate : Date} {settlements : List Settlement}
    {orders : List Order} (ignored : CancelledIgnored config asOfDate settlements orders)
    {turn : Obligation × List Settlement} (served : turn ∈ keyTurns settlements ∅
      (buildObligations (placed orders) config.reconciliation.amountTolerance).obligations)
    (found : turn.2 ≠ []) :
    ∃ other ∈ keyTurns settlements ∅
      (buildObligations orders config.reconciliation.amountTolerance).obligations, SameHand turn other := by
  rcases matched_or_raised found config.reconciliation.amountTolerance with ⟨pair, given⟩ | ⟨exception, raised⟩
  · obtain ⟨other, served', given'⟩ :=
      mem_matched_iff.mp (ignored.matched.subset (mem_matched_iff.mpr ⟨turn, served, given⟩))
    obtain rfl : turn = other := (turn_of_matched given).trans (turn_of_matched given').symm
    exact ⟨turn, served', rfl, rfl, rfl⟩
  · have shown := showsTurn_of_raised raised
    have listed := ignored.exceptions.subset (List.mem_append_right _ (List.mem_append_left _
      (mem_exceptions_iff.mpr ⟨turn, served, raised⟩)))
    obtain ⟨other, served', raised'⟩ := mem_exceptions_iff.mp (raised_at_turn listed
      (by rw [shown.orderId]; rfl) (by rw [shown.quoted]; simpa using found))
    exact ⟨other, served', shown.sameHand (showsTurn_of_raised raised')⟩

theorem SameHand.leader_mem {turn other : Obligation × List Settlement} {row : Settlement}
    {rest : List Settlement} (hand : SameHand turn other) (found : turn.2 = row :: rest) :
    ∃ leader ∈ other.2, leader.settlementId = row.settlementId := by
  have leads := hand.leader
  rw [found, List.head?_cons, Option.map_some] at leads
  obtain ⟨leader, first, same⟩ := Option.map_eq_some_iff.mp leads.symm
  exact ⟨leader, List.mem_of_mem_head? first, same⟩

/-- An obligation that finds equally many settlements and the same first one finds the same settlements. -/
theorem candidates_eq_of_sameHand {settlements : List Settlement} {used used' : Finset String}
    {obligation : Obligation} {row : Settlement} {others : List Settlement}
    (unspent : ∀ other ∈ candidates (indexSettlements settlements) used' obligation, other.settlementId ∉ used)
    (found : candidates (indexSettlements settlements) used obligation = row :: others)
    (hand : SameHand (obligation, candidates (indexSettlements settlements) used obligation)
      (obligation, candidates (indexSettlements settlements) used' obligation)) :
    candidates (indexSettlements settlements) used' obligation =
      candidates (indexSettlements settlements) used obligation := by
  obtain ⟨leader, first, shares⟩ := hand.leader_mem found
  have fresh : row.settlementId ∉ used' := shares ▸ candidates_fresh settlements _ _ leader first
  have kept := candidates_same_lookup unspent (found ▸ List.mem_cons_self) fresh
  have count := hand.count
  dsimp only at count
  rw [kept] at count
  exact kept.trans (List.filter_sublist.eq_of_length count.symm)

/-- If every turn that finds settlements has a counterpart, then every obligation finds the same ones. -/
theorem sameTurns_of_counterparts {settlements : List Settlement} {first second : List Obligation}
    (same : SameOrders first second)
    (counterpart : ∀ turn ∈ keyTurns settlements ∅ first, turn.2 ≠ [] →
      ∃ other ∈ keyTurns settlements ∅ second, SameHand turn other) :
    SameTurns settlements first second := by
  refine groupTurns_eq_of_step Settlement.settlementId (candidates (indexSettlements settlements))
    Obligation.orderId same ?_
  intro prior obligation later before after picked split alike cut here
  have unspent := picked_unspent Settlement.settlementId Obligation.orderId (candidates_fresh settlements)
    alike cut here
  obtain ⟨prior', later', -, -, served, rest⟩ := turns_cut _ _ cut
  change picked = candidates _ (keySpent settlements ∅ prior') obligation at served
  rw [served] at unspent
  cases found : candidates (indexSettlements settlements) (keySpent settlements ∅ prior) obligation with
  | nil =>
    refine found.trans (List.eq_nil_iff_forall_not_mem.mpr fun row member => ?_).symm
    rw [served] at member
    obtain ⟨present, -, satisfied⟩ := mem_candidates member
    exact candidates_ne_nil present (unspent row member) satisfied found
  | cons row others =>
    have own : row ∈ candidates (indexSettlements settlements) (keySpent settlements ∅ prior) obligation :=
      found ▸ List.mem_cons_self
    obtain ⟨other, served', hand⟩ := counterpart (obligation, candidates (indexSettlements settlements)
      (keySpent settlements ∅ prior) obligation)
      ((mem_turns_iff _ _).mpr ⟨prior, later, split, rfl⟩) (by simp [found])
    obtain ⟨leader, first, shares⟩ := hand.leader_mem found
    rw [keyTurns, cut, List.mem_append, List.mem_cons] at served'
    rcases served' with earlier | rfl | later
    · -- A counterpart before this turn is also a turn of the first list before it.
      have listed : other ∈ groupTurns Obligation.orderId obligation.orderId before :=
        List.mem_filter.mpr ⟨earlier, decide_eq_true hand.orderId.symm⟩
      have taken : row.settlementId ∈ keySpent settlements ∅ prior := by
        rw [here] at listed
        exact (mem_spent _ _).mpr (.inr ⟨other, List.mem_of_mem_filter listed,
          mem_idents.mpr ⟨leader, first, shares⟩⟩)
      exact absurd taken (candidates_fresh settlements _ _ row own)
    · subst served
      exact (candidates_eq_of_sameHand unspent found hand).symm
    · -- A counterpart after this turn leaves its first settlement to this one.
      have fresh : leader.settlementId ∉ keySpent settlements ∅ prior' ∪ idents Settlement.settlementId picked :=
        turns_fresh _ (candidates_fresh settlements) (rest ▸ later) leader first
      rw [Finset.mem_union, not_or, shares] at fresh
      have taken : row ∈ picked := by
        rw [served, candidates_same_lookup unspent own fresh.1]
        exact mem_live.mpr ⟨own, fresh.1⟩
      exact absurd (mem_idents.mpr ⟨row, taken, rfl⟩) fresh.2

/-! ## Exactly when cancelled rows do not show -/

/-- The obligations come in the order of their orders. -/
theorem obligations_ranked (orders : List Order) (tolerance : ℚ) :
    (buildObligations orders tolerance).obligations.Pairwise fun early late =>
      (orderIds orders).idxOf early.orderId ≤ (orderIds orders).idxOf late.orderId := by
  rw [obligations_eq, List.pairwise_flatMap]
  constructor
  · intro orderId _
    refine List.Pairwise.imp_of_mem ?_ (List.pairwise_of_forall fun _ _ => trivial)
    intro early late member member' _
    rw [obligationsOf_orderId member, obligationsOf_orderId member']
  · have ranks : (orderIds orders).Pairwise fun early late =>
        (orderIds orders).idxOf early < (orderIds orders).idxOf late := by
      refine List.pairwise_iff_getElem.mpr fun i j inside inside' before => ?_
      rw [(orderIds_nodup orders).idxOf_getElem, (orderIds_nodup orders).idxOf_getElem]
      exact before
    refine ranks.imp fun {early late} before first member second member' => ?_
    rw [obligationsOf_orderId member, obligationsOf_orderId member']
    exact before.le

theorem orderId_mem_placed {orders : List Order} {tolerance : ℚ} {obligation : Obligation}
    (member : obligation ∈ (buildObligations (placed orders) tolerance).obligations) :
    obligation.orderId ∈ orderIds (placed orders) := by
  rw [obligations_eq, List.mem_flatMap] at member
  obtain ⟨orderId, listed, member⟩ := member
  rwa [obligationsOf_orderId member]

/-- If no order takes ahead what another one looks at, every obligation finds the same settlements. -/
theorem NoneTakenAhead.sameTurns {settlements : List Settlement} {orders : List Order} {tolerance : ℚ}
    (none : NoneTakenAhead settlements orders tolerance) :
    SameTurns settlements (buildObligations (placed orders) tolerance).obligations
      (buildObligations orders tolerance).obligations := by
  refine groupTurns_eq_of_step Settlement.settlementId (candidates (indexSettlements settlements))
    Obligation.orderId (sameOrders_placed orders tolerance) ?_
  intro prior obligation later before after picked split alike cut here
  have unspent := picked_unspent Settlement.settlementId Obligation.orderId (candidates_fresh settlements)
    alike cut here
  obtain ⟨prior', later', split', rfl, rfl, -⟩ := turns_cut _ _ cut
  refine candidates_eq_of_looksAt unspent fun row looks spent => ?_
  rcases (mem_spent _ _).mp spent with nothing | ⟨turn, served, taken⟩
  · cases nothing
  refine (mem_spent _ _).mpr (.inr ⟨turn, ?_, taken⟩)
  rcases lt_trichotomy ((orderIds (placed orders)).idxOf turn.1.orderId)
    ((orderIds (placed orders)).idxOf obligation.orderId) with lower | same | higher
  · refine mem_turns_of_rank _ _ _ (orderIds (placed orders)).idxOf (sameOrders_placed orders tolerance) split
      (obligations_ranked (placed orders) tolerance) alike ?_ lower
    rw [cut]
    exact List.mem_append_left _ served
  · have own : turn.1.orderId = obligation.orderId :=
      ((List.idxOf_inj (orderId_mem_placed (split ▸ List.mem_append_right _ List.mem_cons_self))).mp same.symm).symm
    have listed : turn ∈ groupTurns Obligation.orderId obligation.orderId
        (turns Settlement.settlementId (candidates (indexSettlements settlements)) ∅ prior') :=
      List.mem_filter.mpr ⟨served, decide_eq_true own⟩
    rw [here] at listed
    exact List.mem_of_mem_filter listed
  · obtain ⟨found, member, shares⟩ := mem_idents.mp taken
    exact absurd shares (none prior' obligation later' split' turn served higher row looks found member)

/-- A turn leaves alone what an order behind it picks. -/
theorem later_turn {settlements : List Settlement} {orders : List Order} {tolerance : ℚ}
    {turn other : Obligation × List Settlement}
    (served : turn ∈ keyTurns settlements ∅ (buildObligations (placed orders) tolerance).obligations)
    (served' : other ∈ keyTurns settlements ∅ (buildObligations (placed orders) tolerance).obligations)
    (first : ComesFirst orders turn.1.orderId other.1.orderId) :
    ∃ used, turn.2 = candidates (indexSettlements settlements) used turn.1 ∧
      ∀ row ∈ other.2, row.settlementId ∉ used := by
  obtain ⟨before, after, cut⟩ := List.append_of_mem served
  obtain ⟨prior, later, split, rfl, picked, rest⟩ := turns_cut _ _ cut
  have ranked := obligations_ranked (placed orders) tolerance
  rw [split, List.pairwise_append, List.pairwise_cons] at ranked
  refine ⟨_, picked, ?_⟩
  rw [cut, List.mem_append, List.mem_cons] at served'
  rcases served' with earlier | rfl | later
  · have member : other.1 ∈ prior := by
      rw [← map_fst_turns Settlement.settlementId (candidates (indexSettlements settlements)) ∅ prior]
      exact List.mem_map_of_mem earlier
    exact absurd first (ranked.2.2 _ member _ List.mem_cons_self).not_gt
  · exact absurd first (lt_irrefl _)
  · intro row member
    have fresh := turns_fresh _ (candidates_fresh settlements) (rest ▸ later) row member
    exact fun spent => fresh (Finset.mem_union_left _ spent)

theorem SameTurns.noneTakenAhead {settlements : List Settlement} {orders : List Order} {tolerance : ℚ}
    (same : SameTurns settlements (buildObligations (placed orders) tolerance).obligations
      (buildObligations orders tolerance).obligations) : NoneTakenAhead settlements orders tolerance := by
  intro prior obligation later split turn served first row looks taken member shares
  have spent : row.settlementId ∈ keySpent settlements ∅ prior :=
    (mem_spent _ _).mpr (.inr ⟨turn, served, mem_idents.mpr ⟨taken, member, shares⟩⟩)
  have listed : turn ∈ keyTurns settlements ∅ (buildObligations orders tolerance).obligations := by
    rw [split, keyTurns, turns_append]
    exact List.mem_append_left _ served
  have own : (obligation, candidates (indexSettlements settlements) (keySpent settlements ∅ prior) obligation) ∈
      keyTurns settlements ∅ (buildObligations orders tolerance).obligations :=
    (mem_turns_iff _ _).mpr ⟨prior, later, split, rfl⟩
  -- Without the cancelled rows the other order is served later, so the id is still free at this turn.
  obtain ⟨used, picked, fresh⟩ :=
    later_turn (same.turns_perm.mem_iff.mpr own) (same.turns_perm.mem_iff.mpr listed) first
  have found : row ∈ candidates (indexSettlements settlements) used obligation :=
    mem_candidates_iff.mpr ⟨looks.of_candidates_eq picked.symm, shares ▸ fresh taken member⟩
  rw [← picked] at found
  exact candidates_fresh settlements _ _ row found spent

/-- Cancelled rows do not show exactly when no obligation looks at a settlement that an order consumed
which only they put in front of its own. -/
theorem cancelled_ignored_iff (config : AppConfig) (asOfDate : Date) (settlements : List Settlement)
    (orders : List Order) : CancelledIgnored config asOfDate settlements orders ↔
      NoneTakenAhead settlements orders config.reconciliation.amountTolerance := by
  constructor
  · intro ignored
    refine SameTurns.noneTakenAhead (sameTurns_of_counterparts (sameOrders_placed orders _) ?_)
    exact fun _ served found => ignored.counterpart served found
  · exact fun none => CancelledIgnored.of_sameTurns asOfDate none.sameTurns

/-- A card row with the given transaction id. -/
def cardRow (orderId txn : String) (status : OrderStatus) (carried : (truthy (some txn)).isSome = true := by decide) :
    Order :=
  { makeOrder orderId with
    status, paymentType := .card, paymentGateway := some .razorpay, gatewayTxnId := some txn
    checkPaymentFields := fun _ => ⟨carried, rfl⟩ }

/-- A settlement of 500.00 that carries the transaction id of `O2` and names `O1`. -/
def contestedSettlement : Settlement := makeSettlement "ST9" (some "O1") (some "T2") ⟨50000⟩

/-- The cancelled row is the first of `O2`, so `O2` is served before `O1` and finds the settlement by its
transaction id; without that row `O1` is first and takes it by its order id. -/
theorem cancelled_row_moves_order :
    ¬ CancelledIgnored shippedConfig (defaultDate + 2) [contestedSettlement]
      [cardRow "O2" "T0" .cancelled, cardRow "O1" "T1" .placed, cardRow "O2" "T2" .placed] := by
  intro ignored
  have same := ignored.matched.map fun pair => pair.obligation.orderId
  revert same
  decide +kernel

end ReconcileFlow
