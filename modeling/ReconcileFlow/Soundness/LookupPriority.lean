import ReconcileFlow.Soundness.KeyMatching

/-! # Transaction ids against the fallback

The specified algorithm looks every obligation up by transaction id before it falls back on
`(order_id, payment_type)` for any. The loop does both lookups for one obligation at a time, so a
fallback can take a row whose transaction id belongs to an obligation that is still to come. It
takes no other obligation's row exactly when that situation never arises (`priorityKept_iff`): an
owner that was served before has consumed its rows.
-/

namespace ReconcileFlow

open Allocation

/-- Exactly one obligation of the list has the row's transaction id. -/
def OwnedByOne (obligations : List Obligation) (settlement : Settlement) : Prop :=
  obligations.countP (fun obligation => decide (SatisfiesByTxn obligation settlement)) = 1

instance (obligations : List Obligation) (settlement : Settlement) :
    Decidable (OwnedByOne obligations settlement) :=
  inferInstanceAs (Decidable (_ = _))

/-- Served after the given obligations, the obligation consumes the row through the fallback; the
loop's consumed ids are then `keySpent` (`foldl_keyMatchStep`). -/
def TakesByFallback (settlements : List Settlement) (prior : List Obligation) (obligation : Obligation)
    (settlement : Settlement) : Prop :=
  let index := indexSettlements settlements
  let consumed := keySpent settlements ∅ prior
  txnCandidates index consumed obligation = [] ∧ settlement ∈ candidates index consumed obligation

/-- A row with one owner is consumed through the fallback by nobody else. -/
def PriorityKept (obligations : List Obligation) (settlements : List Settlement) : Prop :=
  ∀ prior obligation later, obligations = prior ++ obligation :: later →
    ∀ settlement, TakesByFallback settlements prior obligation settlement →
      OwnedByOne obligations settlement → SatisfiesByTxn obligation settlement

/-- Where the lookup by transaction id finds nothing, no row that the fallback finds has its only
owner among the obligations still to come. -/
def OwnersNotAhead (obligations : List Obligation) (settlements : List Settlement) : Prop :=
  ∀ prior obligation later, obligations = prior ++ obligation :: later →
    let index := indexSettlements settlements
    let consumed := keySpent settlements ∅ prior
    txnCandidates index consumed obligation = [] →
    ∀ settlement ∈ fallbackCandidates index consumed obligation,
      OwnedByOne obligations settlement → ∀ owner ∈ later, ¬ SatisfiesByTxn owner settlement

theorem candidates_of_empty {index : SettlementIndex} {consumed : Finset String} {obligation : Obligation}
    (empty : txnCandidates index consumed obligation = []) :
    candidates index consumed obligation = fallbackCandidates index consumed obligation := by
  unfold candidates
  rw [empty]

theorem mem_candidates_of_txn {settlements : List Settlement} {consumed : Finset String}
    {obligation : Obligation} {settlement : Settlement} (member : settlement ∈ settlements)
    (unspent : settlement.settlementId ∉ consumed) (owns : SatisfiesByTxn obligation settlement) :
    settlement ∈ txnCandidates (indexSettlements settlements) consumed obligation ∧
      settlement ∈ candidates (indexSettlements settlements) consumed obligation := by
  have found : settlement ∈ txnCandidates (indexSettlements settlements) consumed obligation := by
    rw [txnCandidates_eq, mem_live, List.mem_filter]
    exact ⟨⟨member, decide_eq_true owns⟩, unspent⟩
  refine ⟨found, ?_⟩
  rcases candidates_cases settlements consumed obligation with byTxn | ⟨empty, -⟩
  · rwa [byTxn]
  · rw [empty] at found
    cases found

/-- An obligation that was served has consumed every row with its transaction id. -/
theorem spent_of_owner {settlements : List Settlement} {prior : List Obligation} {owner : Obligation}
    {settlement : Settlement} (served : owner ∈ prior) (member : settlement ∈ settlements)
    (owns : SatisfiesByTxn owner settlement) :
    settlement.settlementId ∈ keySpent settlements ∅ prior := by
  obtain ⟨first, second, rfl⟩ := List.append_of_mem served
  by_cases earlier : settlement.settlementId ∈ keySpent settlements ∅ first
  · exact spent_subset_append _ _ _ _ _ earlier
  · apply mem_spent_of_picked
    exact (mem_candidates_of_txn member earlier owns).2

/-- Transaction ids have priority over the fallback exactly when no fallback finds a row whose only
owner is still to come. -/
theorem priorityKept_iff (obligations : List Obligation) (settlements : List Settlement) :
    PriorityKept obligations settlements ↔ OwnersNotAhead obligations settlements := by
  constructor
  · intro kept prior obligation later split _ _ empty settlement found owned owner ahead owns
    have picked := candidates_of_empty empty ▸ found
    have self := kept prior obligation later split settlement ⟨empty, picked⟩ owned
    obtain ⟨member, unspent, -⟩ := mem_candidates picked
    have byTxn := (mem_candidates_of_txn member unspent self).1
    rw [empty] at byTxn
    cases byTxn
  · intro notAhead prior obligation later split settlement takes owned
    obtain ⟨empty, picked⟩ := takes
    obtain ⟨member, unspent, -⟩ := mem_candidates picked
    have found := candidates_of_empty empty ▸ picked
    have someone : 0 < obligations.countP fun other => decide (SatisfiesByTxn other settlement) := by
      rw [owned]
      exact Nat.one_pos
    obtain ⟨owner, present, owns⟩ := List.countP_pos_iff.mp someone
    rw [split, List.mem_append, List.mem_cons] at present
    rcases present with before | rfl | ahead
    · exact (unspent (spent_of_owner before member (of_decide_eq_true owns))).elim
    · exact of_decide_eq_true owns
    · exact (notAhead prior obligation later split empty settlement found owned owner ahead
        (of_decide_eq_true owns)).elim

/-- Two card payments of one order; the settlement carries the transaction id of the second, and the
first takes it through the fallback. -/
theorem fallback_takes_later_owner :
    ¬ PriorityKept [makeObligation "O1" "TXN1", makeObligation "O1" "TXN2"]
      [makeSettlement "ST1" (some "O1") (some "TXN2")] := by
  intro kept
  have owns := kept [] (makeObligation "O1" "TXN1") [makeObligation "O1" "TXN2"] rfl
    (makeSettlement "ST1" (some "O1") (some "TXN2")) ⟨by decide, by decide⟩ (by decide)
  exact absurd owns (by decide)

end ReconcileFlow
