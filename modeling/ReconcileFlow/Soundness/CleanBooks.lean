import ReconcileFlow.Soundness.History
import ReconcileFlow.Soundness.KeyCompleteness
import ReconcileFlow.Soundness.MatchedAmounts
import ReconcileFlow.Soundness.RunTrail

/-! # Clean books

When every obligation is settled by exactly one settlement, in the right amount, and nothing else was
settled, there is nothing to judge and nobody to tell. The run completes whatever the client and the
notifier would do: it asks and mails nobody, reports no exception, and resolves every problem that earlier
runs had left open.
-/

namespace ReconcileFlow

open Allocation EffectRun ReconciliationAgent

variable {ω : Type}

/-- The pairs settle the obligations one to one: each obligation is satisfied by its own settlement only,
in the right amount, and no settlement is left. -/
structure SettledOneToOne (tolerance : ℚ) (obligations : List Obligation) (settlements : List Settlement)
    (pairs : List MatchedPair) : Prop where
  served : pairs.map MatchedPair.obligation = obligations
  spends : (pairs.map MatchedPair.settlement).Perm settlements
  distinct : (settlements.map Settlement.settlementId).Nodup
  agree : ∀ pair ∈ pairs, AmountsAgree tolerance pair
  own : ∀ pair ∈ pairs, ∀ row ∈ settlements, Satisfies pair.obligation row ↔ row = pair.settlement

namespace SettledOneToOne

variable {tolerance : ℚ} {obligations : List Obligation} {settlements : List Settlement} {pairs : List MatchedPair}
  (settled : SettledOneToOne tolerance obligations settlements pairs)
include settled

/-- While its settlement is unspent, it is the only candidate of an obligation. -/
theorem candidates_own {pair : MatchedPair} (member : pair ∈ pairs) {consumed : Finset String}
    (unspent : pair.settlement.settlementId ∉ consumed) :
    candidates (indexSettlements settlements) consumed pair.obligation = [pair.settlement] := by
  have listed : pair.settlement ∈ settlements := settled.spends.subset (List.mem_map_of_mem member)
  have found := candidates_ne_nil listed unspent ((settled.own pair member _ listed).mpr rfl)
  have own : ∀ row ∈ candidates (indexSettlements settlements) consumed pair.obligation,
      row = pair.settlement := by
    intro row present
    obtain ⟨inFile, -, satisfies⟩ := mem_candidates present
    exact (settled.own pair member row inFile).mp satisfies
  have unique : (candidates (indexSettlements settlements) consumed pair.obligation).Nodup := by
    obtain ⟨wanted, selected⟩ := candidates_select settlements consumed pair.obligation
    rw [selected]
    exact (List.Nodup.of_map _ settled.distinct).filter wanted
  have count := List.eq_replicate_of_mem own
  rw [count, List.nodup_replicate] at unique
  rw [count] at found ⊢
  have one : (candidates (indexSettlements settlements) consumed pair.obligation).length = 1 := by
    have some := List.length_pos_iff.mpr found
    rw [List.length_replicate] at some
    omega
  rw [one]
  rfl

theorem keyTurns_eq : keyTurns settlements ∅ obligations =
    pairs.map fun pair => (pair.obligation, [pair.settlement]) := by
  have distinct : (pairs.map fun pair => pair.settlement.settlementId).Nodup := by
    have ids := (settled.spends.map Settlement.settlementId).nodup_iff.mpr settled.distinct
    rwa [List.map_map] at ids
  have owned : ∀ pair ∈ pairs.map fun pair => (pair.obligation, pair.settlement), ∀ used,
      pair.2.settlementId ∉ used → candidates (indexSettlements settlements) used pair.1 = [pair.2] := by
    simp only [List.forall_mem_map]
    exact fun pair member used unspent => settled.candidates_own member unspent
  have turns := turns_of_owned Settlement.settlementId (candidates (indexSettlements settlements)) owned
    (by rwa [List.map_map]) fun _ _ => Finset.notMem_empty _
  rw [List.map_map, List.map_map] at turns
  rw [← settled.served]
  exact turns

/-- Key matching makes exactly these pairs. -/
theorem reconcileKeys_eq_pairs : reconcileKeys obligations settlements tolerance = ⟨pairs, [], [], []⟩ := by
  have outcomes : keyOutcomes settlements tolerance ∅ obligations =
      pairs.map fun pair => (pair.obligation, .single pair.settlement .matched) := by
    rw [keyOutcomes, settled.keyTurns_eq, List.map_map]
    refine List.map_congr_left fun pair member => ?_
    have same := amountStatus_matched_iff.mpr (settled.agree pair member)
    simp [KeyOutcome.ofTurn, same]
  have spent : live (keySpent settlements ∅ obligations) settlements = [] := by
    refine List.eq_nil_iff_forall_not_mem.mpr fun row stray => ?_
    obtain ⟨listed, unspent⟩ := mem_live.mp stray
    obtain ⟨pair, member, rfl⟩ := List.mem_map.mp (settled.spends.symm.subset listed)
    have entered : (pair.obligation, KeyOutcome.single pair.settlement .matched) ∈
        keyOutcomes settlements tolerance ∅ obligations := by
      rw [outcomes]
      exact List.mem_map_of_mem member
    exact unspent (mem_keySpent.mpr ⟨_, entered, pair.settlement, List.mem_singleton_self _, rfl⟩)
  rw [reconcileKeys_eq, outcomes, spent]
  simp [List.filterMap_map, KeyOutcome.matched?, KeyOutcome.exception?, KeyOutcome.leftover?]

end SettledOneToOne

/-- The parts of every order add up, and the settlements settle the obligations one to one. -/
structure CleanBooks (config : AppConfig) (request : RunRequest) (pairs : List MatchedPair) : Prop where
  sums : (buildObligations request.orders config.reconciliation.amountTolerance).orderSumExceptions = []
  settled : SettledOneToOne config.reconciliation.amountTolerance
    (buildObligations request.orders config.reconciliation.amountTolerance).obligations request.settlements pairs

namespace CleanBooks

variable {deps : AgentDependencies ω} {request : RunRequest} {pairs : List MatchedPair}
  (clean : CleanBooks deps.config request pairs)
include clean

theorem afterKeys_eq (runId : String) (asOf : Date) :
    afterKeys deps.config (initialState deps.config request runId asOf) =
      { initialState deps.config request runId asOf with matched := pairs } := by
  have keys : reconcileKeys (initialState deps.config request runId asOf).obligations
      (initialState deps.config request runId asOf).settlements deps.config.reconciliation.amountTolerance =
        ⟨pairs, [], [], []⟩ := clean.settled.reconcileKeys_eq_pairs
  have sums : (initialState deps.config request runId asOf).orderSumExceptions = [] := clean.sums
  unfold afterKeys
  dsimp only
  rw [keys, sums]
  rfl

/-- The nodes up to the exception list go by without a question. -/
theorem sortNodes_run (runId : String) (asOf : Date) (before : Sys ω) :
    ∃ after, (sortNodes deps (initialState deps.config request runId asOf)).run before =
        .ok { initialState deps.config request runId asOf with matched := pairs } after ∧
      AuditOnly before after := by
  obtain ⟨keyedSys, keyed, first⟩ := reconcileNode_run deps (initialState deps.config request runId asOf) before
  rw [clean.afterKeys_eq] at keyed
  obtain ⟨after, classified, second⟩ := classifyNode_run deps
    { initialState deps.config request runId asOf with matched := pairs } keyedSys
  refine ⟨after, ?_, first.trans second⟩
  have direct : routesToFuzzy deps { initialState deps.config request runId asOf with matched := pairs } = false := by
    simp [routesToFuzzy, initialState]
  have paired : (fuzzyEdge deps { initialState deps.config request runId asOf with matched := pairs }).run keyedSys =
      .ok { initialState deps.config request runId asOf with matched := pairs } keyedSys := by
    unfold fuzzyEdge
    rw [direct]
    rfl
  unfold sortNodes
  rw [bind_of_ok keyed, bind_of_ok paired]
  exact classified

end CleanBooks

/-- Nothing is reported, nobody is asked or told, and every problem on record is resolved. -/
structure ResolvesAll (before : Sys ω) (final : ReconciliationState) (after : Sys ω) : Prop where
  exceptions : final.exceptions = []
  emails : final.emails = []
  calls : after.calls = before.calls
  notifications : after.db.notifications = before.db.notifications
  resolved : ∀ row ∈ after.db.exceptions.rows, row.status = .resolved
  summary : final.summary = some (buildSummary final
    (before.db.exceptions.rows.countP fun row => Database.isUnresolved row.status))

/-- A sweep that has seen no key resolves whatever is unresolved. -/
theorem verifyNode_resolvesAll (deps : AgentDependencies ω) {state : ReconciliationState}
    (quiet : state.exceptions = [] ∧ state.emails = [] ∧ state.currentKeys = []) (before : Sys ω) :
    ∃ final after, (verifyNode deps state).run before = .ok final after ∧ final.matched = state.matched ∧
      ResolvesAll before final after := by
  obtain ⟨exceptions, emails, none⟩ := quiet
  have stale : Database.isStale state.currentKeys = fun row => Database.isUnresolved row.status := by
    funext row
    simp [Database.isStale, none]
  refine ⟨_, _, rfl, rfl, exceptions, emails, rfl, rfl, fun row member => ?_, ?_⟩
  · obtain ⟨old, -, rfl⟩ := List.mem_map.mp member
    unfold Database.resolveRow
    rw [stale]
    split
    · rfl
    · next settled => cases kept : old.status <;> simp_all [Database.isUnresolved]
  · rw [← stale]
    rfl

/-- With no exceptions, the nodes behind the classification only sweep. -/
theorem laterNodes_resolveAll (deps : AgentDependencies ω) {state : ReconciliationState}
    (none : state.exceptions = []) (before : Sys ω) :
    ∃ final after,
      (do
        let decided ← decideNode deps state
        let dispatched ← dispatchNode deps decided
        verifyNode deps dispatched).run before = .ok final after ∧
      final.matched = state.matched ∧ ResolvesAll before final after := by
  have decided : (decideNode deps state).run before = .ok { state with decisions := [] } before := by
    unfold decideNode
    rw [none]
    rfl
  have dispatched : (dispatchNode deps { state with decisions := [] }).run before =
      .ok { state with decisions := [], emails := [], currentKeys := [] } before := by
    unfold dispatchNode
    dsimp only
    rw [none]
    rfl
  rw [bind_of_ok decided, bind_of_ok dispatched]
  refine verifyNode_resolvesAll deps ?_ before
  exact ⟨none, rfl, rfl⟩

/-- A cash order and the settlement that pays it. -/
def paidRequest : RunRequest where
  orders := [makeOrder "O1"]
  settlements := [{ makeSettlement "ST1" (some "O1") none ⟨50000⟩ with paymentType := .cash }]

/-- A problem that an earlier run left open. -/
def openStart : Sys Unit :=
  { emptyStart with db := emptyStart.db.upsertException "K1" "run-0" "CASH_MISSING" .opened 0 }

end ReconcileFlow
