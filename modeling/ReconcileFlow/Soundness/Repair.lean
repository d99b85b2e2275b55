import ReconcileFlow.Soundness.Closing
import ReconcileFlow.Soundness.KeyCompleteness
import ReconcileFlow.Soundness.MatchedAmounts
import ReconcileFlow.Soundness.Preview

/-! # A settlement that arrives late

The next file brings the settlement of an obligation that was reported missing. Wherever its row stands,
key matching makes the one pair more and does everything else as before. So the next run reports
everything but the missing payment again, resolves the keys of that report, and leaves every other stored
status as it was.
-/

namespace ReconcileFlow

open Allocation EffectRun ReconciliationAgent

variable {ω : Type}

section Candidates

variable {early late : List Settlement} {arrived : Settlement}

/-- A row that does not satisfy an obligation is no candidate of it. -/
theorem candidates_insert {obligation : Obligation} (foreign : ¬Satisfies obligation arrived)
    (consumed : Finset String) :
    candidates (indexSettlements (early ++ arrived :: late)) consumed obligation =
      candidates (indexSettlements (early ++ late)) consumed obligation := by
  have byTxn : ¬SatisfiesByTxn obligation arrived := fun satisfied => foreign (.inl satisfied)
  have byOrderType : ¬SatisfiesByOrderType obligation arrived := fun satisfied => foreign (.inr satisfied)
  unfold candidates
  rw [txnCandidates_eq, txnCandidates_eq, fallbackCandidates_eq, fallbackCandidates_eq]
  simp only [List.filter_append, List.filter_cons, byTxn, byOrderType, decide_false, Bool.false_eq_true,
    if_false]

/-- Nobody misses an id that no row carries. -/
theorem candidates_union {settlements : List Settlement} {settlementId : String}
    (unknown : ∀ row ∈ settlements, row.settlementId ≠ settlementId) (obligation : Obligation)
    (consumed : Finset String) :
    candidates (indexSettlements settlements) (consumed ∪ {settlementId}) obligation =
      candidates (indexSettlements settlements) consumed obligation := by
  have still {wanted : Settlement → Bool} : live (consumed ∪ {settlementId}) (settlements.filter wanted) =
      live consumed (settlements.filter wanted) := by
    refine List.filter_congr fun row member => decide_eq_decide.mpr ?_
    have other := unknown row (List.mem_of_mem_filter member)
    simp [other]
  unfold candidates
  rw [txnCandidates_eq, txnCandidates_eq, fallbackCandidates_eq, fallbackCandidates_eq, still, still]

/-- An obligation without a candidate picks the row that arrived for it. -/
theorem candidates_arrived {obligation : Obligation} (satisfied : Satisfies obligation arrived)
    {consumed : Finset String} (unspent : arrived.settlementId ∉ consumed)
    (nothing : candidates (indexSettlements (early ++ late)) consumed obligation = []) :
    candidates (indexSettlements (early ++ arrived :: late)) consumed obligation = [arrived] := by
  have listed : arrived ∈ early ++ arrived :: late := by simp
  have found := candidates_ne_nil listed unspent satisfied
  obtain ⟨wanted, selected⟩ := candidates_select (early ++ arrived :: late) consumed obligation
  have others : ∀ row ∈ early ++ late, wanted row = false := by
    intro row member
    by_contra selects
    have inFile : row ∈ early ++ arrived :: late := by
      rcases List.mem_append.mp member with first | second
      · exact List.mem_append_left _ first
      · exact List.mem_append_right _ (List.mem_cons_of_mem _ second)
    have picked : row ∈ candidates (indexSettlements (early ++ arrived :: late)) consumed obligation := by
      rw [selected]
      exact List.mem_filter.mpr ⟨inFile, eq_true_of_ne_false selects⟩
    obtain ⟨-, live, satisfies⟩ := mem_candidates picked
    exact candidates_ne_nil member live satisfies nothing
  obtain ⟨before, after⟩ := List.forall_mem_append.mp others
  rw [selected, List.filter_append, List.filter_cons] at found ⊢
  rw [List.filter_eq_nil_iff.mpr fun row member => by simp [before row member],
    List.filter_eq_nil_iff.mpr fun row member => by simp [after row member]] at found ⊢
  cases wants : wanted arrived <;> simp_all

end Candidates

/-- A row that was not in the file yet pays an obligation that key matching left over, and satisfies no
other obligation. -/
structure Supplies (tolerance : ℚ) (obligations : List Obligation) (settlements : List Settlement)
    (missing : Obligation) (arrived : Settlement) : Prop where
  unknown : ∀ row ∈ settlements, row.settlementId ≠ arrived.settlementId
  only : obligations.filter (fun obligation => decide (Satisfies obligation arrived)) = [missing]
  left : missing ∈ (reconcileKeys obligations settlements tolerance).unmatchedObligations
  agrees : AmountsAgree tolerance ⟨missing, arrived⟩

/-- The result of key matching with one obligation moved from the leftovers to the matched pairs. -/
structure MovesPair (pair : MatchedPair) (old new : KeyMatchResult) : Prop where
  matched : ∃ first later, old.matched = first ++ later ∧ new.matched = first ++ pair :: later
  exceptions : new.exceptions = old.exceptions
  unmatchedObligations : ∃ first later, old.unmatchedObligations = first ++ pair.obligation :: later ∧
    new.unmatchedObligations = first ++ later
  unmatchedSettlements : new.unmatchedSettlements = old.unmatchedSettlements

namespace Supplies

variable {tolerance : ℚ} {obligations : List Obligation} {early late : List Settlement} {missing : Obligation}
  {arrived : Settlement} (supplies : Supplies tolerance obligations (early ++ late) missing arrived)
include supplies

theorem satisfied : Satisfies missing arrived := by
  have member : missing ∈ obligations.filter fun obligation => decide (Satisfies obligation arrived) := by
    rw [supplies.only]
    exact List.mem_singleton_self missing
  exact of_decide_eq_true (List.mem_filter.mp member).2

/-- The turn of the obligation: nobody else is satisfied by the row, and it had no candidate. -/
theorem turn : ∃ prior later, obligations = prior ++ missing :: later ∧
    (∀ obligation ∈ prior ++ later, ¬Satisfies obligation arrived) ∧
    candidates (indexSettlements (early ++ late)) (keySpent (early ++ late) ∅ prior) missing = [] := by
  obtain ⟨prior, later, split, nothing⟩ := mem_unmatchedObligations supplies.left
  refine ⟨prior, later, split, ?_, nothing⟩
  have only := supplies.only
  rw [split, List.filter_append, List.filter_cons, if_pos (decide_eq_true supplies.satisfied)] at only
  have count := congrArg List.length only
  rw [List.length_append, List.length_cons, List.length_singleton] at count
  have noPrior : prior.filter (fun obligation => decide (Satisfies obligation arrived)) = [] :=
    List.length_eq_zero_iff.mp (by omega)
  have noLater : later.filter (fun obligation => decide (Satisfies obligation arrived)) = [] :=
    List.length_eq_zero_iff.mp (by omega)
  refine List.forall_mem_append.mpr ⟨fun obligation member => ?_, fun obligation member => ?_⟩
  · simpa using List.filter_eq_nil_iff.mp noPrior obligation member
  · simpa using List.filter_eq_nil_iff.mp noLater obligation member

/-- The id of the row is not spent before it is in the file. -/
theorem unspent (prior : List Obligation) : arrived.settlementId ∉ keySpent (early ++ late) ∅ prior := by
  intro spent
  rcases (mem_spent _ _).mp spent with none | ⟨turn, member, picked⟩
  · exact Finset.notMem_empty _ none
  · obtain ⟨row, present, same⟩ := mem_idents.mp picked
    obtain ⟨before, after, -, served⟩ := (mem_turns_iff _ _).mp member
    rw [served] at present
    exact supplies.unknown row (mem_candidates present).1 same

/-- Obligations that the row does not satisfy are served as before, whether its id is spent or not. -/
theorem agree {others : List Obligation} (foreign : ∀ obligation ∈ others, ¬Satisfies obligation arrived)
    {extra : Finset String} (own : extra ⊆ {arrived.settlementId}) :
    ∀ obligation ∈ others, ∀ used,
      candidates (indexSettlements (early ++ arrived :: late)) (used ∪ extra) obligation =
        candidates (indexSettlements (early ++ late)) used obligation := by
  intro obligation member used
  rw [candidates_insert (foreign obligation member)]
  rcases Finset.subset_singleton_iff.mp own with rfl | rfl
  · rw [Finset.union_empty]
  · exact candidates_union supplies.unknown obligation used

/-- The histories differ in that turn only. -/
theorem keyTurns_eq : ∃ first later,
    keyTurns (early ++ late) ∅ obligations = first ++ (missing, []) :: later ∧
      keyTurns (early ++ arrived :: late) ∅ obligations = first ++ (missing, [arrived]) :: later ∧
      keySpent (early ++ arrived :: late) ∅ obligations =
        keySpent (early ++ late) ∅ obligations ∪ {arrived.settlementId} := by
  obtain ⟨prior, later, split, foreign, nothing⟩ := supplies.turn
  obtain ⟨foreignPrior, foreignLater⟩ := List.forall_mem_append.mp foreign
  have before := supplies.agree foreignPrior (Finset.empty_subset _)
  have after := supplies.agree foreignLater (Finset.Subset.refl _)
  have turnsPrior := turns_of_agree Settlement.settlementId before ∅
  have spentPrior := spent_of_agree Settlement.settlementId before ∅
  rw [Finset.union_empty] at turnsPrior spentPrior
  rw [Finset.union_empty] at spentPrior
  have own := candidates_arrived supplies.satisfied (supplies.unspent prior) nothing
  have turnsLater := turns_of_agree Settlement.settlementId after (keySpent (early ++ late) ∅ prior)
  have spentLater := spent_of_agree Settlement.settlementId after (keySpent (early ++ late) ∅ prior)
  have one : idents Settlement.settlementId [arrived] = {arrived.settlementId} := rfl
  have none : idents Settlement.settlementId ([] : List Settlement) = ∅ := rfl
  unfold keySpent at nothing own turnsLater spentLater
  refine ⟨keyTurns (early ++ late) ∅ prior, turns Settlement.settlementId
    (candidates (indexSettlements (early ++ late))) (keySpent (early ++ late) ∅ prior) later, ?_, ?_, ?_⟩
  · unfold keyTurns keySpent
    rw [split, turns_append, turns, nothing, none, Finset.union_empty]
  · unfold keyTurns keySpent
    rw [split, turns_append, turns, turnsPrior, spentPrior, own, one, turnsLater]
  · unfold keySpent
    rw [split, spent_append, spent_append, spent, spent, spentPrior, own, nothing, one, none, Finset.union_empty,
      spentLater]

/-- The leftover settlements are the same. -/
theorem leftovers : live (keySpent (early ++ arrived :: late) ∅ obligations) (early ++ arrived :: late) =
    live (keySpent (early ++ late) ∅ obligations) (early ++ late) := by
  obtain ⟨-, -, -, -, spent⟩ := supplies.keyTurns_eq
  have others {rows : List Settlement} (within : rows ⊆ early ++ late) :
      live (keySpent (early ++ arrived :: late) ∅ obligations) rows =
        live (keySpent (early ++ late) ∅ obligations) rows := by
    refine List.filter_congr fun row member => decide_eq_decide.mpr ?_
    have other := supplies.unknown row (within member)
    rw [spent]
    simp [other]
  unfold live at others ⊢
  rw [List.filter_append, List.filter_append, List.filter_cons, others (List.subset_append_left _ _),
    others (List.subset_append_right _ _)]
  simp [spent]

/-- Key matching moves the obligation to the matched pairs, and does nothing else. -/
theorem movesPair : MovesPair ⟨missing, arrived⟩ (reconcileKeys obligations (early ++ late) tolerance)
    (reconcileKeys obligations (early ++ arrived :: late) tolerance) := by
  obtain ⟨first, later, old, new, -⟩ := supplies.keyTurns_eq
  have same : amountStatus missing.expectedAmount arrived.amount tolerance = .matched :=
    amountStatus_matched_iff.mpr supplies.agrees
  rw [reconcileKeys_eq, reconcileKeys_eq, supplies.leftovers]
  unfold keyOutcomes
  rw [old, new, List.map_append, List.map_append, List.map_cons, List.map_cons]
  simp only [KeyOutcome.ofTurn, same]
  generalize first.map _ = first
  generalize later.map _ = later
  refine ⟨⟨first.filterMap fun entry => entry.2.matched? entry.1,
    later.filterMap fun entry => entry.2.matched? entry.1, ?_, ?_⟩, ?_,
    ⟨first.filterMap fun entry => entry.2.leftover? entry.1,
      later.filterMap fun entry => entry.2.leftover? entry.1, ?_, ?_⟩, rfl⟩ <;>
    simp [KeyOutcome.matched?, KeyOutcome.exception?, KeyOutcome.leftover?]

end Supplies

/-- The exception of an obligation without a settlement. -/
def missingReport (config : AppConfig) (asOf : Date) (missing : Obligation) : ExceptionRecord :=
  missingObligationException config.reconciliation.slaGraceDays asOf missing

/-- A request that does not reach the LLM is sorted by key matching alone. -/
theorem requestSorted_of_direct {deps : AgentDependencies ω} {request : RunRequest} (direct : ¬requestRoutes deps request)
    (before : Sys ω) :
    let keys := requestKeys deps.config request
    (requestSorted deps request before).matched = keys.matched ∧
      (requestSorted deps request before).exceptions =
        (buildObligations request.orders deps.config.reconciliation.amountTolerance).orderSumExceptions ++
          keys.exceptions ++ classifyLeftovers keys.unmatchedObligations keys.unmatchedSettlements
            deps.config.reconciliation.slaGraceDays (startedAsOf deps request before) := by
  rw [← routesToFuzzy_iff deps request (chosenRunId deps.host request before.world)
    (startedAsOf deps request before)] at direct
  unfold requestSorted sortedState afterFuzzyEdge
  rw [if_neg direct]
  exact ⟨rfl, rfl⟩

/-- What the next run, from `after` to `after'`, makes of the problem that is gone. -/
structure Repairs (deps : AgentDependencies ω) (asOf : Date) (pair : MatchedPair) (final final' : ReconciliationState)
    (after after' : Sys ω) : Prop where
  matched : ∃ first later, final.matched = first ++ later ∧ final'.matched = first ++ pair :: later
  reported : ∃ decision first later,
    decidedPairs final = first ++ (missingReport deps.config asOf pair.obligation, decision) :: later ∧
    decidedPairs final' = first ++ later ∧
    let gone := (entriesOf deps.config (missingReport deps.config asOf pair.obligation, decision)).map
      LifecycleEntry.mismatchKey
    (∀ key ∉ gone, after'.db.statuses key = after.db.statuses key) ∧
      ∀ key ∈ gone, key ∉ final'.currentKeys → after'.db.statuses key = some .resolved

theorem settle_resolved (entry : LifecycleEntry) : settle entry.status = .resolved := by
  unfold settle
  cases entry.status <;> rfl

/-- The stored keys of a run that files less than the one before it. -/
theorem statuses_without {config : AppConfig} {final final' : ReconciliationState} {before between after : Sys ω}
    {first later : List (ExceptionRecord × ExceptionDecision)} {gone : ExceptionRecord × ExceptionDecision}
    (old : decidedPairs final = first ++ gone :: later) (new : decidedPairs final' = first ++ later)
    (recorded : between.db.statuses = Snapshot.sync settle (snapshotOf config final) before.db.statuses)
    (again : after.db.statuses = Snapshot.sync settle (snapshotOf config final') between.db.statuses) :
    let keys := (entriesOf config gone).map LifecycleEntry.mismatchKey
    (∀ key ∉ keys, after.db.statuses key = between.db.statuses key) ∧
      ∀ key ∈ keys, key ∉ (snapshotOf config final').map Prod.fst → after.db.statuses key = some .resolved := by
  intro keys
  have mentioned : ((entriesOf config gone).map LifecycleEntry.recorded).map Prod.fst = keys := map_fst_recorded _
  let recordedOf (decided : List (ExceptionRecord × ExceptionDecision)) :=
    (decided.flatMap (entriesOf config)).map LifecycleEntry.recorded
  have snapshot : snapshotOf config final = recordedOf first ++ (entriesOf config gone).map LifecycleEntry.recorded ++
      recordedOf later := by
    simp [snapshotOf, old, recordedOf]
  have snapshot' : snapshotOf config final' = recordedOf first ++ recordedOf later := by
    simp [snapshotOf, new, recordedOf]
  rw [again, recorded, snapshot, snapshot', ← mentioned]
  refine ⟨fun key absent => Snapshot.sync_without_of_notMem settle_settle absent _, fun key present absent => ?_⟩
  obtain ⟨entry, member, -, closed⟩ := Snapshot.sync_without_of_mem settle present absent before.db.statuses
  obtain ⟨filed, -, rfl⟩ := List.mem_map.mp member
  rw [closed]
  exact congrArg some (settle_resolved filed)

/-- A request that sorts one exception less than a run that completed completes as well, and decides the
others alike. -/
theorem completes_without {deps : AgentDependencies ω} (functional : deps.llm.Functional)
    (wellBehaved : deps.notifications.notifier.WellBehaved) {request next : RunRequest} {before after start : Sys ω}
    {final : ReconciliationState} {outcome : RunOutcome} (completes : Completes deps request before final outcome after)
    {first later : List ExceptionRecord} {gone : ExceptionRecord} (reported : final.exceptions = first ++ gone :: later)
    (again : (requestSorted deps next start).exceptions = first ++ later)
    (fresh : start.db.runs.find? (chosenRunId deps.host next start.world) = none) :
    ∃ final' outcome' after', Completes deps next start final' outcome' after' ∧
      ∃ decision firstPairs laterPairs, decidedPairs final = firstPairs ++ (gone, decision) :: laterPairs ∧
        decidedPairs final' = firstPairs ++ laterPairs := by
  have facts := completes.facts
  have decided := facts.decided
  rw [reported] at decided
  obtain ⟨early, rest, decisions, decidesFirst, decidesRest⟩ := Reports.split_of_forall₂ decided
  obtain ⟨decision, late, -, decidesLater, rfl⟩ := List.forall₂_cons_left_iff.mp decidesRest
  have pairs : decidedPairs final = first.zip early ++ (gone, decision) :: later.zip late := by
    unfold decidedPairs
    rw [reported, decisions, List.zip_append decidesFirst.length_eq, List.zip_cons_cons]
  have decides : List.Forall₂ (Decides deps) (first ++ later) (early ++ late) :=
    List.rel_append decidesFirst decidesLater
  have drafts : ∀ one ∈ (first ++ later).zip (early ++ late), ∀ target ∈ mailedTargets deps.config one,
      Drafts deps one target := by
    intro one member
    refine facts.drafted one ?_
    rw [pairs]
    rw [List.zip_append decidesFirst.length_eq] at member
    rcases List.mem_append.mp member with front | back
    · exact List.mem_append_left _ front
    · exact List.mem_append_right _ (List.mem_cons_of_mem _ back)
  have returns : ∃ final' ended, graphRun deps next start = .ok final' ended :=
    invokeGraph_returns functional wellBehaved (again ▸ decides) (again ▸ drafts)
  obtain ⟨final', ended, graph⟩ := returns
  have completes' := completes_of_graph_returns fresh graph
  have sorted := completes'.requestSorted
  have exceptions : final'.exceptions = first ++ later := (congrArg ReconciliationState.exceptions sorted).trans again
  have decided' := completes'.facts.decided
  rw [exceptions] at decided'
  refine ⟨final', _, _, completes', decision, first.zip early, later.zip late, pairs, ?_⟩
  unfold decidedPairs
  rw [exceptions, decides_unique functional decided' decides, List.zip_append decidesFirst.length_eq]

private theorem split_around {α : Type*} (front middle tail rest : List α) (gone : α) :
    ∃ first later, front ++ (middle ++ gone :: tail ++ rest) = first ++ gone :: later ∧
      front ++ (middle ++ tail ++ rest) = first ++ later :=
  ⟨front ++ middle, tail ++ rest, by simp, by simp⟩

/-- The next request sorts one exception less and matches one pair more. -/
theorem Supplies.sorted {deps : AgentDependencies ω} {request next : RunRequest} {before start : Sys ω}
    {early late : List Settlement} {missing : Obligation} {arrived : Settlement}
    (supplies : Supplies deps.config.reconciliation.amountTolerance
      (buildObligations request.orders deps.config.reconciliation.amountTolerance).obligations request.settlements
      missing arrived) (direct : ¬requestRoutes deps request) (file : request.settlements = early ++ late)
    (orders : next.orders = request.orders) (settlements : next.settlements = early ++ arrived :: late)
    (dated : startedAsOf deps next start = startedAsOf deps request before) :
    let old := requestSorted deps request before
    let new := requestSorted deps next start
    (∃ first later, old.matched = first ++ later ∧ new.matched = first ++ ⟨missing, arrived⟩ :: later) ∧
      ∃ first later, old.exceptions =
          first ++ missingReport deps.config (startedAsOf deps request before) missing :: later ∧
        new.exceptions = first ++ later := by
  have moves : MovesPair ⟨missing, arrived⟩ (requestKeys deps.config request) (requestKeys deps.config next) := by
    rw [file] at supplies
    have moved := supplies.movesPair
    unfold requestKeys
    rwa [orders, settlements, file]
  obtain ⟨firstLeft, laterLeft, left, left'⟩ := moves.unmatchedObligations
  have direct' : ¬requestRoutes deps next := by
    rintro ⟨enabled, -, strays⟩
    refine direct ⟨enabled, ?_, moves.unmatchedSettlements ▸ strays⟩
    rw [left]
    exact List.append_ne_nil_of_right_ne_nil _ (List.cons_ne_nil _ _)
  obtain ⟨matched, exceptions⟩ := requestSorted_of_direct direct before
  obtain ⟨matched', exceptions'⟩ := requestSorted_of_direct direct' start
  intro old new
  refine ⟨?_, ?_⟩
  · rw [matched, matched']
    exact moves.matched
  · rw [exceptions, exceptions', dated, orders, moves.exceptions, moves.unmatchedSettlements, left, left']
    unfold classifyLeftovers
    rw [List.map_append, List.map_append, List.map_cons]
    exact split_around ..

/-- Two unpaid cash orders, evaluated on one date. -/
def unpaidOrders : RunRequest where
  orders := [makeOrder "O1", makeOrder "O2" ⟨20000⟩]
  settlements := []
  asOfDate := some (defaultDate + 2)
  runId := some "run-1"

/-- The settlement of the first one. -/
def arrivedSettlement : Settlement :=
  { makeSettlement "ST1" (some "O1") none ⟨50000⟩ with paymentType := .cash }

end ReconcileFlow
