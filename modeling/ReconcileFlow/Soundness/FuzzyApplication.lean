import ReconcileFlow.Model.Nodes
import ReconcileFlow.ToMathlib.Reports

/-! # What the pairing loop does

The pairing loop is read off its actions: each pairing that finds both of its rows and clears a
threshold acts on them once, and the rows it acted on leave the tables. The account holds for every
list of pairings, whatever ids they repeat, invent or leave out.
-/

namespace ReconcileFlow

/-- A pairing the loop acted on, with the rows it found. -/
structure FuzzyAction where
  obligation : Obligation
  settlement : Settlement
  pairing : FuzzyPairing
  /-- Matched automatically, or flagged for review. -/
  autoApplied : Bool
deriving DecidableEq

namespace FuzzyAction

/-- The pair appended to `matched`. -/
def matched? (action : FuzzyAction) : Option MatchedPair :=
  if action.autoApplied then some ⟨action.obligation, action.settlement⟩ else none

/-- The exception appended to `exceptions`. -/
def review? (action : FuzzyAction) : Option ExceptionRecord :=
  if action.autoApplied then none
  else some (fuzzyReviewException action.obligation action.settlement action.pairing.rationale)

/-- An action has exactly one effect. -/
theorem exactly_one (action : FuzzyAction) :
    action.matched?.toList.length + action.review?.toList.length = 1 := by
  cases auto : action.autoApplied <;> simp [matched?, review?, auto]

end FuzzyAction

/-- The action of one pairing, if it has one. -/
def pairingAction (thresholds : FuzzyMatchConfig) (state : FuzzyState) (pairing : FuzzyPairing) :
    Option FuzzyAction :=
  match state.named pairing with
  | none => none
  | some (obligation, settlement) =>
    if pairing.confidence ≥ thresholds.autoApplyThreshold then
      some ⟨obligation, settlement, pairing, true⟩
    else if pairing.confidence ≥ thresholds.reviewThreshold then
      some ⟨obligation, settlement, pairing, false⟩
    else none

/-- The actions of the loop, in order. -/
def pairingActions (thresholds : FuzzyMatchConfig) : FuzzyState → List FuzzyPairing → List FuzzyAction
  | _, [] => []
  | state, pairing :: rest =>
    (pairingAction thresholds state pairing).toList ++
      pairingActions thresholds (applyPairing thresholds state pairing) rest

theorem named_eq_some_iff {state : FuzzyState} {pairing : FuzzyPairing} {obligation : Obligation}
    {settlement : Settlement} : state.named pairing = some (obligation, settlement) ↔
      pairing.orderId = some obligation.orderId ∧ pairing.settlementId = some settlement.settlementId ∧
      obligation ∈ state.oblByOrder.rows ∧ settlement ∈ state.settleById.rows := by
  unfold FuzzyState.named
  cases order : pairing.orderId with
  | none => simp
  | some orderId =>
    cases settle : pairing.settlementId with
    | none => simp
    | some settlementId =>
      dsimp only
      cases foundObligation : state.oblByOrder.find? orderId with
      | none =>
        simp only [reduceCtorEq, Option.some.injEq, false_iff, not_and]
        rintro rfl - member
        exact absurd rfl (KeyedTable.find?_eq_none_iff.mp foundObligation obligation member)
      | some foundO =>
        obtain ⟨memberO, rfl⟩ := KeyedTable.find?_eq_some_iff.mp foundObligation
        cases foundSettlement : state.settleById.find? settlementId with
        | none =>
          simp only [reduceCtorEq, Option.some.injEq, false_iff, not_and]
          rintro - rfl - member
          exact absurd rfl (KeyedTable.find?_eq_none_iff.mp foundSettlement settlement member)
        | some foundS =>
          obtain ⟨memberS, rfl⟩ := KeyedTable.find?_eq_some_iff.mp foundSettlement
          simp only [Option.some.injEq, Prod.mk.injEq]
          constructor
          · rintro ⟨rfl, rfl⟩
            exact ⟨rfl, rfl, memberO, memberS⟩
          · rintro ⟨sameO, sameS, presentO, presentS⟩
            exact ⟨state.oblByOrder.eq_of_key_eq memberO presentO sameO,
              state.settleById.eq_of_key_eq memberS presentS sameS⟩

/-- What an action says about its pairing, its rows and the thresholds. -/
theorem pairingAction_eq_some_iff {thresholds : FuzzyMatchConfig} {state : FuzzyState}
    {pairing : FuzzyPairing} {action : FuzzyAction} :
    pairingAction thresholds state pairing = some action ↔
      state.named pairing = some (action.obligation, action.settlement) ∧ action.pairing = pairing ∧
      if action.autoApplied then pairing.confidence ≥ thresholds.autoApplyThreshold
      else ¬ pairing.confidence ≥ thresholds.autoApplyThreshold ∧
        pairing.confidence ≥ thresholds.reviewThreshold := by
  obtain ⟨obligation, settlement, source, auto⟩ := action
  unfold pairingAction
  cases found : state.named pairing with
  | none => simp
  | some rows =>
    obtain ⟨foundO, foundS⟩ := rows
    dsimp only
    by_cases high : pairing.confidence ≥ thresholds.autoApplyThreshold
    · rw [if_pos high]
      cases auto <;> simp [high, and_assoc, eq_comm]
    · rw [if_neg high]
      by_cases middle : pairing.confidence ≥ thresholds.reviewThreshold
      · rw [if_pos middle]
        cases auto <;> simp [high, middle, and_assoc, eq_comm]
      · rw [if_neg middle]
        cases auto <;> simp [high, middle]

/-- The account of a stretch of the loop: what it appended, and which rows left the tables. -/
structure FuzzyAccount (before : FuzzyState) (actions : List FuzzyAction) (after : FuzzyState) : Prop where
  matched : after.matched = before.matched ++ actions.filterMap FuzzyAction.matched?
  exceptions : after.exceptions = before.exceptions ++ actions.filterMap FuzzyAction.review?
  obligations : before.oblByOrder.rows.Perm
    (actions.map FuzzyAction.obligation ++ after.oblByOrder.rows)
  settlements : before.settleById.rows.Perm
    (actions.map FuzzyAction.settlement ++ after.settleById.rows)
  oblSublist : after.oblByOrder.rows.Sublist before.oblByOrder.rows
  settleSublist : after.settleById.rows.Sublist before.settleById.rows

theorem FuzzyAccount.refl (state : FuzzyState) : FuzzyAccount state [] state :=
  ⟨(List.append_nil _).symm, (List.append_nil _).symm, .refl _, .refl _, .refl _, .refl _⟩

theorem FuzzyAccount.trans {before between after : FuzzyState} {first second : List FuzzyAction}
    (start : FuzzyAccount before first between) (next : FuzzyAccount between second after) :
    FuzzyAccount before (first ++ second) after where
  matched := by rw [next.matched, start.matched, List.filterMap_append, List.append_assoc]
  exceptions := by rw [next.exceptions, start.exceptions, List.filterMap_append, List.append_assoc]
  obligations := by
    rw [List.map_append, List.append_assoc]
    exact start.obligations.trans (next.obligations.append_left _)
  settlements := by
    rw [List.map_append, List.append_assoc]
    exact start.settlements.trans (next.settlements.append_left _)
  oblSublist := next.oblSublist.trans start.oblSublist
  settleSublist := next.settleSublist.trans start.settleSublist

theorem applyPairing_account (thresholds : FuzzyMatchConfig) (state : FuzzyState)
    (pairing : FuzzyPairing) : FuzzyAccount state (pairingAction thresholds state pairing).toList
      (applyPairing thresholds state pairing) := by
  unfold applyPairing pairingAction
  cases found : state.named pairing with
  | none => exact .refl state
  | some rows =>
    obtain ⟨obligation, settlement⟩ := rows
    obtain ⟨-, -, presentO, presentS⟩ := named_eq_some_iff.mp found
    have oblFound := KeyedTable.find?_eq_some_iff.mpr ⟨presentO, rfl⟩
    have settleFound := KeyedTable.find?_eq_some_iff.mpr ⟨presentS, rfl⟩
    dsimp only
    split_ifs
    · exact ⟨rfl, (List.append_nil _).symm, KeyedTable.perm_cons_erase oblFound,
        KeyedTable.perm_cons_erase settleFound, KeyedTable.erase_sublist _ _,
        KeyedTable.erase_sublist _ _⟩
    · exact ⟨(List.append_nil _).symm, rfl, KeyedTable.perm_cons_erase oblFound,
        KeyedTable.perm_cons_erase settleFound, KeyedTable.erase_sublist _ _,
        KeyedTable.erase_sublist _ _⟩
    · exact .refl state

/-- The whole loop is accounted for by its actions. -/
theorem foldl_applyPairing_account (thresholds : FuzzyMatchConfig) (state : FuzzyState)
    (pairings : List FuzzyPairing) : FuzzyAccount state (pairingActions thresholds state pairings)
      (pairings.foldl (applyPairing thresholds) state) := by
  induction pairings generalizing state with
  | nil => exact .refl state
  | cons pairing rest ih => exact (applyPairing_account thresholds state pairing).trans (ih _)

/-- An account of the pairs and the open rows of one side carries over the loop. -/
theorem FuzzyAccount.accounts {α : Type} {holds : ExceptionRecord → List α → Prop}
    {paired : MatchedPair → α} {acted : FuzzyAction → α} {before after : FuzzyState}
    {actions : List FuzzyAction} (loop : FuzzyAccount before actions after)
    (each : ∀ action : FuzzyAction, Reports.Accounts holds [acted action]
      (action.matched?.toList.map paired) action.review?.toList)
    {items openBefore openAfter : List α} (rows : openBefore.Perm (actions.map acted ++ openAfter))
    (account : Reports.Accounts holds items (before.matched.map paired ++ openBefore) before.exceptions) :
    Reports.Accounts holds items (after.matched.map paired ++ openAfter) after.exceptions := by
  have acts := Reports.accounts_filterMap fun action (_ : action ∈ actions) => each action
  rw [← List.map_eq_flatMap] at acts
  have further := acts.append (Reports.accounts_listed openAfter)
  rw [List.append_nil] at further
  have refined := account.refine (further.perm rows)
  rw [loop.matched, loop.exceptions, List.map_append, List.append_assoc]
  exact refined

/-- An action happens at one pairing, in the state the earlier pairings left. -/
theorem mem_pairingActions_iff {thresholds : FuzzyMatchConfig} {state : FuzzyState}
    {pairings : List FuzzyPairing} {action : FuzzyAction} :
    action ∈ pairingActions thresholds state pairings ↔
      ∃ prior pairing later, pairings = prior ++ pairing :: later ∧
        pairingAction thresholds (prior.foldl (applyPairing thresholds) state) pairing = some action := by
  induction pairings generalizing state with
  | nil => simp [pairingActions]
  | cons head rest ih =>
    rw [pairingActions, List.mem_append, Option.mem_toList, ih]
    constructor
    · rintro (now | ⟨prior, pairing, later, rfl, acts⟩)
      · exact ⟨[], head, rest, rfl, now⟩
      · exact ⟨head :: prior, pairing, later, rfl, acts⟩
    · rintro ⟨prior, pairing, later, split, acts⟩
      cases prior with
      | nil =>
        obtain ⟨rfl, rfl⟩ := List.cons.inj split
        exact Or.inl acts
      | cons first prior =>
        obtain ⟨rfl, rfl⟩ := List.cons.inj split
        exact Or.inr ⟨prior, pairing, later, rfl, acts⟩

/-- A pairing without an action leaves the state alone. -/
theorem applyPairing_of_none {thresholds : FuzzyMatchConfig} {state : FuzzyState} {pairing : FuzzyPairing}
    (idle : pairingAction thresholds state pairing = none) : applyPairing thresholds state pairing = state := by
  unfold pairingAction at idle
  unfold applyPairing
  cases found : state.named pairing with
  | none => rfl
  | some rows =>
    rw [found] at idle
    dsimp only at idle ⊢
    split_ifs at idle ⊢
    rfl

/-- The loop does nothing when no pairing has an action at its start. -/
theorem pairingActions_eq_nil_iff {thresholds : FuzzyMatchConfig} {state : FuzzyState}
    {pairings : List FuzzyPairing} : pairingActions thresholds state pairings = [] ↔
      ∀ pairing ∈ pairings, pairingAction thresholds state pairing = none := by
  induction pairings with
  | nil => simp [pairingActions]
  | cons pairing rest ih =>
    rw [pairingActions, List.append_eq_nil_iff, Option.toList_eq_nil_iff, List.forall_mem_cons]
    refine and_congr_right fun idle => ?_
    rw [applyPairing_of_none idle]
    exact ih

end ReconcileFlow
