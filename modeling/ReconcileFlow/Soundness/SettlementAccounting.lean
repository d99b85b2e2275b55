import ReconcileFlow.Model.Offline
import ReconcileFlow.Soundness.FuzzyApplication
import ReconcileFlow.Soundness.KeyMatching
import ReconcileFlow.Soundness.ObligationBuilding
import ReconcileFlow.Soundness.Pipeline
import ReconcileFlow.ToMathlib.Numerals
import ReconcileFlow.ToMathlib.Reports

/-! # Where every settlement row ends

A settlement row is the settlement of a matched pair, is held by an exception, or was lost. Key
matching loses a row only when it spends the row's settlement id without looking the row up
(`represents_iff`). With distinct settlement ids nothing is lost at any stage, so a completed run
splits the settlements exactly (`Completes.settlements_accounted`).
-/

namespace ReconcileFlow

open Allocation Reports

variable {ω : Type}

/-- Reasons of the exceptions that stand for one settlement. -/
def holdsOne : ExceptionReason → Bool
  | .amountShort | .amountExcess | .fuzzyMatchReview | .unmatchedSettlement => true
  | _ => false

/-- Reasons of the exceptions that stand for no settlement. -/
def holdsNone : ExceptionReason → Bool
  | .cashMissing | .onlineMissing | .lateSettlement | .orderSumMismatch => true
  | _ => false

/-- The settlement rows an exception stands for, as its fields show them. -/
inductive HoldsRows (exception : ExceptionRecord) : List Settlement → Prop
  | one {settlement : Settlement} (reason : holdsOne exception.reason = true)
      (quoted : exception.settlementId = some settlement.settlementId)
      (amount : exception.actualAmount = some settlement.amount) : HoldsRows exception [settlement]
  | group {first second : Settlement} {rest : List Settlement}
      (reason : exception.reason = .duplicateSettlement)
      (quoted : exception.settlementId = some first.settlementId)
      (amount : exception.actualAmount = some first.amount)
      (named : exception.detail = some (duplicateDetail (first :: second :: rest))) :
      HoldsRows exception (first :: second :: rest)
  | none (reason : holdsNone exception.reason = true) (quoted : exception.settlementId = none) :
      HoldsRows exception []

/-- The detail text starts with the size of its group. -/
private theorem toList_duplicateDetail (rows : List Settlement) :
    (duplicateDetail rows).toList = (toString rows.length).toList ++
      ' ' :: ("settlements satisfy this obligation: " ++
        ", ".intercalate (rows.map Settlement.settlementId) ++ ".").toList := by
  simp [duplicateDetail, String.toList_append]

theorem length_eq_of_duplicateDetail {left right : List Settlement}
    (same : duplicateDetail left = duplicateDetail right) : left.length = right.length := by
  have texts := congrArg String.toList same
  rw [toList_duplicateDetail, toList_duplicateDetail] at texts
  exact Numerals.eq_of_numeral (by decide) (by decide) texts

/-- An exception determines how many rows it holds. -/
theorem HoldsRows.length_eq (exception : ExceptionRecord) (rows rows' : List Settlement)
    (first : HoldsRows exception rows) (second : HoldsRows exception rows') :
    rows.length = rows'.length := by
  cases first with
  | one reason =>
    cases second with
    | one => rfl
    | group reason' => simp [reason', holdsOne] at reason
    | none reason' => cases kind : exception.reason <;> simp [kind, holdsOne, holdsNone] at reason reason'
  | group reason _ _ named =>
    cases second with
    | one reason' => simp [reason, holdsOne] at reason'
    | group _ _ _ named' => exact length_eq_of_duplicateDetail (Option.some.inj (named.symm.trans named'))
    | none reason' => simp [reason, holdsNone] at reason'
  | none reason =>
    cases second with
    | one reason' => cases kind : exception.reason <;> simp [kind, holdsOne, holdsNone] at reason reason'
    | group reason' => simp [reason', holdsNone] at reason
    | none => rfl

/-- The exception of a turn holds the rows of the turn. A duplicate group has at least two. -/
theorem KeyOutcome.exception_holds (tolerance : ℚ) {obligation : Obligation} {picked : List Settlement}
    {exception : ExceptionRecord}
    (raised : (ofTurn tolerance obligation picked).exception? obligation = some exception) :
    HoldsRows exception picked := by
  match picked with
  | [] => cases raised
  | [settlement] =>
    dsimp only [ofTurn, exception?] at raised
    split_ifs at raised with same
    cases raised
    refine .one ?_ rfl rfl
    simp only [amountException]
    rcases amountStatus_cases obligation.expectedAmount settlement.amount tolerance with
      status | status | status
    · exact (same status).elim
    · rw [status]
      rfl
    · rw [status]
      rfl
  | first :: second :: rest =>
    cases raised
    exact .group rfl rfl rfl rfl

theorem ofTurn_rows_accounts (tolerance : ℚ) (obligation : Obligation) (picked : List Settlement) :
    let outcome := KeyOutcome.ofTurn tolerance obligation picked
    Accounts HoldsRows picked ((outcome.matched? obligation).toList.map MatchedPair.settlement)
      (outcome.exception? obligation).toList := by
  match picked with
  | [] => exact accounts_nil
  | [settlement] =>
    dsimp only [KeyOutcome.ofTurn, KeyOutcome.matched?, KeyOutcome.exception?]
    split_ifs with same
    · exact accounts_listed [settlement]
    · exact accounts_report (KeyOutcome.exception_holds tolerance (if_neg same))
  | first :: second :: rest => exact accounts_report (KeyOutcome.exception_holds tolerance rfl)

/-- The rows consumed by key matching are matched or held by its exceptions. -/
theorem keyTurns_accounts (obligations : List Obligation) (settlements : List Settlement)
    (tolerance : ℚ) :
    Accounts HoldsRows ((keyTurns settlements ∅ obligations).flatMap Prod.snd)
      ((reconcileKeys obligations settlements tolerance).matched.map MatchedPair.settlement)
      (reconcileKeys obligations settlements tolerance).exceptions := by
  rw [reconcileKeys_eq]
  dsimp only
  rw [keyOutcomes, List.filterMap_map, List.filterMap_map]
  exact accounts_filterMap fun turn _ => ofTurn_rows_accounts tolerance turn.1 turn.2

/-- Every row that key matching still shows: consumed by some obligation or left over. -/
def keyRepresented (obligations : List Obligation) (settlements : List Settlement) : List Settlement :=
  represented Settlement.settlementId (candidates (indexSettlements settlements)) settlements ∅ obligations

theorem keyRepresented_eq (obligations : List Obligation) (settlements : List Settlement)
    (tolerance : ℚ) : keyRepresented obligations settlements =
      (keyTurns settlements ∅ obligations).flatMap Prod.snd ++
        (reconcileKeys obligations settlements tolerance).unmatchedSettlements := by
  rw [reconcileKeys_eq]
  rfl

/-- Whenever an obligation is served, each row of the file that carries the settlement id of one of
its candidates is a candidate itself. -/
def RepeatsTogether (obligations : List Obligation) (settlements : List Settlement) : Prop :=
  ∀ prior obligation later, obligations = prior ++ obligation :: later →
    let found := candidates (indexSettlements settlements) (keySpent settlements ∅ prior) obligation
    ∀ row ∈ settlements, (∃ candidate ∈ found, candidate.settlementId = row.settlementId) → row ∈ found

theorem keyRepresented_perm_iff (obligations : List Obligation) (settlements : List Settlement) :
    (keyRepresented obligations settlements).Perm settlements ↔
      RepeatsTogether obligations settlements := by
  have all : settlements.filter (fun row => decide (row.settlementId ∉ (∅ : Finset String))) = settlements := by
    simp
  have closed := represented_perm_iff Settlement.settlementId (candidates_fresh settlements)
    (candidates_select settlements) ∅ obligations
  rw [all, atEveryTurn_iff] at closed
  unfold keyRepresented
  rw [closed]
  simp only [Closed, mem_idents]
  rfl

theorem keyRepresented_subperm (obligations : List Obligation) (settlements : List Settlement) :
    (keyRepresented obligations settlements).Subperm settlements := by
  have shown := represented_subperm Settlement.settlementId (candidates_fresh settlements)
    (candidates_select settlements) ∅ obligations
  unfold keyRepresented
  simpa using shown

/-- Distinct settlement ids are never spent without their row. -/
theorem repeatsTogether_of_nodup (obligations : List Obligation) {settlements : List Settlement}
    (distinct : (settlements.map Settlement.settlementId).Nodup) :
    RepeatsTogether obligations settlements := by
  intro prior obligation later _ found row member picked
  obtain ⟨candidate, present, same⟩ := picked
  have candidateMember := (mem_candidates present).1
  rwa [← List.inj_on_of_nodup_map distinct candidateMember member same]

/-- Every settlement row, counted with multiplicity, is matched, held by an exception, or left over
with an exception of its own. -/
def Represents (settlements : List Settlement) (asOfDate : Date) (result : KeyMatchResult) : Prop :=
  ∃ others shown,
    result.exceptions = others ++ result.unmatchedSettlements.map (unmatchedSettlementException asOfDate) ∧
    Accounts HoldsRows shown
      (result.matched.map MatchedPair.settlement ++ result.unmatchedSettlements) others ∧
    settlements.Subperm shown

theorem missing_holds (graceDays : PaymentType → Option ℤ) (asOfDate : Date) (obligation : Obligation) :
    HoldsRows (missingObligationException graceDays asOfDate obligation) [] := by
  refine .none ?_ rfl
  unfold missingObligationException
  dsimp only
  split_ifs <;> rfl

theorem unmatchedSettlement_holds (asOfDate : Date) (settlement : Settlement) :
    HoldsRows (unmatchedSettlementException asOfDate settlement) [settlement] := .one rfl rfl rfl

/-- The account of `reconcile`, without the exceptions of the left-over settlements. -/
theorem reconcile_accounts (obligations : List Obligation) (settlements : List Settlement)
    (config : AppConfig) (asOfDate : Date) :
    let result := reconcile obligations settlements config asOfDate
    ∃ others,
      result.exceptions =
        others ++ result.unmatchedSettlements.map (unmatchedSettlementException asOfDate) ∧
      Accounts HoldsRows (keyRepresented obligations settlements)
        (result.matched.map MatchedPair.settlement ++ result.unmatchedSettlements) others := by
  intro result
  let keyResult := reconcileKeys obligations settlements config.reconciliation.amountTolerance
  refine ⟨keyResult.exceptions ++ keyResult.unmatchedObligations.map
    (missingObligationException config.reconciliation.slaGraceDays asOfDate), ?_, ?_⟩
  · exact (List.append_assoc _ _ _).symm
  · have silent : Accounts HoldsRows [] [] (keyResult.unmatchedObligations.map
        (missingObligationException config.reconciliation.slaGraceDays asOfDate)) := by
      refine accounts_silent fun exception member => ?_
      obtain ⟨obligation, -, rfl⟩ := List.mem_map.mp member
      exact missing_holds _ _ obligation
    have consumed := keyTurns_accounts obligations settlements config.reconciliation.amountTolerance
    have left : Accounts HoldsRows keyResult.unmatchedSettlements _ [] := accounts_listed _
    rw [keyRepresented_eq obligations settlements config.reconciliation.amountTolerance]
    have all := (consumed.append left).append silent
    rwa [List.append_nil, List.append_nil, List.append_nil] at all

/-- Every row is represented exactly when no row is missing from the rows key matching shows. -/
theorem represents_iff_length (obligations : List Obligation) (settlements : List Settlement)
    (config : AppConfig) (asOfDate : Date) :
    Represents settlements asOfDate (reconcile obligations settlements config asOfDate) ↔
      settlements.length ≤ (keyRepresented obligations settlements).length := by
  obtain ⟨others, split, account⟩ := reconcile_accounts obligations settlements config asOfDate
  constructor
  · rintro ⟨others', shown, split', account', represented⟩
    have same : others' = others := List.append_cancel_right (split'.symm.trans split)
    subst same
    rw [← account'.length_eq HoldsRows.length_eq account]
    exact represented.length_le
  · intro enough
    have perm := (keyRepresented_subperm obligations settlements).perm_of_length_le enough
    exact ⟨others, _, split, account, perm.symm.subperm⟩

/-- A repeated settlement id hides no row exactly when repeated ids are looked up together. -/
theorem represents_iff (obligations : List Obligation) (settlements : List Settlement)
    (config : AppConfig) (asOfDate : Date) :
    Represents settlements asOfDate (reconcile obligations settlements config asOfDate) ↔
      RepeatsTogether obligations settlements := by
  rw [represents_iff_length, ← keyRepresented_perm_iff]
  exact ⟨(keyRepresented_subperm obligations settlements).perm_of_length_le,
    fun perm => perm.symm.length_eq.le⟩

/-- Two rows share `ST1`; only the first carries the obligation's transaction id, and matching it
spends the id of the other. -/
theorem repeated_settlement_hidden :
    ¬ Represents [makeSettlement "ST1" none (some "TXN1"), makeSettlement "ST1" none (some "TXN9") ⟨70000⟩]
      (defaultDate + 2)
      (reconcile [makeObligation "O1" "TXN1"]
        [makeSettlement "ST1" none (some "TXN1"), makeSettlement "ST1" none (some "TXN9") ⟨70000⟩]
        shippedConfig (defaultDate + 2)) := by
  rw [represents_iff_length]
  decide +kernel

/-! ## The whole pipeline -/

/-- In a state of the pipeline, every settlement row is matched, still open, or held by an exception. -/
def RowsAccounted (settlements : List Settlement) (state : ReconciliationState) : Prop :=
  Accounts HoldsRows settlements
    (state.matched.map MatchedPair.settlement ++ state.unmatchedSettlements) state.exceptions

theorem afterKeys_rows (config : AppConfig) {state : ReconciliationState}
    (distinct : (state.settlements.map Settlement.settlementId).Nodup)
    (silent : ∀ exception ∈ state.orderSumExceptions, HoldsRows exception []) :
    RowsAccounted state.settlements (afterKeys config state) := by
  have consumed := keyTurns_accounts state.obligations state.settlements
    config.reconciliation.amountTolerance
  have open_ : Accounts HoldsRows (reconcileKeys state.obligations state.settlements
      config.reconciliation.amountTolerance).unmatchedSettlements _ [] := accounts_listed _
  have all := (accounts_silent silent).append (consumed.append open_)
  rw [List.nil_append, List.nil_append, List.append_nil, ← keyRepresented_eq] at all
  exact all.perm
    ((keyRepresented_perm_iff _ _).mpr (repeatsTogether_of_nodup state.obligations distinct)).symm

theorem action_rows (action : FuzzyAction) : Accounts HoldsRows [action.settlement]
    (action.matched?.toList.map MatchedPair.settlement) action.review?.toList := by
  unfold FuzzyAction.matched? FuzzyAction.review?
  split_ifs
  · exact accounts_listed [action.settlement]
  · exact accounts_report (.one rfl rfl rfl)

theorem afterPairings_rows {thresholds : FuzzyMatchConfig} {pairings : List FuzzyPairing}
    {settlements : List Settlement} {state : ReconciliationState}
    (accounted : RowsAccounted settlements state)
    (distinct : (state.unmatchedSettlements.map Settlement.settlementId).Nodup) :
    RowsAccounted settlements (afterPairings thresholds pairings state) := by
  have loop := foldl_applyPairing_account thresholds (initialFuzzyState state) (byConfidence pairings)
  have rows : (initialFuzzyState state).settleById.rows = state.unmatchedSettlements :=
    KeyedTable.rows_ofList_of_nodup distinct
  exact loop.accounts action_rows (rows ▸ loop.settlements) accounted

theorem afterLeftovers_rows {config : AppConfig} {settlements : List Settlement}
    {state : ReconciliationState} (accounted : RowsAccounted settlements state) :
    Accounts HoldsRows settlements (state.matched.map MatchedPair.settlement)
      (afterLeftovers config state).exceptions := by
  have missing : Accounts HoldsRows [] [] (state.unmatchedObligations.map
      (missingObligationException config.reconciliation.slaGraceDays state.asOfDate)) := by
    refine accounts_silent fun exception member => ?_
    obtain ⟨obligation, -, rfl⟩ := List.mem_map.mp member
    exact missing_holds _ _ obligation
  have stray : Accounts HoldsRows (state.unmatchedSettlements.map id) [] (state.unmatchedSettlements.map
      (unmatchedSettlementException state.asOfDate)) :=
    accounts_map fun settlement _ => unmatchedSettlement_holds _ settlement
  rw [List.map_id] at stray
  have refined := Accounts.refine accounted (missing.append stray)
  rwa [List.append_nil, List.append_nil] at refined

theorem orderSumExceptions_hold {orders : List Order} {tolerance : ℚ} :
    ∀ exception ∈ (buildObligations orders tolerance).orderSumExceptions, HoldsRows exception [] := by
  intro exception member
  obtain ⟨reason, -, settlement, -⟩ := orderSumExceptions_fields member
  exact .none (by rw [reason]; rfl) settlement

theorem sortedState_rows (deps : AgentDependencies ω) {initial : ReconciliationState}
    (reply : Except Raised FuzzyProposal)
    (distinct : (initial.settlements.map Settlement.settlementId).Nodup)
    (silent : ∀ exception ∈ initial.orderSumExceptions, HoldsRows exception []) :
    Accounts HoldsRows initial.settlements
      ((sortedState deps initial reply).matched.map MatchedPair.settlement)
      (sortedState deps initial reply).exceptions := by
  have keyed := afterKeys_rows deps.config distinct silent
  refine afterLeftovers_rows ?_
  unfold afterFuzzyEdge
  split
  · refine afterPairings_rows keyed (List.Nodup.sublist (List.Sublist.map _ ?_) distinct)
    exact List.filter_sublist
  · exact keyed

/-- On distinct settlement ids, the nodes up to classification return whatever the LLM replies, and
then every settlement is in exactly one matched pair or held by exactly one exception. -/
theorem sortNodes_settlements_accounted (deps : AgentDependencies ω) (request : RunRequest)
    (runId : String) (asOfDate : Date) (before : Sys ω)
    (distinct : (request.settlements.map Settlement.settlementId).Nodup) :
    ∃ state after,
      (sortNodes deps (initialState deps.config request runId asOfDate)).run before = .ok state after ∧
      Accounts HoldsRows request.settlements (state.matched.map MatchedPair.settlement)
        state.exceptions := by
  obtain ⟨after, sorted, -⟩ := sortNodes_run deps (initialState deps.config request runId asOfDate) before
  exact ⟨_, after, sorted, sortedState_rows deps _ distinct orderSumExceptions_hold⟩

theorem sortNodes_settlements_accounted_stray :
    ∃ state after,
      (sortNodes (scriptedDependencies (.ok {}))
        (initialState shippedConfig strayRequest "run-1" (defaultDate + 2))).run emptyStart =
          .ok state after ∧
      Accounts HoldsRows strayRequest.settlements (state.matched.map MatchedPair.settlement)
        state.exceptions :=
  sortNodes_settlements_accounted _ strayRequest "run-1" (defaultDate + 2) emptyStart (by decide)

/-- The later nodes leave that account as it is. -/
theorem ReconciliationAgent.Completes.settlements_accounted {deps : AgentDependencies ω}
    {request : RunRequest} {before after : Sys ω} {final : ReconciliationState} {outcome : RunOutcome}
    (completes : Completes deps request before final outcome after)
    (distinct : (request.settlements.map Settlement.settlementId).Nodup) :
    Accounts HoldsRows request.settlements (final.matched.map MatchedPair.settlement) final.exceptions := by
  obtain ⟨runId, asOf, -, sorted⟩ := completes.sorted
  rw [sorted]
  exact sortedState_rows deps _ distinct orderSumExceptions_hold

end ReconcileFlow
