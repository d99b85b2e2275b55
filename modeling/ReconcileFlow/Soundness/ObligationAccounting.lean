import ReconcileFlow.Model.Offline
import ReconcileFlow.Soundness.FuzzyApplication
import ReconcileFlow.Soundness.KeyMatching
import ReconcileFlow.Soundness.ObligationBuilding
import ReconcileFlow.Soundness.Pipeline

/-! # Where every placed row ends

Each placed row becomes one obligation. Key matching and classification keep every obligation in
view, matched, open or under one exception. The pairing loop keeps its open obligations in a
dictionary keyed by `order_id`, so it loses one for every repetition of an order id: a completed
run accounts for its placed rows exactly when the loop is not entered or no two obligations it
starts from share an order id (`Completes.accounted_iff`).
-/

namespace ReconcileFlow

open Reports

variable {ω : Type}

/-- Reasons of the exceptions that are about one obligation. -/
def concernsObligation : ExceptionReason → Bool
  | .orderSumMismatch | .unmatchedSettlement => false
  | _ => true

/-- The obligations an exception is about, as its fields show them. -/
inductive Concerns (exception : ExceptionRecord) : List Obligation → Prop
  | one {obligation : Obligation} (reason : concernsObligation exception.reason = true)
      (order : exception.orderId = some obligation.orderId)
      (paymentType : exception.paymentType = some obligation.paymentType)
      (store : exception.storeId = some obligation.storeId)
      (gateway : exception.paymentGateway = obligation.paymentGateway)
      (expected : exception.expectedAmount = some obligation.expectedAmount) :
      Concerns exception [obligation]
  | none (reason : concernsObligation exception.reason = false) : Concerns exception []

/-- The reason of an exception says how many obligations it is about. -/
theorem Concerns.length {exception : ExceptionRecord} {obligations : List Obligation}
    (concerns : Concerns exception obligations) :
    obligations.length = (concernsObligation exception.reason).toNat := by
  cases concerns with
  | one reason => rw [reason]; rfl
  | none reason => rw [reason]; rfl

/-- The placed rows are accounted for: each one's obligation is the obligation of one matched pair
or the subject of one exception. -/
def Accounted (orders : List Order) (final : ReconciliationState) : Prop :=
  ∃ rows obligations, rows.Perm (placed orders) ∧ List.Forall₂ BuiltFrom rows obligations ∧
    Accounts Concerns obligations (final.matched.map MatchedPair.obligation) final.exceptions

/-- Every report stands for as many items as its reason says. -/
theorem length_of_accounts {obligations listed : List Obligation} {exceptions : List ExceptionRecord}
    (account : Accounts Concerns obligations listed exceptions) :
    obligations.length =
      listed.length + exceptions.countP (fun exception => concernsObligation exception.reason) := by
  obtain ⟨held, stands, split⟩ := account
  rw [split.length_eq, List.length_append]
  congr 1
  clear split
  induction stands with
  | nil => rfl
  | cons first _ ih =>
    rw [List.flatten_cons, List.length_append, ih, first.length, List.countP_cons]
    cases concernsObligation _ <;> simp [Nat.add_comm]

/-- When the placed rows are accounted for, they are as many as the matched pairs and the exceptions
about obligations. -/
theorem Accounted.length {orders : List Order} {final : ReconciliationState}
    (accounted : Accounted orders final) :
    (placed orders).length = final.matched.length +
      final.exceptions.countP (fun exception => concernsObligation exception.reason) := by
  obtain ⟨rows, obligations, perm, built, account⟩ := accounted
  rw [← perm.length_eq, built.length_eq, length_of_accounts account, List.length_map]

theorem outcome_accounts (obligation : Obligation) (outcome : KeyOutcome) :
    Accounts Concerns [obligation]
      ((outcome.matched? obligation).toList.map MatchedPair.obligation ++
        (outcome.leftover? obligation).toList)
      (outcome.exception? obligation).toList := by
  cases outcome with
  | single settlement status =>
    dsimp only [KeyOutcome.matched?, KeyOutcome.exception?, KeyOutcome.leftover?]
    split_ifs
    · exact accounts_listed [obligation]
    · refine accounts_report (.one ?_ rfl rfl rfl rfl rfl)
      cases status <;> rfl
  | duplicate first rest => exact accounts_report (.one rfl rfl rfl rfl rfl rfl)
  | unmatched => exact accounts_listed [obligation]

/-- Key matching leaves every obligation matched, open or under one exception. -/
theorem reconcileKeys_accounts (obligations : List Obligation) (settlements : List Settlement)
    (tolerance : ℚ) :
    let result := reconcileKeys obligations settlements tolerance
    Accounts Concerns obligations
      (result.matched.map MatchedPair.obligation ++ result.unmatchedObligations) result.exceptions := by
  have each := accounts_flatMap fun entry (_ : entry ∈ keyOutcomes settlements tolerance ∅ obligations) =>
    outcome_accounts entry.1 entry.2
  have items : (keyOutcomes settlements tolerance ∅ obligations).flatMap (fun entry => [entry.1]) =
      obligations := by
    rw [← List.map_eq_flatMap]
    exact map_fst_keyOutcomes _ _ _ _
  rw [items] at each
  rw [reconcileKeys_eq]
  dsimp only
  rw [List.filterMap_eq_flatMap_toList, List.filterMap_eq_flatMap_toList,
    List.filterMap_eq_flatMap_toList, List.map_flatMap]
  exact each.perm_listed (List.flatMap_append_perm _ _ _).symm

/-- In a state of the pipeline, every obligation is matched, open, or the subject of an exception. -/
def ObligationsAccounted (obligations : List Obligation) (state : ReconciliationState) : Prop :=
  Accounts Concerns obligations
    (state.matched.map MatchedPair.obligation ++ state.unmatchedObligations) state.exceptions

theorem afterKeys_obligations (config : AppConfig) {state : ReconciliationState}
    (silent : ∀ exception ∈ state.orderSumExceptions, Concerns exception []) :
    ObligationsAccounted state.obligations (afterKeys config state) := by
  have keyed := reconcileKeys_accounts state.obligations state.settlements
    config.reconciliation.amountTolerance
  exact (accounts_silent silent).append keyed

theorem action_obligations (action : FuzzyAction) : Accounts Concerns [action.obligation]
    (action.matched?.toList.map MatchedPair.obligation) action.review?.toList := by
  unfold FuzzyAction.matched? FuzzyAction.review?
  split_ifs
  · exact accounts_listed [action.obligation]
  · exact accounts_report (.one rfl rfl rfl rfl rfl rfl)

/-- The pairing loop accounts for the obligations its dictionary holds at the start. -/
theorem afterPairings_obligations {thresholds : FuzzyMatchConfig} {pairings : List FuzzyPairing}
    {obligations : List Obligation} {state : ReconciliationState}
    (account : Accounts Concerns obligations (state.matched.map MatchedPair.obligation ++
      (KeyedTable.ofList Obligation.orderId state.unmatchedObligations).rows) state.exceptions) :
    ObligationsAccounted obligations (afterPairings thresholds pairings state) := by
  have loop := foldl_applyPairing_account thresholds (initialFuzzyState state) (byConfidence pairings)
  exact loop.accounts action_obligations loop.obligations account

theorem missing_concerns (graceDays : PaymentType → Option ℤ) (asOfDate : Date)
    (obligation : Obligation) :
    Concerns (missingObligationException graceDays asOfDate obligation) [obligation] := by
  refine .one ?_ rfl rfl rfl rfl rfl
  unfold missingObligationException
  dsimp only
  split_ifs <;> rfl

theorem afterLeftovers_obligations {config : AppConfig} {obligations : List Obligation}
    {state : ReconciliationState} (accounted : ObligationsAccounted obligations state) :
    Accounts Concerns obligations (state.matched.map MatchedPair.obligation)
      (afterLeftovers config state).exceptions := by
  have missing : Accounts Concerns (state.unmatchedObligations.map id) []
      (state.unmatchedObligations.map
        (missingObligationException config.reconciliation.slaGraceDays state.asOfDate)) :=
    accounts_map fun obligation _ => missing_concerns _ _ obligation
  rw [List.map_id] at missing
  have stray : Accounts Concerns [] [] (state.unmatchedSettlements.map
      (unmatchedSettlementException state.asOfDate)) := by
    refine accounts_silent fun exception member => ?_
    obtain ⟨settlement, -, rfl⟩ := List.mem_map.mp member
    exact .none rfl
  have further := missing.append stray
  rw [List.append_nil, List.append_nil] at further
  have refined := Accounts.refine accounted further
  rwa [List.append_nil] at refined

/-- The sorted state accounts for all obligations, or for fewer when the loop starts from repeated
order ids. -/
theorem sortedState_obligations (deps : AgentDependencies ω) {initial : ReconciliationState}
    (reply : Except Raised FuzzyProposal)
    (silent : ∀ exception ∈ initial.orderSumExceptions, Concerns exception []) :
    let keyed := afterKeys deps.config initial
    let distinct := (keyed.unmatchedObligations.map Obligation.orderId).Nodup
    ∃ kept, Accounts Concerns kept ((sortedState deps initial reply).matched.map MatchedPair.obligation)
        (sortedState deps initial reply).exceptions ∧
      ((routesToFuzzy deps keyed = true → distinct) → kept = initial.obligations) ∧
      (routesToFuzzy deps keyed = true → ¬ distinct → kept.length < initial.obligations.length) := by
  intro keyed distinct
  have account : ObligationsAccounted initial.obligations keyed := afterKeys_obligations deps.config silent
  unfold sortedState afterFuzzyEdge
  by_cases routed : routesToFuzzy deps keyed = true
  · rw [if_pos routed]
    by_cases unique : distinct
    · refine ⟨initial.obligations, afterLeftovers_obligations (afterPairings_obligations ?_), ?_, ?_⟩
      · rw [KeyedTable.rows_ofList_of_nodup unique]
        exact account
      · exact fun _ => rfl
      · exact fun _ repeated => (repeated unique).elim
    · obtain ⟨kept, remaining, count⟩ := Accounts.exchange account
        (KeyedTable.ofList Obligation.orderId keyed.unmatchedObligations).rows
      have lost := KeyedTable.length_ofList_lt unique
      refine ⟨kept, afterLeftovers_obligations (afterPairings_obligations remaining), ?_, ?_⟩
      · exact fun all => (unique (all routed)).elim
      · intro _ _
        omega
  · rw [if_neg routed]
    exact ⟨initial.obligations, afterLeftovers_obligations account, fun _ => rfl,
      fun route => (routed route).elim⟩

/-- A completed run accounts for every placed row exactly when the pairing loop is not entered or
starts from obligations with distinct order ids. -/
theorem ReconciliationAgent.Completes.accounted_iff {deps : AgentDependencies ω} {request : RunRequest}
    {before after : Sys ω} {final : ReconciliationState} {outcome : RunOutcome}
    (completes : Completes deps request before final outcome after) :
    Accounted request.orders final ↔
      (requestRoutes deps request →
        ((requestKeys deps.config request).unmatchedObligations.map Obligation.orderId).Nodup) := by
  obtain ⟨runId, asOf, -, sorted⟩ := completes.sorted
  obtain ⟨rows, perm, built⟩ :=
    buildObligations_rows request.orders deps.config.reconciliation.amountTolerance
  have silent : ∀ exception ∈ (initialState deps.config request runId asOf).orderSumExceptions,
      Concerns exception [] := by
    intro exception member
    obtain ⟨reason, -⟩ := orderSumExceptions_fields member
    exact .none (by rw [reason]; rfl)
  obtain ⟨kept, account, complete, lossy⟩ :=
    sortedState_obligations deps (requestReply deps request before.world) silent
  have account' : Accounts Concerns kept (final.matched.map MatchedPair.obligation) final.exceptions := by
    rw [sorted]
    exact account
  rw [← routesToFuzzy_iff deps request runId asOf]
  constructor
  · intro accounted routed
    by_contra repeated
    have fewer := lossy routed repeated
    have total := accounted.length
    rw [← perm.length_eq, built.length_eq] at total
    rw [length_of_accounts account', List.length_map, ← total] at fewer
    exact lt_irrefl _ fewer
  · intro distinct
    rw [complete distinct] at account'
    exact ⟨rows, _, perm, built, account'⟩

/-- A cash order paid in two parts that never arrive, and a settlement nobody asked for. -/
def splitRequest : RunRequest where
  orders := [makeOrder "O1" ⟨30000⟩ ⟨10000⟩, makeOrder "O1" ⟨30000⟩ ⟨20000⟩]
  settlements := [makeSettlement "ST9"]

/-- With an LLM that pairs nothing, of the two parts only one ends in an exception. -/
theorem split_order_loses_row :
    ∃ final outcome after,
      ReconciliationAgent.Completes (scriptedDependencies (.ok {})) splitRequest emptyStart final outcome after ∧
      ¬ Accounted splitRequest.orders final := by
  have short : (ReconciliationAgent.completedRun (scriptedDependencies (.ok {})) splitRequest
      emptyStart).any (fun ended => decide ((placed splitRequest.orders).length ≠ ended.1.matched.length +
        ended.1.exceptions.countP (fun exception => concernsObligation exception.reason))) = true := by
    decide +kernel
  obtain ⟨final, outcome, after, completes, fewer⟩ := ReconciliationAgent.completes_passing short
  exact ⟨final, outcome, after, completes, fun accounted => of_decide_eq_true fewer accounted.length⟩

theorem accounted_iff_separate :
    ∃ final outcome after,
      ReconciliationAgent.Completes (scriptedDependencies (.ok {})) separateRequest emptyStart
        final outcome after ∧
      (Accounted separateRequest.orders final ↔
        (requestRoutes (scriptedDependencies (.ok {}) : AgentDependencies Unit) separateRequest →
          ((requestKeys shippedConfig separateRequest).unmatchedObligations.map
            Obligation.orderId).Nodup)) := by
  have returned : (ReconciliationAgent.completedRun (scriptedDependencies (.ok {})) separateRequest
      emptyStart).any (fun _ => true) = true := by
    decide +kernel
  obtain ⟨final, outcome, after, completes, -⟩ := ReconciliationAgent.completes_passing returned
  exact ⟨final, outcome, after, completes, completes.accounted_iff⟩

end ReconcileFlow
