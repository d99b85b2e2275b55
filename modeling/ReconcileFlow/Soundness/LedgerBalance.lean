import ReconcileFlow.Soundness.MatchedAmounts
import ReconcileFlow.Soundness.ObligationAccounting
import ReconcileFlow.Soundness.SettlementAccounting

/-! # The exceptions explain the gap between the books

The rows of a completed run are accounted for on both sides, so the difference between the money that was
settled and the money that was expected adds up: the small differences of the matched pairs, the
differences that the exceptions show, and the further rows of duplicate groups, of which an exception
quotes only the first.
-/

namespace ReconcileFlow

open ReconciliationAgent Reports

variable {ω : Type}

/-- The money expected by the obligation an exception is about. -/
def expectedShown (exception : ExceptionRecord) : ℚ :=
  if concernsObligation exception.reason = true then (exception.expectedAmount.map Money.rupees).getD 0 else 0

/-- The settled money an exception quotes. -/
def settledShown (exception : ExceptionRecord) : ℚ :=
  if holdsNone exception.reason = true then 0 else (exception.actualAmount.map Money.rupees).getD 0

/-- What an exception shows as settled beyond what was expected. -/
def shownGap (exception : ExceptionRecord) : ℚ := settledShown exception - expectedShown exception

/-- The same for a matched pair. -/
def pairGap (pair : MatchedPair) : ℚ := pair.settlement.amount.rupees - pair.obligation.expectedAmount.rupees

theorem Concerns.sum_expected {exception : ExceptionRecord} {obligations : List Obligation}
    (concerns : Concerns exception obligations) :
    (obligations.map fun obligation => obligation.expectedAmount.rupees).sum = expectedShown exception := by
  unfold expectedShown
  cases concerns with
  | one reason order paymentType store gateway expected => simp [reason, expected]
  | none reason => simp [reason]

/-- An exception quotes the first row of what it holds. -/
theorem HoldsRows.sum_settled {exception : ExceptionRecord} {rows : List Settlement}
    (holds : HoldsRows exception rows) :
    (rows.map fun row => row.amount.rupees).sum =
      settledShown exception + (rows.tail.map fun row => row.amount.rupees).sum := by
  unfold settledShown
  cases holds with
  | one reason quoted amount =>
    have shows : holdsNone exception.reason = false := by
      cases kind : exception.reason <;> simp_all [holdsOne, holdsNone]
    simp [shows, amount]
  | group reason quoted amount => simp [reason, holdsNone, amount]
  | none reason => simp [reason]

theorem sum_pairGap (pairs : List MatchedPair) :
    (pairs.map pairGap).sum = ((pairs.map MatchedPair.settlement).map fun row => row.amount.rupees).sum -
      ((pairs.map MatchedPair.obligation).map fun obligation => obligation.expectedAmount.rupees).sum := by
  induction pairs with
  | nil => simp
  | cons pair rest ih =>
    simp only [List.map_cons, List.sum_cons, ih, pairGap]
    ring

theorem sum_shownGap (exceptions : List ExceptionRecord) :
    (exceptions.map shownGap).sum = (exceptions.map settledShown).sum - (exceptions.map expectedShown).sum := by
  induction exceptions with
  | nil => simp
  | cons exception rest ih =>
    simp only [List.map_cons, List.sum_cons, ih, shownGap]
    ring

/-- Pairs that agree on their amounts drift by no more than the tolerance each. -/
theorem abs_sum_pairGap_le {tolerance : ℚ} {pairs : List MatchedPair}
    (agree : ∀ pair ∈ pairs, AmountsAgree tolerance pair) :
    |(pairs.map pairGap).sum| ≤ tolerance * pairs.length := by
  induction pairs with
  | nil => simp
  | cons pair rest ih =>
    obtain ⟨first, later⟩ := List.forall_mem_cons.mp agree
    have split := abs_add_le (pairGap pair) (rest.map pairGap).sum
    have head : |pairGap pair| ≤ tolerance := first
    rw [List.map_cons, List.sum_cons, List.length_cons]
    push_cast
    linarith [ih later]

theorem sum_builtFrom {rows : List Order} {obligations : List Obligation}
    (built : List.Forall₂ BuiltFrom rows obligations) :
    (obligations.map fun obligation => obligation.expectedAmount.rupees).sum =
      (rows.map fun row => row.paymentAmount.rupees).sum := by
  induction built with
  | nil => rfl
  | cons first _ ih =>
    obtain ⟨seq, rfl⟩ := first
    rw [List.map_cons, List.map_cons, List.sum_cons, List.sum_cons, ih]
    rfl

/-- The expected money of a completed run that loses no obligation. -/
theorem ReconciliationAgent.Completes.expected_total {deps : AgentDependencies ω} {request : RunRequest}
    {before after : Sys ω} {final : ReconciliationState} {outcome : RunOutcome}
    (completes : Completes deps request before final outcome after)
    (separate : requestRoutes deps request →
      ((requestKeys deps.config request).unmatchedObligations.map Obligation.orderId).Nodup) :
    ((placed request.orders).map fun row => row.paymentAmount.rupees).sum =
      ((final.matched.map MatchedPair.obligation).map fun obligation => obligation.expectedAmount.rupees).sum +
        (final.exceptions.map expectedShown).sum := by
  obtain ⟨runId, asOf, -, sorted⟩ := completes.sorted
  obtain ⟨rows, perm, built⟩ := buildObligations_rows request.orders deps.config.reconciliation.amountTolerance
  have silent : ∀ exception ∈ (initialState deps.config request runId asOf).orderSumExceptions,
      Concerns exception [] := by
    intro exception member
    obtain ⟨reason, -⟩ := orderSumExceptions_fields member
    exact .none (by rw [reason]; rfl)
  obtain ⟨kept, account, complete, -⟩ :=
    sortedState_obligations deps (requestReply deps request before.world) silent
  rw [← routesToFuzzy_iff deps request runId asOf] at separate
  rw [complete separate] at account
  have total := account.sum_eq (fun obligation => obligation.expectedAmount.rupees) expectedShown
    fun _ _ concerns => concerns.sum_expected
  rw [sorted, ← (perm.map _).sum_eq, ← sum_builtFrom built]
  exact total

/-- A cash order that was settled twice, and one that was not settled. -/
def doubledRequest : RunRequest where
  orders := [makeOrder "O1", makeOrder "O2" ⟨20000⟩]
  settlements := [{ makeSettlement "ST1" (some "O1") none ⟨50000⟩ with paymentType := .cash },
    { makeSettlement "ST2" (some "O1") none ⟨30000⟩ with paymentType := .cash }]

end ReconcileFlow
