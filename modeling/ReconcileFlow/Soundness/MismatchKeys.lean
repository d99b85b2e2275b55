import ReconcileFlow.Soundness.DispatchLoop
import ReconcileFlow.Soundness.KeyEncoding
import ReconcileFlow.Soundness.SettlementAccounting

/-! # Which exceptions of a run share a mismatch key

A mismatch key hashes the reason, the order id, the settlement id, the payment type and the role, and
nothing else of an exception. The hashed text determines the five fields unless ids are shifted over
the separator. With distinct settlement ids no two exceptions of a run quote one settlement and no two
order sums are about one order, so only exceptions about missing payments can coincide in all five:
the parts of one order that were paid by one payment type.
-/

namespace ReconcileFlow

open Reports

variable {ω : Type}

/-- What the key of an exception for one role is computed from. -/
def ExceptionRecord.routed (exception : ExceptionRecord) (role : RecipientRole) : RoutedKey where
  reason := exception.reason
  orderId := exception.orderId
  settlementId := exception.settlementId
  paymentType := exception.paymentType
  recipientRole := role

theorem exceptionKey_eq (exception : ExceptionRecord) (role : RecipientRole) :
    exceptionKey exception role = sha1Hex (exception.routed role).text := rfl

/-- For one role the ids of the two exceptions are shifted against each other in the hashed text. -/
def ShiftedIds (first second : ExceptionRecord) : Prop :=
  ∃ role, (first.routed role).Shifted (second.routed role) ∨ (second.routed role).Shifted (first.routed role)

/-- Where no ids are shifted, the hashed text determines what it is composed of. -/
theorem routed_alike {first second : ExceptionRecord} {role role' : RecipientRole}
    (apart : ¬ ShiftedIds first second) (same : (first.routed role).text = (second.routed role').text) :
    (first.routed role).Alike (second.routed role') := by
  rcases RoutedKey.alike_or_shifted same with alike | shifted | shifted
  · exact alike
  · obtain rfl : role = role' := shifted.recipientRole
    exact (apart ⟨role, Or.inl shifted⟩).elim
  · obtain rfl : role' = role := shifted.recipientRole
    exact (apart ⟨role', Or.inr shifted⟩).elim

/-- An exception built from an obligation or a settlement of the run. -/
inductive Origin (obligations : List Obligation) (settlements : List Settlement) : ExceptionRecord → Prop
  | amount {obligation : Obligation} {settlement : Settlement} (status : ObligationStatus)
      (owed : obligation ∈ obligations) (received : settlement ∈ settlements) :
      Origin obligations settlements (amountException obligation settlement status)
  | duplicate {obligation : Obligation} {first : Settlement} (rest : List Settlement)
      (owed : obligation ∈ obligations) (received : first ∈ settlements) :
      Origin obligations settlements (duplicateException obligation first rest)
  | review {obligation : Obligation} {settlement : Settlement} (rationale : String)
      (owed : obligation ∈ obligations) (received : settlement ∈ settlements) :
      Origin obligations settlements (fuzzyReviewException obligation settlement rationale)
  | missing {obligation : Obligation} (graceDays : PaymentType → Option ℤ) (asOfDate : Date)
      (owed : obligation ∈ obligations) :
      Origin obligations settlements (missingObligationException graceDays asOfDate obligation)
  | stray {settlement : Settlement} (asOfDate : Date) (received : settlement ∈ settlements) :
      Origin obligations settlements (unmatchedSettlementException asOfDate settlement)

/-- In a state of the pipeline, the exceptions are the order sums and exceptions of known origin. -/
structure OriginsKnown (obligations : List Obligation) (settlements : List Settlement)
    (sums : List ExceptionRecord) (state : ReconciliationState) : Prop where
  exceptions : ∃ rest, state.exceptions = sums ++ rest ∧
    ∀ exception ∈ rest, Origin obligations settlements exception
  owed : ∀ obligation ∈ state.unmatchedObligations, obligation ∈ obligations
  received : ∀ settlement ∈ state.unmatchedSettlements, settlement ∈ settlements

theorem reconcileKeys_origin {obligations : List Obligation} {settlements : List Settlement}
    {tolerance : ℚ} {exception : ExceptionRecord}
    (member : exception ∈ (reconcileKeys obligations settlements tolerance).exceptions) :
    Origin obligations settlements exception := by
  obtain ⟨prior, obligation, later, split, raised⟩ := mem_keyExceptions.mp member
  have owed : obligation ∈ obligations := by
    rw [split]
    exact List.mem_append_right _ List.mem_cons_self
  have received := fun row (present : row ∈ candidates (indexSettlements settlements)
    (keySpent settlements ∅ prior) obligation) => (mem_candidates present).1
  generalize candidates (indexSettlements settlements) (keySpent settlements ∅ prior) obligation = picked
    at raised received
  match picked with
  | [] => cases raised
  | [settlement] =>
    rw [KeyOutcome.ofTurn, KeyOutcome.exception?] at raised
    split_ifs at raised
    cases raised
    exact .amount _ owed (received _ List.mem_cons_self)
  | first :: second :: rest =>
    cases raised
    exact .duplicate _ owed (received _ List.mem_cons_self)

theorem afterKeys_origins (config : AppConfig) (state : ReconciliationState) :
    OriginsKnown state.obligations state.settlements state.orderSumExceptions (afterKeys config state) where
  exceptions := ⟨_, rfl, fun _ member => reconcileKeys_origin member⟩
  owed := by
    intro obligation member
    have sub := leftovers_sublist (keyOutcomes state.settlements config.reconciliation.amountTolerance ∅
      state.obligations)
    rw [map_fst_keyOutcomes] at sub
    unfold afterKeys at member
    rw [reconcileKeys_eq] at member
    exact sub.subset member
  received := fun _ member => List.mem_of_mem_filter member

theorem afterPairings_origins {thresholds : FuzzyMatchConfig} {pairings : List FuzzyPairing}
    {obligations : List Obligation} {settlements : List Settlement} {sums : List ExceptionRecord}
    {state : ReconciliationState} (known : OriginsKnown obligations settlements sums state) :
    OriginsKnown obligations settlements sums (afterPairings thresholds pairings state) := by
  have loop := foldl_applyPairing_account thresholds (initialFuzzyState state) (byConfidence pairings)
  have owedRows : ∀ obligation ∈ (initialFuzzyState state).oblByOrder.rows, obligation ∈ obligations :=
    fun _ member => known.owed _ (KeyedTable.mem_ofList member)
  have receivedRows : ∀ settlement ∈ (initialFuzzyState state).settleById.rows, settlement ∈ settlements :=
    fun _ member => known.received _ (KeyedTable.mem_ofList member)
  refine ⟨?_, ?_, ?_⟩
  · obtain ⟨rest, split, origins⟩ := known.exceptions
    refine ⟨_, loop.exceptions.trans ((congrArg (· ++ _) split).trans (List.append_assoc _ _ _)), ?_⟩
    intro exception member
    rcases List.mem_append.mp member with early | reviewed
    · exact origins exception early
    · obtain ⟨action, acted, raised⟩ := List.mem_filterMap.mp reviewed
      unfold FuzzyAction.review? at raised
      split_ifs at raised
      cases raised
      have owed := loop.obligations.symm.subset
        (List.mem_append_left _ (List.mem_map_of_mem (f := FuzzyAction.obligation) acted))
      have received := loop.settlements.symm.subset
        (List.mem_append_left _ (List.mem_map_of_mem (f := FuzzyAction.settlement) acted))
      exact .review _ (owedRows _ owed) (receivedRows _ received)
  · exact fun obligation member => owedRows obligation (loop.oblSublist.subset member)
  · exact fun settlement member => receivedRows settlement (loop.settleSublist.subset member)

theorem afterFuzzyEdge_origins (deps : AgentDependencies ω) (initial : ReconciliationState)
    (reply : Except Raised FuzzyProposal) :
    OriginsKnown initial.obligations initial.settlements initial.orderSumExceptions
      (afterFuzzyEdge deps reply (afterKeys deps.config initial)) := by
  have keyed := afterKeys_origins deps.config initial
  unfold afterFuzzyEdge
  split
  · exact afterPairings_origins keyed
  · exact keyed

/-- The exceptions of a sorted state are the order sums and exceptions of known origin. -/
theorem sortedState_origins (deps : AgentDependencies ω) (initial : ReconciliationState)
    (reply : Except Raised FuzzyProposal) :
    ∃ rest, (sortedState deps initial reply).exceptions = initial.orderSumExceptions ++ rest ∧
      ∀ exception ∈ rest, Origin initial.obligations initial.settlements exception := by
  have known := afterFuzzyEdge_origins deps initial reply
  obtain ⟨rest, split, origins⟩ := known.exceptions
  refine ⟨_, (congrArg (· ++ _) split).trans (List.append_assoc _ _ _), ?_⟩
  intro exception member
  rcases List.mem_append.mp member with early | left
  · exact origins exception early
  · rcases List.mem_append.mp left with missing | stray
    · obtain ⟨obligation, present, rfl⟩ := List.mem_map.mp missing
      exact .missing _ _ (known.owed _ present)
    · obtain ⟨settlement, present, rfl⟩ := List.mem_map.mp stray
      exact .stray _ (known.received _ present)

/-! ## Coinciding exceptions -/

/-- Reasons of the exceptions about a payment that never arrived. -/
def isMissing : ExceptionReason → Bool
  | .cashMissing | .onlineMissing | .lateSettlement => true
  | _ => false

/-- Both exceptions are about missing payments of one order by one payment type. -/
structure SameMissingPayment (first second : ExceptionRecord) : Prop where
  missing : isMissing first.reason = true
  reason : first.reason = second.reason
  order : first.orderId = second.orderId
  paymentType : first.paymentType = second.paymentType

theorem missing_reason (graceDays : PaymentType → Option ℤ) (asOfDate : Date) (obligation : Obligation) :
    isMissing (missingObligationException graceDays asOfDate obligation).reason = true := by
  unfold missingObligationException
  dsimp only
  split_ifs <;> rfl

/-- What tells an exception apart: its order, the settlement it quotes, or nothing but the payment. -/
inductive ExceptionKind (exception : ExceptionRecord) : Prop
  | orderSum (reason : exception.reason = .orderSumMismatch) (order : exception.orderId.isSome = true)
  | quoting {settlementId : String} (other : exception.reason ≠ .orderSumMismatch)
      (present : isMissing exception.reason = false) (quoted : exception.settlementId = some settlementId)
  | missing (absent : isMissing exception.reason = true) (order : exception.orderId.isSome = true)

theorem Origin.kind {obligations : List Obligation} {settlements : List Settlement}
    {exception : ExceptionRecord} (origin : Origin obligations settlements exception) :
    ExceptionKind exception := by
  cases origin with
  | amount status owed received =>
    refine .quoting ?_ ?_ rfl
    · cases status <;> exact ExceptionReason.noConfusion
    · cases status <;> rfl
  | duplicate rest owed received => exact .quoting ExceptionReason.noConfusion rfl rfl
  | review rationale owed received => exact .quoting ExceptionReason.noConfusion rfl rfl
  | @missing obligation graceDays asOfDate owed => exact .missing (missing_reason _ _ obligation) rfl
  | stray asOfDate received => exact .quoting ExceptionReason.noConfusion rfl rfl

/-- An exception of known origin is not about an order sum. -/
theorem Origin.not_orderSum {obligations : List Obligation} {settlements : List Settlement}
    {exception : ExceptionRecord} (origin : Origin obligations settlements exception) :
    exception.reason ≠ .orderSumMismatch := by
  intro same
  cases origin with
  | amount status owed received => cases status <;> cases same
  | duplicate rest owed received => cases same
  | review rationale owed received => cases same
  | @missing obligation graceDays asOfDate owed =>
    have absent := missing_reason graceDays asOfDate obligation
    rw [same] at absent
    cases absent
  | stray asOfDate received => cases same

private theorem eq_of_getD {first second : Option String} (left : first.isSome = true)
    (right : second.isSome = true) (same : first.getD "" = second.getD "") : first = second := by
  obtain ⟨text, rfl⟩ := Option.isSome_iff_exists.mp left
  obtain ⟨text', rfl⟩ := Option.isSome_iff_exists.mp right
  exact congrArg some same

/-- Exceptions of one text are about missing payments, when neither the quoted settlement nor the
order of an order sum can be shared. -/
theorem ExceptionKind.coincide {first second : ExceptionRecord} (left : ExceptionKind first)
    (right : ExceptionKind second)
    (quotes : ∀ settlementId, first.settlementId = some settlementId →
      second.settlementId ≠ some settlementId)
    (sums : first.reason = .orderSumMismatch → second.reason = .orderSumMismatch →
      first.orderId ≠ second.orderId)
    (reason : first.reason = second.reason) (order : first.orderId.getD "" = second.orderId.getD "")
    (settlement : first.settlementId.getD "" = second.settlementId.getD "")
    (paymentType : first.paymentType = second.paymentType) : SameMissingPayment first second := by
  cases left with
  | orderSum sum named =>
    cases right with
    | orderSum sum' named' => exact (sums sum sum' (eq_of_getD named named' order)).elim
    | quoting other => exact (other (reason.symm.trans sum)).elim
    | missing absent =>
      rw [← reason, sum] at absent
      cases absent
  | quoting other present quoted =>
    cases right with
    | orderSum sum => exact (other (reason.trans sum)).elim
    | quoting _ _ quoted' =>
      rw [quoted, quoted', Option.getD_some, Option.getD_some] at settlement
      exact (quotes _ quoted (settlement ▸ quoted')).elim
    | missing absent =>
      rw [← reason, present] at absent
      cases absent
  | missing absent named =>
    cases right with
    | orderSum sum =>
      rw [reason, sum] at absent
      cases absent
    | quoting _ present =>
      rw [reason, present] at absent
      cases absent
    | missing _ named' => exact ⟨absent, reason, eq_of_getD named named' order, paymentType⟩

/-- An exception that quotes a settlement id holds a row with that id. -/
theorem HoldsRows.quoted {exception : ExceptionRecord} {rows : List Settlement} {settlementId : String}
    (holds : HoldsRows exception rows) (quotes : exception.settlementId = some settlementId) :
    ∃ row ∈ rows, row.settlementId = settlementId := by
  cases holds with
  | @one settlement reason quoted amount =>
    exact ⟨settlement, List.mem_cons_self, Option.some.inj (quoted.symm.trans quotes)⟩
  | @group first second rest reason quoted amount named =>
    exact ⟨first, List.mem_cons_self, Option.some.inj (quoted.symm.trans quotes)⟩
  | none reason quoted =>
    rw [quoted] at quotes
    cases quotes

/-- The text hashed for the first exception is another text than the one hashed for the second, and
both have one digest. -/
def DigestCollision (first second : ExceptionRecord) : Prop :=
  ∃ role role', (first.routed role).text ≠ (second.routed role').text ∧
    sha1Hex (first.routed role).text = sha1Hex (second.routed role').text

/-- Every pair that some action could mail an exception to. -/
def targetPairs (config : AppConfig) (exception : ExceptionRecord) : List (String × String) :=
  (adminTarget config exception :: resolveTargets config exception).map RecipientTarget.pair

theorem exists_role_of_targetPairs {config : AppConfig} {exception : ExceptionRecord}
    {pair : String × String} (member : pair ∈ targetPairs config exception) :
    ∃ role, pair.1 = exceptionKey exception role := by
  obtain ⟨target, present, rfl⟩ := List.mem_map.mp member
  rcases List.mem_cons.mp present with rfl | resolved
  · exact ⟨.admin, rfl⟩
  · obtain ⟨role, -, rfl⟩ := List.mem_map.mp resolved
    exact ⟨role, rfl⟩

/-- Some pair is a target of both exceptions. -/
def SharesTarget (config : AppConfig) (first second : ExceptionRecord) : Prop :=
  ∃ pair ∈ targetPairs config first, pair ∈ targetPairs config second

instance (config : AppConfig) (first second : ExceptionRecord) :
    Decidable (SharesTarget config first second) := inferInstanceAs (Decidable (∃ _ ∈ _, _))

/-- Different exceptions of a sorted state agree in all hashed fields only when both are about missing
payments of one order by one payment type. -/
theorem sortedState_coincide (deps : AgentDependencies ω) (request : RunRequest) (runId : String)
    (asOf : Date) (reply : Except Raised FuzzyProposal)
    (distinct : (request.settlements.map Settlement.settlementId).Nodup) :
    (sortedState deps (initialState deps.config request runId asOf) reply).exceptions.Pairwise
      fun first second => ∀ role role', (first.routed role).Alike (second.routed role') →
        SameMissingPayment first second := by
  let initial := initialState deps.config request runId asOf
  obtain ⟨rest, split, origins⟩ := sortedState_origins deps initial reply
  have kinds : ∀ exception ∈ (sortedState deps initial reply).exceptions, ExceptionKind exception := by
    intro exception member
    rw [split, List.mem_append] at member
    rcases member with sum | built
    · obtain ⟨reason, named, -⟩ := orderSumExceptions_fields sum
      exact .orderSum reason named
    · exact (origins exception built).kind
  have quotes : (sortedState deps initial reply).exceptions.Pairwise fun first second =>
      ∀ settlementId, first.settlementId = some settlementId →
        second.settlementId ≠ some settlementId := by
    have account := sortedState_rows deps reply distinct
      (show ∀ exception ∈ initial.orderSumExceptions, HoldsRows exception [] from orderSumExceptions_hold)
    refine (account.pairwise_disjoint distinct).imp ?_
    rintro first second ⟨left, right, holds, holds', apart⟩ settlementId quoted quoted'
    obtain ⟨row, member, same⟩ := holds.quoted quoted
    obtain ⟨other, member', same'⟩ := holds'.quoted quoted'
    exact apart row member other member' (same.trans same'.symm)
  have sums : (sortedState deps initial reply).exceptions.Pairwise fun first second =>
      first.reason = .orderSumMismatch → second.reason = .orderSumMismatch →
        first.orderId ≠ second.orderId := by
    rw [split, List.pairwise_append]
    refine ⟨(orderSumExceptions_pairwise _ _).imp fun apart _ _ => apart, ?_, ?_⟩
    · refine List.pairwise_of_forall_mem_list fun first member second _ sum => ?_
      exact ((origins first member).not_orderSum sum).elim
    · intro first _ second member _ sum
      exact ((origins second member).not_orderSum sum).elim
  refine (quotes.and sums).imp_of_mem fun {first second} left right apart role role' alike => ?_
  exact (kinds first left).coincide (kinds second right) apart.1 apart.2 alike.reason alike.orderId
    alike.settlementId alike.paymentType

/-- With distinct settlement ids, different exceptions of a completed run share a target only if both
are about missing payments of one order by one payment type, if their ids are shifted over a separator,
or if two of the hashed texts have one digest. -/
theorem ReconciliationAgent.Completes.targets_distinct {deps : AgentDependencies ω} {request : RunRequest}
    {before after : Sys ω} {final : ReconciliationState} {outcome : RunOutcome}
    (completes : Completes deps request before final outcome after)
    (distinct : (request.settlements.map Settlement.settlementId).Nodup) :
    final.exceptions.Pairwise fun first second => SharesTarget deps.config first second →
      SameMissingPayment first second ∨ ShiftedIds first second ∨ DigestCollision first second := by
  obtain ⟨runId, asOf, -, sorted⟩ := completes.sorted
  have coincide := sortedState_coincide deps request runId asOf (requestReply deps request before.world)
    distinct
  rw [sorted]
  refine coincide.imp ?_
  rintro first second same ⟨pair, targeted, targeted'⟩
  obtain ⟨role, key⟩ := exists_role_of_targetPairs targeted
  obtain ⟨role', key'⟩ := exists_role_of_targetPairs targeted'
  rw [exceptionKey_eq] at key key'
  rcases em ((first.routed role).text = (second.routed role').text) with texts | texts
  · rcases em (ShiftedIds first second) with shifted | apart
    · exact Or.inr (Or.inl shifted)
    · exact Or.inl (same role role' (routed_alike apart texts))
  · exact Or.inr (Or.inr ⟨role, role', texts, key.symm.trans key'⟩)

theorem targets_distinct_stray :
    ∃ final outcome after,
      ReconciliationAgent.Completes (scriptedDependencies (.ok {})) strayRequest emptyStart final outcome after ∧
      final.exceptions.Pairwise fun first second => SharesTarget shippedConfig first second →
        SameMissingPayment first second ∨ ShiftedIds first second ∨ DigestCollision first second := by
  have returned : (ReconciliationAgent.completedRun (scriptedDependencies (.ok {})) strayRequest
      emptyStart).any (fun _ => true) = true := by
    decide +kernel
  obtain ⟨final, outcome, after, completes, -⟩ := ReconciliationAgent.completes_passing returned
  exact ⟨final, outcome, after, completes, completes.targets_distinct (by decide)⟩

/-- An order paid in two parts by cash, with no settlement at all. -/
def unpaidRequest : RunRequest where
  orders := [makeOrder "O1" ⟨30000⟩ ⟨10000⟩, makeOrder "O1" ⟨30000⟩ ⟨20000⟩]
  settlements := []

/-- The two missing payments differ in their amounts and share the store manager's target. -/
theorem unpaid_parts_share_target :
    ∃ final outcome after,
      ReconciliationAgent.Completes (scriptedDependencies (.ok {})) unpaidRequest emptyStart final outcome after ∧
      ¬ final.exceptions.Pairwise fun first second =>
        first ≠ second → ¬ SharesTarget shippedConfig first second := by
  have shared : (ReconciliationAgent.completedRun (scriptedDependencies (.ok {})) unpaidRequest
      emptyStart).any (fun ended => decide (¬ ended.1.exceptions.Pairwise fun first second =>
        first ≠ second → ¬ SharesTarget shippedConfig first second)) = true := by
    decide +kernel
  obtain ⟨final, outcome, after, completes, shared⟩ := ReconciliationAgent.completes_passing shared
  exact ⟨final, outcome, after, completes, of_decide_eq_true shared⟩

end ReconcileFlow
