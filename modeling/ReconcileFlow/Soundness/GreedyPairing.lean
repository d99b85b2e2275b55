import ReconcileFlow.Soundness.AuditTrail
import ReconcileFlow.Soundness.FuzzyFallback
import ReconcileFlow.Soundness.MatchedAmounts
import ReconcileFlow.ToMathlib.GreedyMatching

/-! # The pairing loop as a greedy choice

By descending confidence the loop looks at every proposed pairing once. In terms of ids it is a greedy
one-to-one matching: a pairing has ends when it reaches the review threshold and names both ids, and
its turn takes them when both rows are still in their tables. The turns of the loop are the turns of
that matching, with the rows found in place of the ids.
-/

namespace ReconcileFlow

open EffectRun GreedyMatching

variable {ω : Type}

/-- Every pairing with its action, if it has one. -/
def pairingTurns (thresholds : FuzzyMatchConfig) :
    FuzzyState → List FuzzyPairing → List (FuzzyPairing × Option FuzzyAction)
  | _, [] => []
  | state, pairing :: rest =>
    (pairing, pairingAction thresholds state pairing) ::
      pairingTurns thresholds (applyPairing thresholds state pairing) rest

/-- The actions among the turns. -/
def acted (turns : List (FuzzyPairing × Option FuzzyAction)) : List FuzzyAction := turns.filterMap Prod.snd

theorem mem_acted {turns : List (FuzzyPairing × Option FuzzyAction)} {action : FuzzyAction} :
    action ∈ acted turns ↔ ∃ pairing, (pairing, some action) ∈ turns := by
  simp [acted]

theorem acted_pairingTurns (thresholds : FuzzyMatchConfig) (state : FuzzyState)
    (pairings : List FuzzyPairing) :
    acted (pairingTurns thresholds state pairings) = pairingActions thresholds state pairings := by
  induction pairings generalizing state with
  | nil => rfl
  | cons pairing rest ih =>
    rw [pairingActions, ← ih]
    unfold acted
    rw [pairingTurns, List.filterMap_cons]
    cases pairingAction thresholds state pairing <;> rfl

/-- The order id and the settlement id of an action. -/
def FuzzyAction.ids (action : FuzzyAction) : String × String :=
  (action.obligation.orderId, action.settlement.settlementId)

/-- The confidence reaches a threshold. -/
def FuzzyMatchConfig.Accepts (thresholds : FuzzyMatchConfig) (confidence : ℚ) : Prop :=
  thresholds.autoApplyThreshold ≤ confidence ∨ thresholds.reviewThreshold ≤ confidence

instance (thresholds : FuzzyMatchConfig) (confidence : ℚ) : Decidable (thresholds.Accepts confidence) :=
  inferInstanceAs (Decidable (_ ∨ _))

/-- The ids a pairing joins, if it reaches a threshold and names both. -/
def FuzzyPairing.ends (thresholds : FuzzyMatchConfig) (pairing : FuzzyPairing) : Option (String × String) :=
  if thresholds.Accepts pairing.confidence then
    pairing.orderId.bind fun orderId => pairing.settlementId.map fun settlementId => (orderId, settlementId)
  else none

theorem FuzzyPairing.ends_eq_some_iff {thresholds : FuzzyMatchConfig} {pairing : FuzzyPairing}
    {ids : String × String} : pairing.ends thresholds = some ids ↔
      thresholds.Accepts pairing.confidence ∧
        pairing.orderId = some ids.1 ∧ pairing.settlementId = some ids.2 := by
  obtain ⟨orderId, settlementId⟩ := ids
  unfold FuzzyPairing.ends
  split
  · next reaches => simp [reaches, Option.bind_eq_some_iff]
  · next below => simp [below]

/-- The ids that are still in the tables. -/
def FuzzyState.free (state : FuzzyState) : Free String String where
  left := (state.oblByOrder.rows.map Obligation.orderId).toFinset
  right := (state.settleById.rows.map Settlement.settlementId).toFinset

theorem FuzzyState.joins_iff {state : FuzzyState} {ids : String × String} : state.free.Joins ids ↔
    (∃ obligation ∈ state.oblByOrder.rows, obligation.orderId = ids.1) ∧
      ∃ settlement ∈ state.settleById.rows, settlement.settlementId = ids.2 := by
  unfold FuzzyState.free Free.Joins
  simp only [List.mem_toFinset, List.mem_map]

variable {thresholds : FuzzyMatchConfig}

/-- An action needs a threshold. -/
theorem accepts_of_action {state : FuzzyState} {pairing : FuzzyPairing} {action : FuzzyAction}
    (acts : pairingAction thresholds state pairing = some action) : thresholds.Accepts pairing.confidence := by
  obtain ⟨-, -, reaches⟩ := pairingAction_eq_some_iff.mp acts
  split_ifs at reaches
  · exact Or.inl reaches
  · exact Or.inr reaches.2

/-- A turn takes the ids of the rows it acts on. -/
theorem map_ids_pairingAction (state : FuzzyState) (pairing : FuzzyPairing) :
    (pairingAction thresholds state pairing).map FuzzyAction.ids =
      taken (FuzzyPairing.ends thresholds) state.free pairing := by
  ext ids
  rw [Option.map_eq_some_iff, taken_eq_some_iff, FuzzyPairing.ends_eq_some_iff, FuzzyState.joins_iff]
  constructor
  · rintro ⟨action, acts, rfl⟩
    obtain ⟨named, -, -⟩ := pairingAction_eq_some_iff.mp acts
    obtain ⟨order, settle, presentO, presentS⟩ := named_eq_some_iff.mp named
    exact ⟨⟨accepts_of_action acts, order, settle⟩, ⟨_, presentO, rfl⟩, ⟨_, presentS, rfl⟩⟩
  · rintro ⟨⟨reaches, order, settle⟩, ⟨obligation, presentO, sameO⟩, ⟨settlement, presentS, sameS⟩⟩
    have named : state.named pairing = some (obligation, settlement) :=
      named_eq_some_iff.mpr ⟨by rw [order, sameO], by rw [settle, sameS], presentO, presentS⟩
    refine ⟨⟨obligation, settlement, pairing, decide (pairing.confidence ≥ thresholds.autoApplyThreshold)⟩,
      pairingAction_eq_some_iff.mpr ⟨named, rfl, ?_⟩, Prod.ext sameO sameS⟩
    by_cases high : pairing.confidence ≥ thresholds.autoApplyThreshold
    · simp [high]
    · simp [high, reaches.resolve_left high]

/-- What a turn leaves free. -/
theorem free_applyPairing (state : FuzzyState) (pairing : FuzzyPairing) :
    (applyPairing thresholds state pairing).free =
      state.free.after ((pairingAction thresholds state pairing).map FuzzyAction.ids) := by
  have erased : ∀ obligation settlement, (state.consume obligation settlement).free =
      state.free.after (some (obligation.orderId, settlement.settlementId)) := by
    intro obligation settlement
    unfold FuzzyState.free FuzzyState.consume Free.after
    dsimp only
    rw [KeyedTable.keys_erase, KeyedTable.keys_erase]
  unfold applyPairing pairingAction
  cases state.named pairing with
  | none => rfl
  | some rows =>
    dsimp only
    split_ifs
    · exact erased rows.1 rows.2
    · exact erased rows.1 rows.2
    · rfl

/-- In terms of ids the loop is a greedy matching. -/
theorem pairingTurns_greedy (state : FuzzyState) (pairings : List FuzzyPairing) :
    (pairingTurns thresholds state pairings).map (Prod.map id (Option.map FuzzyAction.ids)) =
      turns (FuzzyPairing.ends thresholds) state.free pairings := by
  induction pairings generalizing state with
  | nil => rfl
  | cons pairing rest ih =>
    rw [pairingTurns, List.map_cons, ih, free_applyPairing, turns, ← map_ids_pairingAction]
    rfl

/-- What reaches a threshold reaches the lower one. -/
theorem FuzzyMatchConfig.Accepts.review {confidence : ℚ} (reaches : thresholds.Accepts confidence)
    (ordered : thresholds.reviewThreshold ≤ thresholds.autoApplyThreshold) :
    thresholds.reviewThreshold ≤ confidence :=
  reaches.elim ordered.trans id

/-- A pairing below the review threshold has no action. -/
theorem pairingAction_below (ordered : thresholds.reviewThreshold ≤ thresholds.autoApplyThreshold)
    {state : FuzzyState} {pairing : FuzzyPairing} (below : ¬ thresholds.reviewThreshold ≤ pairing.confidence) :
    pairingAction thresholds state pairing = none :=
  Option.eq_none_iff_forall_ne_some.mpr fun _ acts => below ((accepts_of_action acts).review ordered)

instance : Std.Total fun first second : FuzzyPairing => second.confidence ≤ first.confidence :=
  ⟨fun first second => le_total second.confidence first.confidence⟩

instance : IsTrans FuzzyPairing fun first second => second.confidence ≤ first.confidence :=
  ⟨fun _ _ _ first second => second.trans first⟩

theorem byConfidence_pairwise (pairings : List FuzzyPairing) :
    (byConfidence pairings).Pairwise fun first second => second.confidence ≤ first.confidence :=
  List.pairwise_insertionSort _ _

theorem byConfidence_perm (pairings : List FuzzyPairing) : (byConfidence pairings).Perm pairings :=
  List.perm_insertionSort _ _

section

variable {α : Type} {precedes : α → α → Prop} [DecidableRel precedes]

/-- A sorted list keeps its order when an item is inserted and others are dropped. -/
theorem filter_orderedInsert [IsTrans α precedes] (keeps : α → Bool) (item : α) {sorted : List α}
    (order : sorted.Pairwise precedes) :
    (sorted.orderedInsert precedes item).filter keeps =
      if keeps item then (sorted.filter keeps).orderedInsert precedes item else sorted.filter keeps := by
  induction sorted with
  | nil => cases kept : keeps item <;> simp [kept]
  | cons head rest ih =>
    obtain ⟨first, order⟩ := List.pairwise_cons.mp order
    rw [List.orderedInsert_cons]
    split
    · next before =>
      -- The item also stands before whatever is kept of the list.
      have least : ∀ other ∈ (head :: rest).filter keeps, precedes item other := by
        intro other member
        rcases List.mem_cons.mp (List.mem_of_mem_filter member) with rfl | later
        · exact before
        · exact trans_of precedes before (first other later)
      rw [List.filter_cons]
      split
      · cases remaining : (head :: rest).filter keeps with
        | nil => rfl
        | cons next others =>
          rw [List.orderedInsert_cons, if_pos (least next (remaining ▸ List.mem_cons_self))]
      · rfl
    · next behind =>
      rw [List.filter_cons, ih order, List.filter_cons]
      cases keeps head <;> cases keeps item <;> simp [behind]

/-- Dropping items before or after a stable sort is the same. -/
theorem filter_insertionSort [Std.Total precedes] [IsTrans α precedes] (keeps : α → Bool)
    (items : List α) :
    (items.insertionSort precedes).filter keeps = (items.filter keeps).insertionSort precedes := by
  induction items with
  | nil => rfl
  | cons item rest ih =>
    rw [List.insertionSort_cons, filter_orderedInsert keeps item (List.pairwise_insertionSort precedes rest),
      ih, List.filter_cons]
    split <;> rfl

end

/-- The loop does the same without the pairings below the review threshold. -/
theorem foldl_applyPairing_above (ordered : thresholds.reviewThreshold ≤ thresholds.autoApplyThreshold)
    (state : FuzzyState) (pairings : List FuzzyPairing) :
    (pairings.filter fun pairing => decide (thresholds.reviewThreshold ≤ pairing.confidence)).foldl
        (applyPairing thresholds) state = pairings.foldl (applyPairing thresholds) state := by
  induction pairings generalizing state with
  | nil => rfl
  | cons pairing rest ih =>
    rw [List.filter_cons, List.foldl_cons]
    split
    · rw [List.foldl_cons, ih]
    · next below =>
      rw [applyPairing_of_none (pairingAction_below ordered (by simpa using below)), ih]

theorem afterPairings_above (ordered : thresholds.reviewThreshold ≤ thresholds.autoApplyThreshold)
    (pairings : List FuzzyPairing) (state : ReconciliationState) :
    afterPairings thresholds
        (pairings.filter fun pairing => decide (thresholds.reviewThreshold ≤ pairing.confidence)) state =
      afterPairings thresholds pairings state := by
  unfold afterPairings applyPairings byConfidence
  rw [← filter_insertionSort, foldl_applyPairing_above ordered]

namespace FuzzyAction

/-- The pairing appended to `fuzzy_auto_applied`. -/
def applied? (action : FuzzyAction) : Option FuzzyPairing :=
  if action.autoApplied then some action.pairing else none

/-- The event the loop keeps of an action. -/
def event (action : FuzzyAction) : String × String × String :=
  (if action.autoApplied then "fuzzy_auto_applied" else "fuzzy_review_flagged",
    action.obligation.orderId, action.pairing.rationale)

/-- The audit event of an action. -/
def auditEvent (runId : String) (action : FuzzyAction) : AuditEvent where
  runId := runId
  eventType := action.event.1
  orderId := some action.event.2.1
  details := [("rationale", .text action.event.2.2)]

end FuzzyAction

/-- The entries and the tables after a stretch of the loop. -/
structure FuzzyEntries (before : FuzzyState) (actions : List FuzzyAction) (after : FuzzyState) : Prop where
  autoApplied : after.autoApplied = before.autoApplied ++ actions.filterMap FuzzyAction.applied?
  events : after.events = before.events ++ actions.map FuzzyAction.event
  obligations : after.oblByOrder.rows = before.oblByOrder.rows.filter fun obligation =>
    decide (obligation.orderId ∉ actions.map fun action => action.obligation.orderId)
  settlements : after.settleById.rows = before.settleById.rows.filter fun settlement =>
    decide (settlement.settlementId ∉ actions.map fun action => action.settlement.settlementId)

theorem FuzzyEntries.refl (state : FuzzyState) : FuzzyEntries state [] state where
  autoApplied := (List.append_nil _).symm
  events := (List.append_nil _).symm
  obligations := by simp
  settlements := by simp

theorem FuzzyEntries.trans {before between after : FuzzyState} {first second : List FuzzyAction}
    (start : FuzzyEntries before first between) (next : FuzzyEntries between second after) :
    FuzzyEntries before (first ++ second) after where
  autoApplied := by rw [next.autoApplied, start.autoApplied, List.filterMap_append, List.append_assoc]
  events := by rw [next.events, start.events, List.map_append, List.append_assoc]
  obligations := by
    rw [next.obligations, start.obligations, List.filter_filter]
    simp only [List.map_append, List.mem_append, not_or, Bool.decide_and, Bool.and_comm]
  settlements := by
    rw [next.settlements, start.settlements, List.filter_filter]
    simp only [List.map_append, List.mem_append, not_or, Bool.decide_and, Bool.and_comm]

theorem applyPairing_entries (thresholds : FuzzyMatchConfig) (state : FuzzyState) (pairing : FuzzyPairing) :
    FuzzyEntries state (pairingAction thresholds state pairing).toList
      (applyPairing thresholds state pairing) := by
  unfold applyPairing pairingAction
  cases state.named pairing with
  | none => exact .refl state
  | some rows =>
    dsimp only
    split_ifs
    · exact ⟨rfl, rfl, by simp [KeyedTable.erase, FuzzyState.consume],
        by simp [KeyedTable.erase, FuzzyState.consume]⟩
    · exact ⟨(List.append_nil _).symm, rfl, by simp [KeyedTable.erase, FuzzyState.consume],
        by simp [KeyedTable.erase, FuzzyState.consume]⟩
    · exact .refl state

theorem foldl_applyPairing_entries (thresholds : FuzzyMatchConfig) (state : FuzzyState)
    (pairings : List FuzzyPairing) : FuzzyEntries state (pairingActions thresholds state pairings)
      (pairings.foldl (applyPairing thresholds) state) := by
  induction pairings generalizing state with
  | nil => exact .refl state
  | cons pairing rest ih => exact (applyPairing_entries thresholds state pairing).trans (ih _)

/-! ## The choice -/

/-- One turn for every proposed pairing leads from the one state to the other, and the turns that act
are a one-to-one greedy choice by confidence. -/
structure GreedyChoice (thresholds : FuzzyMatchConfig) (pairings : List FuzzyPairing)
    (before : ReconciliationState) (turns : List (FuzzyPairing × Option FuzzyAction))
    (after : ReconciliationState) : Prop where
  proposed : (turns.map Prod.fst).Perm pairings
  names : ∀ pairing action, (pairing, some action) ∈ turns → action.pairing = pairing ∧
    pairing.orderId = some action.obligation.orderId ∧
    pairing.settlementId = some action.settlement.settlementId ∧
    action.obligation ∈ before.unmatchedObligations ∧ action.settlement ∈ before.unmatchedSettlements
  orderIds : ((acted turns).map fun action => action.obligation.orderId).Nodup
  settlementIds : ((acted turns).map fun action => action.settlement.settlementId).Nodup
  levels : ∀ pairing action, (pairing, some action) ∈ turns →
    thresholds.reviewThreshold ≤ pairing.confidence ∧
      (action.autoApplied = true ↔ thresholds.autoApplyThreshold ≤ pairing.confidence)
  matched : after.matched = before.matched ++ (acted turns).filterMap FuzzyAction.matched?
  autoApplied : after.fuzzyAutoApplied = (acted turns).filterMap FuzzyAction.applied?
  exceptions : after.exceptions = before.exceptions ++ (acted turns).filterMap FuzzyAction.review?
  obligations : after.unmatchedObligations =
    (KeyedTable.ofList Obligation.orderId before.unmatchedObligations).rows.filter fun obligation =>
      decide (obligation.orderId ∉ (acted turns).map fun action => action.obligation.orderId)
  settlements : after.unmatchedSettlements =
    (KeyedTable.ofList Settlement.settlementId before.unmatchedSettlements).rows.filter fun settlement =>
      decide (settlement.settlementId ∉ (acted turns).map fun action => action.settlement.settlementId)
  belowReview : afterPairings thresholds
    (pairings.filter fun pairing => decide (thresholds.reviewThreshold ≤ pairing.confidence)) before = after
  maximal : ∀ pairing, (pairing, none) ∈ turns → thresholds.reviewThreshold ≤ pairing.confidence →
    pairing.NamesLeftovers before → ∃ other action, (other, some action) ∈ turns ∧
      pairing.confidence ≤ other.confidence ∧
      (other.orderId = pairing.orderId ∨ other.settlementId = pairing.settlementId)

theorem map_fst_pairingTurns (thresholds : FuzzyMatchConfig) (state : FuzzyState)
    (pairings : List FuzzyPairing) : (pairingTurns thresholds state pairings).map Prod.fst = pairings := by
  induction pairings generalizing state with
  | nil => rfl
  | cons pairing rest ih => rw [pairingTurns, List.map_cons, ih]

theorem pairing_of_mem_pairingTurns {thresholds : FuzzyMatchConfig} {state : FuzzyState}
    {pairings : List FuzzyPairing} {pairing : FuzzyPairing} {action : FuzzyAction}
    (member : (pairing, some action) ∈ pairingTurns thresholds state pairings) :
    ∃ between, pairingAction thresholds between pairing = some action := by
  induction pairings generalizing state with
  | nil => cases member
  | cons head rest ih =>
    rcases List.mem_cons.mp member with now | later
    · obtain ⟨rfl, acts⟩ := Prod.mk.inj now
      exact ⟨state, acts.symm⟩
    · exact ih later

/-- A pairing that was passed over although it named leftovers gave way to one at least as confident. -/
theorem pairingTurns_maximal {state : ReconciliationState} {pairings : List FuzzyPairing} {pairing : FuzzyPairing}
    (idle : (pairing, none) ∈ pairingTurns thresholds (initialFuzzyState state) (byConfidence pairings))
    (reaches : thresholds.reviewThreshold ≤ pairing.confidence) (names : pairing.NamesLeftovers state) :
    ∃ other action,
      (other, some action) ∈ pairingTurns thresholds (initialFuzzyState state) (byConfidence pairings) ∧
      pairing.confidence ≤ other.confidence ∧
      (other.orderId = pairing.orderId ∨ other.settlementId = pairing.settlementId) := by
  obtain ⟨⟨obligation, settlement⟩, named⟩ := exists_named_initial_iff.mpr names
  obtain ⟨order, settle, presentO, presentS⟩ := named_eq_some_iff.mp named
  have passed : (pairing, none) ∈
      turns (FuzzyPairing.ends thresholds) (initialFuzzyState state).free (byConfidence pairings) := by
    rw [← pairingTurns_greedy]
    exact List.mem_map_of_mem (f := Prod.map id (Option.map FuzzyAction.ids)) idle
  have joins : (initialFuzzyState state).free.Joins (obligation.orderId, settlement.settlementId) :=
    FuzzyState.joins_iff.mpr ⟨⟨obligation, presentO, rfl⟩, ⟨settlement, presentS, rfl⟩⟩
  obtain ⟨other, ids, member, precedes, meets⟩ := passed_over_of_sorted (byConfidence_pairwise pairings) passed
    (FuzzyPairing.ends_eq_some_iff.mpr ⟨Or.inr reaches, order, settle⟩) joins
  obtain ⟨-, otherOrder, otherSettle⟩ :=
    FuzzyPairing.ends_eq_some_iff.mp (ends_of_mem_turns member).1
  rw [← pairingTurns_greedy] at member
  obtain ⟨⟨turn, acts⟩, present, same⟩ := List.mem_map.mp member
  obtain ⟨rfl, took⟩ := Prod.mk.inj same
  obtain ⟨action, rfl, -⟩ := Option.map_eq_some_iff.mp took
  refine ⟨turn, action, present, precedes, ?_⟩
  rw [order, settle]
  rcases not_and_or.mp meets with shared | shared
  · exact Or.inl (otherOrder.trans (congrArg some (not_not.mp shared)))
  · exact Or.inr (otherSettle.trans (congrArg some (not_not.mp shared)))

/-- Two pairings that are acted on share no id. -/
theorem acted_apart (state : FuzzyState) (pairings : List FuzzyPairing) :
    (acted (pairingTurns thresholds state pairings)).Pairwise fun first second => Apart first.ids second.ids := by
  have apart : (turns (FuzzyPairing.ends thresholds) state.free pairings).Pairwise fun first second =>
      ∀ pair ∈ first.2, ∀ other ∈ second.2, Apart pair other := turns_pairwise
  rw [← pairingTurns_greedy, List.pairwise_map] at apart
  unfold acted
  rw [List.pairwise_filterMap]
  refine apart.imp fun {early late} distinct action acts other acts' => ?_
  exact distinct action.ids (Option.mem_map_of_mem _ acts) other.ids (Option.mem_map_of_mem _ acts')

theorem afterPairings_greedy (ordered : thresholds.reviewThreshold ≤ thresholds.autoApplyThreshold)
    (pairings : List FuzzyPairing) (state : ReconciliationState) :
    GreedyChoice thresholds pairings state
      (pairingTurns thresholds (initialFuzzyState state) (byConfidence pairings))
      (afterPairings thresholds pairings state) := by
  have loop := foldl_applyPairing_account thresholds (initialFuzzyState state) (byConfidence pairings)
  have entries := foldl_applyPairing_entries thresholds (initialFuzzyState state) (byConfidence pairings)
  rw [← acted_pairingTurns] at loop entries
  constructor
  case proposed =>
    rw [map_fst_pairingTurns]
    exact byConfidence_perm pairings
  case names =>
    intro pairing action member
    obtain ⟨between, acts⟩ := pairing_of_mem_pairingTurns member
    obtain ⟨named, source, -⟩ := pairingAction_eq_some_iff.mp acts
    obtain ⟨order, settle, -, -⟩ := named_eq_some_iff.mp named
    have among := mem_acted.mpr ⟨pairing, member⟩
    refine ⟨source, order, settle, KeyedTable.mem_ofList (loop.obligations.symm.subset ?_),
      KeyedTable.mem_ofList (loop.settlements.symm.subset ?_)⟩
    · exact List.mem_append_left _ (List.mem_map_of_mem among)
    · exact List.mem_append_left _ (List.mem_map_of_mem among)
  case orderIds => exact List.pairwise_map.mpr ((acted_apart _ _).imp And.left)
  case settlementIds => exact List.pairwise_map.mpr ((acted_apart _ _).imp And.right)
  case levels =>
    intro pairing action member
    obtain ⟨between, acts⟩ := pairing_of_mem_pairingTurns member
    refine ⟨(accepts_of_action acts).review ordered, ?_⟩
    obtain ⟨-, -, reaches⟩ := pairingAction_eq_some_iff.mp acts
    split_ifs at reaches with auto
    · exact iff_of_true auto reaches
    · exact iff_of_false auto reaches.1
  case matched => exact loop.matched
  case autoApplied => exact entries.autoApplied
  case exceptions => exact loop.exceptions
  case obligations => exact entries.obligations
  case settlements => exact entries.settlements
  case belowReview => exact afterPairings_above ordered pairings state
  case maximal => exact fun _ idle reaches names => pairingTurns_maximal idle reaches names

/-! ## The node -/

/-- The audit event about a failed proposal. -/
def skippedEvents (runId : String) : Except Raised FuzzyProposal → List AuditEvent
  | .ok _ => []
  | .error raised => [{ runId := runId, eventType := "fuzzy_match_skipped", status := some "degraded",
                        details := [("error", .text raised.text)] }]

theorem proposedPairings_audit (deps : AgentDependencies ω) (state : ReconciliationState) (before : Sys ω) :
    ∃ after rows, (proposedPairings deps state).run before =
        .ok (replyPairings (fuzzyReply deps state before.world)) after ∧
      after.db.audit = before.db.audit ++ rows ∧
      rows.map AuditRow.toAuditEvent = skippedEvents state.runId (fuzzyReply deps state before.world) := by
  unfold proposedPairings fuzzyReply
  rw [EStateM.run_bind, run_attempt]
  unfold callOutside
  dsimp only [EStateM.run]
  cases (deps.llm.proposeFuzzy state.unmatchedObligations state.unmatchedSettlements before.world).1 with
  | ok proposal => exact ⟨_, [], rfl, (List.append_nil _).symm, rfl⟩
  | error raised => exact ⟨_, [_], rfl, rfl, rfl⟩

/-- For every reply of the LLM the node ends in a one-to-one greedy choice by confidence, and its audit
entries are one about a failed call and one for each action, in order. -/
theorem fuzzyNode_greedy (deps : AgentDependencies ω) (state : ReconciliationState) (before : Sys ω)
    (ordered : deps.config.fuzzyMatch.reviewThreshold ≤ deps.config.fuzzyMatch.autoApplyThreshold) :
    ∃ final after turns rows, (fuzzyNode deps state).run before = .ok final after ∧
      GreedyChoice deps.config.fuzzyMatch (replyPairings (fuzzyReply deps state before.world)) state turns
        final ∧
      after.db.audit = before.db.audit ++ rows ∧
      rows.map AuditRow.toAuditEvent =
        skippedEvents state.runId (fuzzyReply deps state before.world) ++
          (acted turns).map (FuzzyAction.auditEvent state.runId) := by
  let pairings := replyPairings (fuzzyReply deps state before.world)
  obtain ⟨proposed, skips, asked, audit, skipped⟩ := proposedPairings_audit deps state before
  obtain ⟨after, ran, -⟩ := fuzzyNode_run deps state before
  have entries := foldl_applyPairing_entries deps.config.fuzzyMatch (initialFuzzyState state)
    (byConfidence pairings)
  rw [← acted_pairingTurns] at entries
  -- The run of the node taken apart: the call, then the session that writes the events.
  have stages := ran
  unfold fuzzyNode at stages
  rw [bind_of_ok asked] at stages
  obtain ⟨_, written, logs, finished⟩ := bind_eq_ok_iff.mp stages
  cases finished
  have logs := of_withSession_ok logs
  unfold forEach at logs
  rw [← List.foldlM_map (g := fun (_ : Unit) item => logEvent deps.host item)] at logs
  obtain ⟨rows, appended, logged⟩ := forEach_logEvent_audit deps.host _ logs
  refine ⟨_, _, _, skips ++ rows, ran, afterPairings_greedy ordered pairings state, ?_, ?_⟩
  · rw [appended, audit, List.append_assoc]
  · have events : (applyPairings deps.config.fuzzyMatch state pairings).events =
        (acted (pairingTurns deps.config.fuzzyMatch (initialFuzzyState state)
          (byConfidence pairings))).map FuzzyAction.event := entries.events
    rw [List.map_append, skipped, logged, events, List.map_map]
    rfl

/-- Four overlapping pairings: one is applied, one names the settlement that is taken by then, one is up
for review, and one is below both thresholds. -/
def overlappingReply : Except Raised FuzzyProposal :=
  .ok { pairings :=
    [{ orderId := some "O3", settlementId := some "ST3", confidence := 31 / 100, rationale := "Close amounts." },
      { orderId := some "O2", settlementId := some "ST2", confidence := 62 / 100, rationale := "Close amounts." },
      { orderId := some "O1", settlementId := some "ST1", confidence := 97 / 100, rationale := "Close amounts." },
      { orderId := some "O2", settlementId := some "ST1", confidence := 93 / 100, rationale := "Close amounts." }] }

theorem fuzzyNode_greedy_overlapping :
    let deps : AgentDependencies Unit := scriptedDependencies overlappingReply
    let state : ReconciliationState :=
      { runId := "run-1", asOfDate := defaultDate, obligations := [], settlements := [],
        unmatchedObligations := ["O1", "O2", "O3"].map (makeObligation · "T1"),
        unmatchedSettlements := ["ST1", "ST2", "ST3"].map (makeSettlement ·) }
    ∃ final after turns rows, (fuzzyNode deps state).run emptyStart = .ok final after ∧
      GreedyChoice shippedConfig.fuzzyMatch (replyPairings overlappingReply) state turns final ∧
      after.db.audit = rows ∧
      rows.map AuditRow.toAuditEvent = (acted turns).map (FuzzyAction.auditEvent "run-1") ∧
      final.matched.map (fun pair => (pair.obligation.orderId, pair.settlement.settlementId)) = [("O1", "ST1")] ∧
      final.exceptions.map (fun exception => (exception.orderId, exception.settlementId)) =
        [(some "O2", some "ST2")] ∧
      final.unmatchedObligations.map Obligation.orderId = ["O3"] ∧
      final.unmatchedSettlements.map Settlement.settlementId = ["ST3"] := by
  intro deps state
  have ordered : deps.config.fuzzyMatch.reviewThreshold ≤ deps.config.fuzzyMatch.autoApplyThreshold := by
    decide +kernel
  obtain ⟨final, after, turns, rows, ran, choice, audit, logged⟩ := fuzzyNode_greedy deps state emptyStart ordered
  obtain ⟨_, paired, -⟩ := fuzzyNode_run deps state emptyStart
  cases ran.symm.trans paired
  refine ⟨_, after, turns, rows, ran, choice, audit, logged, ?_⟩
  decide +kernel

end ReconcileFlow
