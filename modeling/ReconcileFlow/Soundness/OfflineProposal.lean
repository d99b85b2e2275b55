import ReconcileFlow.Soundness.GreedyPairing

/-! # What the pairing loop makes of the mock's proposal

The mock compares an obligation with a settlement and proposes the two ids. The loop resolves the
order id through a dictionary, which holds the last leftover of each order. It therefore acts on the
pairs that were compared exactly when every order's leading proposal, if it reaches a threshold, was
made for the last leftover of the order (`fuzzyNode_mock_iff`).
-/

namespace ReconcileFlow

open GreedyMatching

variable {ω : Type}

/-- The pairs the mock proposes; `used` are the settlement ids taken so far. -/
def mockPairs (settlements : List Settlement) : List String → List Obligation → List (Obligation × Settlement)
  | _, [] => []
  | used, obligation :: rest =>
    match mockPartner used obligation settlements with
    | none => mockPairs settlements used rest
    | some settlement =>
      (obligation, settlement) :: mockPairs settlements (settlement.settlementId :: used) rest

theorem mockPartner_some {used : List String} {obligation : Obligation} {settlements : List Settlement}
    {settlement : Settlement} (partner : mockPartner used obligation settlements = some settlement) :
    settlement ∈ settlements ∧ settlement.settlementId ∉ used ∧
      settlement.amount = obligation.expectedAmount := by
  unfold mockPartner at partner
  have fits := List.find?_some partner
  simp only [Bool.and_eq_true, decide_eq_true_eq] at fits
  exact ⟨List.mem_of_find?_eq_some partner, fits.1, fits.2⟩

/-- A proposed pair is made of leftovers of one amount, and its settlement was not taken before. -/
theorem of_mem_mockPairs {settlements : List Settlement} {used : List String}
    {obligations : List Obligation} {pair : Obligation × Settlement}
    (member : pair ∈ mockPairs settlements used obligations) :
    pair.1 ∈ obligations ∧ pair.2 ∈ settlements ∧ pair.2.settlementId ∉ used ∧
      pair.2.amount = pair.1.expectedAmount := by
  induction obligations generalizing used with
  | nil => cases member
  | cons obligation rest ih =>
    rw [mockPairs] at member
    split at member
    · obtain ⟨owed, others⟩ := ih member
      exact ⟨List.mem_cons_of_mem _ owed, others⟩
    · next settlement partner =>
      rcases List.mem_cons.mp member with rfl | later
      · exact ⟨List.mem_cons_self, mockPartner_some partner⟩
      · obtain ⟨owed, received, unused, amount⟩ := ih later
        exact ⟨List.mem_cons_of_mem _ owed, received, fun taken => unused (List.mem_cons_of_mem _ taken),
          amount⟩

/-- No settlement id is proposed twice. -/
theorem mockPairs_pairwise (settlements : List Settlement) (used : List String)
    (obligations : List Obligation) :
    (mockPairs settlements used obligations).Pairwise fun first second =>
      first.2.settlementId ≠ second.2.settlementId := by
  induction obligations generalizing used with
  | nil => exact .nil
  | cons obligation rest ih =>
    rw [mockPairs]
    split
    · exact ih used
    · next settlement partner =>
      refine List.pairwise_cons.mpr ⟨?_, ih _⟩
      intro later member same
      exact (of_mem_mockPairs member).2.2.1 (same ▸ List.mem_cons_self)

theorem mockPairs_inj {settlements : List Settlement} {used : List String} {obligations : List Obligation}
    {first second : Obligation × Settlement} (member : first ∈ mockPairs settlements used obligations)
    (member' : second ∈ mockPairs settlements used obligations)
    (same : first.2.settlementId = second.2.settlementId) : first = second :=
  List.inj_on_of_nodup_map (List.pairwise_map.mpr (mockPairs_pairwise settlements used obligations))
    member member' same

/-- The pairing says of a pair what the loop reads of it. -/
structure Proposes (pairing : FuzzyPairing) (pair : Obligation × Settlement) : Prop where
  orderId : pairing.orderId = some pair.1.orderId
  settlementId : pairing.settlementId = some pair.2.settlementId
  confidence : pairing.confidence = fuzzyConfidence pair.1 pair.2

theorem mockPairing_proposes {obligation : Obligation} {settlement : Settlement} {pairing : FuzzyPairing}
    (proposed : mockPairing obligation settlement = .ok pairing) :
    Proposes pairing (obligation, settlement) := by
  unfold mockPairing at proposed
  dsimp only at proposed
  split at proposed
  · cases proposed
    exact ⟨rfl, rfl, rfl⟩
  · cases proposed

/-- The proposed pairings side by side with the pairs they were made for. -/
theorem mockPairings_made {settlements : List Settlement} {used : List String}
    {obligations : List Obligation} {pairings : List FuzzyPairing}
    (proposed : mockPairings settlements used obligations = .ok pairings) :
    ∃ made : List (FuzzyPairing × Obligation × Settlement), made.map Prod.fst = pairings ∧
      made.map Prod.snd = mockPairs settlements used obligations ∧
      ∀ entry ∈ made, Proposes entry.1 entry.2 := by
  induction obligations generalizing used pairings with
  | nil =>
    cases proposed
    exact ⟨[], rfl, rfl, fun _ none => (List.not_mem_nil none).elim⟩
  | cons obligation rest ih =>
    rw [mockPairings] at proposed
    rw [mockPairs]
    cases partner : mockPartner used obligation settlements with
    | none =>
      rw [partner] at proposed
      exact ih proposed
    | some settlement =>
      rw [partner] at proposed
      dsimp only at proposed ⊢
      cases first : mockPairing obligation settlement with
      | error raised =>
        rw [first] at proposed
        cases proposed
      | ok pairing =>
        cases others : mockPairings settlements (settlement.settlementId :: used) rest with
        | error raised =>
          rw [first, others] at proposed
          cases proposed
        | ok remaining =>
          rw [first, others] at proposed
          cases proposed
          obtain ⟨made, rfl, pairs, proposes⟩ := ih others
          exact ⟨(pairing, obligation, settlement) :: made, rfl, congrArg _ pairs,
            List.forall_mem_cons.mpr ⟨mockPairing_proposes first, proposes⟩⟩

/-- The proposed pairs by descending confidence; equal confidences keep their order. -/
def rankedPairs (obligations : List Obligation) (settlements : List Settlement) :
    List (Obligation × Settlement) :=
  (mockPairs settlements [] obligations).insertionSort fun first second =>
    fuzzyConfidence second.1 second.2 ≤ fuzzyConfidence first.1 first.2

/-- The most confident proposal for an order, the first among equals. -/
def leadingPair (obligations : List Obligation) (settlements : List Settlement) (orderId : String) :
    Option (Obligation × Settlement) :=
  (rankedPairs obligations settlements).find? fun pair => decide (pair.1.orderId = orderId)

/-- Every order's leading proposal, if it reaches a threshold, was made for the last leftover of the
order. -/
def LeadersLast (thresholds : FuzzyMatchConfig) (obligations : List Obligation)
    (settlements : List Settlement) : Prop :=
  ∀ orderId, ∀ pair ∈ leadingPair obligations settlements orderId,
    thresholds.Accepts (fuzzyConfidence pair.1 pair.2) →
      obligations.reverse.find? (fun obligation => decide (obligation.orderId = orderId)) = some pair.1

/-- The sorted pairings side by side with the ranked pairs. -/
structure Ranked (obligations : List Obligation) (settlements : List Settlement)
    (pairings : List FuzzyPairing) (entries : List (FuzzyPairing × Obligation × Settlement)) : Prop where
  pairings : entries.map Prod.fst = byConfidence pairings
  pairs : entries.map Prod.snd = rankedPairs obligations settlements
  proposes : ∀ entry ∈ entries, Proposes entry.1 entry.2

theorem exists_ranked {obligations : List Obligation} {settlements : List Settlement}
    {pairings : List FuzzyPairing} (proposed : mockPairings settlements [] obligations = .ok pairings) :
    ∃ entries, Ranked obligations settlements pairings entries := by
  obtain ⟨made, rfl, pairs, proposes⟩ := mockPairings_made proposed
  refine ⟨made.insertionSort fun first second => second.1.confidence ≤ first.1.confidence, ?_, ?_, ?_⟩
  · exact List.map_insertionSort _ _ _ _ fun _ _ _ _ => Iff.rfl
  · unfold rankedPairs
    rw [← pairs]
    refine List.map_insertionSort _ _ _ _ fun first member second member' => ?_
    rw [(proposes first member).confidence, (proposes second member').confidence]
  · exact fun entry member => proposes entry ((List.mem_insertionSort _).mp member)

theorem mem_rankedPairs {obligations : List Obligation} {settlements : List Settlement}
    {pair : Obligation × Settlement} : pair ∈ rankedPairs obligations settlements ↔
      pair ∈ mockPairs settlements [] obligations :=
  List.mem_insertionSort _

theorem rankedPairs_pairwise (obligations : List Obligation) (settlements : List Settlement) :
    (rankedPairs obligations settlements).Pairwise fun first second =>
      first.2.settlementId ≠ second.2.settlementId :=
  ((List.perm_insertionSort _ _).pairwise_iff fun apart => Ne.symm apart).mpr
    (mockPairs_pairwise settlements [] obligations)

section Loop

variable {thresholds : FuzzyMatchConfig} {state : ReconciliationState} {pairings : List FuzzyPairing}
  {entries : List (FuzzyPairing × Obligation × Settlement)}

theorem free_foldl_applyPairing (start : FuzzyState) (prior : List FuzzyPairing) :
    (prior.foldl (applyPairing thresholds) start).free =
      remaining (FuzzyPairing.ends thresholds) start.free prior := by
  induction prior generalizing start with
  | nil => rfl
  | cons pairing rest ih =>
    rw [List.foldl_cons, ih, free_applyPairing, map_ids_pairingAction]
    rfl

variable (ranked : Ranked state.unmatchedObligations state.unmatchedSettlements pairings entries)

include ranked

theorem Ranked.pair_mem {entry : FuzzyPairing × Obligation × Settlement} (member : entry ∈ entries) :
    entry.2 ∈ mockPairs state.unmatchedSettlements [] state.unmatchedObligations := by
  rw [← mem_rankedPairs, ← ranked.pairs]
  exact List.mem_map_of_mem member

/-- No two pairings of the proposal ask for one settlement. -/
theorem Ranked.rightsDistinct : RightsDistinct (FuzzyPairing.ends thresholds) (entries.map Prod.fst) := by
  have apart := rankedPairs_pairwise state.unmatchedObligations state.unmatchedSettlements
  rw [← ranked.pairs, List.pairwise_map] at apart
  unfold RightsDistinct
  rw [List.pairwise_map]
  refine apart.imp_of_mem fun {first second} member member' different pair asked other asked' same => ?_
  obtain ⟨-, -, settle⟩ := FuzzyPairing.ends_eq_some_iff.mp asked
  obtain ⟨-, -, settle'⟩ := FuzzyPairing.ends_eq_some_iff.mp asked'
  have quoted := Option.some.inj ((ranked.proposes first member).settlementId.symm.trans settle)
  have quoted' := Option.some.inj ((ranked.proposes second member').settlementId.symm.trans settle')
  exact different (quoted.trans (same.trans quoted'.symm))

/-- Every pairing of the proposal asks for leftovers. -/
theorem Ranked.offered {pairing : FuzzyPairing} (member : pairing ∈ entries.map Prod.fst)
    {ids : String × String} (asked : pairing.ends thresholds = some ids) :
    (initialFuzzyState state).free.Joins ids := by
  obtain ⟨entry, present, rfl⟩ := List.mem_map.mp member
  obtain ⟨owed, received, -⟩ := of_mem_mockPairs (ranked.pair_mem present)
  have proposes := ranked.proposes entry present
  obtain ⟨⟨obligation, settlement⟩, named⟩ := exists_named_initial_iff.mpr
    ⟨⟨_, owed, proposes.orderId⟩, ⟨_, received, proposes.settlementId⟩⟩
  obtain ⟨order, settle, presentO, presentS⟩ := named_eq_some_iff.mp named
  obtain ⟨-, wanted, wanted'⟩ := FuzzyPairing.ends_eq_some_iff.mp asked
  exact FuzzyState.joins_iff.mpr ⟨⟨obligation, presentO, Option.some.inj (order.symm.trans wanted)⟩,
    ⟨settlement, presentS, Option.some.inj (settle.symm.trans wanted')⟩⟩

omit ranked in
/-- What a proposed pairing asks for. -/
theorem Proposes.ends_eq_some_iff {pairing : FuzzyPairing} {pair : Obligation × Settlement}
    (proposes : Proposes pairing pair) {ids : String × String} : pairing.ends thresholds = some ids ↔
      thresholds.Accepts (fuzzyConfidence pair.1 pair.2) ∧ (pair.1.orderId, pair.2.settlementId) = ids := by
  rw [FuzzyPairing.ends_eq_some_iff, proposes.orderId, proposes.settlementId, proposes.confidence,
    Option.some_inj, Option.some_inj, Prod.ext_iff]

/-- A proposal sorted before one that reaches a threshold reaches it too. -/
theorem Ranked.accepts_earlier {before later : List (FuzzyPairing × Obligation × Settlement)}
    {entry earlier : FuzzyPairing × Obligation × Settlement} (split : entries = before ++ entry :: later)
    (member : earlier ∈ before) (reaches : thresholds.Accepts (fuzzyConfidence entry.2.1 entry.2.2)) :
    thresholds.Accepts (fuzzyConfidence earlier.2.1 earlier.2.2) := by
  have sorted := byConfidence_pairwise pairings
  rw [← ranked.pairings, split, List.map_append, List.map_cons, List.pairwise_append] at sorted
  have above := sorted.2.2 earlier.1 (List.mem_map_of_mem member) entry.1 List.mem_cons_self
  rw [(ranked.proposes earlier (split ▸ List.mem_append_left _ member)).confidence,
    (ranked.proposes entry (split ▸ List.mem_append_right _ List.mem_cons_self)).confidence] at above
  exact reaches.imp (fun auto => auto.trans above) fun review => review.trans above

/-- The loop acts on a proposal when it reaches a threshold and leads its order. -/
theorem Ranked.acts_iff {before later : List (FuzzyPairing × Obligation × Settlement)}
    {entry : FuzzyPairing × Obligation × Settlement} (split : entries = before ++ entry :: later) :
    (∃ action, pairingAction thresholds
        ((before.map Prod.fst).foldl (applyPairing thresholds) (initialFuzzyState state)) entry.1 =
          some action) ↔
      thresholds.Accepts (fuzzyConfidence entry.2.1 entry.2.2) ∧
        ∀ earlier ∈ before, earlier.2.1.orderId ≠ entry.2.1.orderId := by
  have proposes := ranked.proposes entry (split ▸ List.mem_append_right _ List.mem_cons_self)
  have proposesEarlier := fun earlier (member : earlier ∈ before) =>
    ranked.proposes earlier (split ▸ List.mem_append_left _ member)
  have looked : entries.map Prod.fst = (before.map Prod.fst ++ [entry.1]) ++ later.map Prod.fst := by
    rw [split, List.map_append, List.map_cons, List.append_assoc, List.singleton_append]
  have rights : RightsDistinct (FuzzyPairing.ends thresholds) (before.map Prod.fst ++ [entry.1]) := by
    have all : RightsDistinct (FuzzyPairing.ends thresholds) (entries.map Prod.fst) := ranked.rightsDistinct
    rw [looked] at all
    exact (List.pairwise_append.mp all).1
  have greedy : ∀ ids, (pairingAction thresholds
      ((before.map Prod.fst).foldl (applyPairing thresholds) (initialFuzzyState state)) entry.1).map
        FuzzyAction.ids = some ids ↔ entry.1.ends thresholds = some ids ∧
      ∀ earlier ∈ before.map Prod.fst, ∀ other ∈ earlier.ends thresholds, other.1 ≠ ids.1 := by
    intro ids
    rw [map_ids_pairingAction, free_foldl_applyPairing]
    refine taken_remaining_iff rights fun asker member pair asked => ranked.offered ?_ asked
    rw [looked]
    exact List.mem_append_left _ member
  constructor
  · rintro ⟨action, acts⟩
    obtain ⟨asked, leads⟩ := (greedy action.ids).mp (congrArg _ acts)
    obtain ⟨reaches, same⟩ := proposes.ends_eq_some_iff.mp asked
    refine ⟨reaches, fun earlier member order => ?_⟩
    refine leads earlier.1 (List.mem_map_of_mem member) _ ((proposesEarlier earlier member).ends_eq_some_iff.mpr
      ⟨ranked.accepts_earlier split member reaches, rfl⟩) ?_
    rw [← same]
    exact order
  · rintro ⟨reaches, leads⟩
    have taken := (greedy (entry.2.1.orderId, entry.2.2.settlementId)).mpr
      ⟨proposes.ends_eq_some_iff.mpr ⟨reaches, rfl⟩, ?_⟩
    · obtain ⟨action, acts, -⟩ := Option.map_eq_some_iff.mp taken
      exact ⟨action, acts⟩
    · intro pairing member other asked
      obtain ⟨earlier, present, rfl⟩ := List.mem_map.mp member
      obtain ⟨-, rfl⟩ := (proposesEarlier earlier present).ends_eq_some_iff.mp asked
      exact leads earlier present

omit ranked in
/-- The rows of an action: the last leftover of the order, and a leftover settlement. -/
theorem rows_of_acts {prior : List FuzzyPairing} {pairing : FuzzyPairing} {action : FuzzyAction}
    (acts : pairingAction thresholds (prior.foldl (applyPairing thresholds) (initialFuzzyState state))
      pairing = some action) :
    state.unmatchedObligations.reverse.find? (fun obligation =>
        decide (obligation.orderId = action.obligation.orderId)) = some action.obligation ∧
      action.settlement ∈ state.unmatchedSettlements ∧
      pairing.orderId = some action.obligation.orderId ∧
      pairing.settlementId = some action.settlement.settlementId := by
  obtain ⟨named, -, -⟩ := pairingAction_eq_some_iff.mp acts
  obtain ⟨order, settle, presentO, presentS⟩ := named_eq_some_iff.mp named
  have loop := foldl_applyPairing_account thresholds (initialFuzzyState state) prior
  refine ⟨?_, KeyedTable.mem_ofList (loop.settleSublist.subset presentS), order, settle⟩
  rw [← KeyedTable.find?_ofList]
  exact KeyedTable.find?_eq_some_iff.mpr ⟨loop.oblSublist.subset presentO, rfl⟩

end Loop

/-- What the node does with the mock's proposal, pairing by pairing. -/
def mockActions (thresholds : FuzzyMatchConfig) (state : ReconciliationState) : List FuzzyAction :=
  pairingActions thresholds (initialFuzzyState state) (byConfidence (replyPairings
    (mockProposal state.unmatchedObligations state.unmatchedSettlements)))

/-- The rows of an action are a pair the mock compared, and of one amount. -/
def OnComparedPair (obligations : List Obligation) (settlements : List Settlement) (action : FuzzyAction) : Prop :=
  (action.obligation, action.settlement) ∈ mockPairs settlements [] obligations ∧
    action.settlement.amount = action.obligation.expectedAmount

instance (obligations : List Obligation) (settlements : List Settlement) (action : FuzzyAction) :
    Decidable (OnComparedPair obligations settlements action) :=
  inferInstanceAs (Decidable (_ ∧ _))

section

variable {thresholds : FuzzyMatchConfig} {state : ReconciliationState} {pairings : List FuzzyPairing}
  {entries : List (FuzzyPairing × Obligation × Settlement)}
  (ranked : Ranked state.unmatchedObligations state.unmatchedSettlements pairings entries)

include ranked

/-- The leading proposal of an order is the first one about it. -/
theorem Ranked.exists_leading {orderId : String} {pair : Obligation × Settlement}
    (leads : leadingPair state.unmatchedObligations state.unmatchedSettlements orderId = some pair) :
    ∃ before entry after, entries = before ++ entry :: after ∧ entry.2 = pair ∧ entry.2.1.orderId = orderId ∧
      ∀ earlier ∈ before, earlier.2.1.orderId ≠ orderId := by
  obtain ⟨named, before, later, split, others⟩ := List.find?_eq_some_iff_append.mp leads
  rw [← ranked.pairs] at split
  obtain ⟨first, rest, parts, rfl, tail⟩ := List.map_eq_append_iff.mp split
  obtain ⟨entry, after, rfl, rfl, -⟩ := List.map_eq_cons_iff.mp tail
  refine ⟨first, entry, after, parts, rfl, of_decide_eq_true named, fun earlier member => ?_⟩
  simpa using others earlier.2 (List.mem_map_of_mem member)

theorem Ranked.leading {before later : List (FuzzyPairing × Obligation × Settlement)}
    {entry : FuzzyPairing × Obligation × Settlement} (split : entries = before ++ entry :: later)
    (leads : ∀ earlier ∈ before, earlier.2.1.orderId ≠ entry.2.1.orderId) :
    leadingPair state.unmatchedObligations state.unmatchedSettlements entry.2.1.orderId = some entry.2 := by
  unfold leadingPair
  rw [← ranked.pairs, split, List.map_append, List.map_cons]
  refine List.find?_eq_some_iff_append.mpr ⟨decide_eq_true rfl, _, _, rfl, fun other early => ?_⟩
  obtain ⟨earlier, member, rfl⟩ := List.mem_map.mp early
  simpa using leads earlier member

/-- Where every action is on a compared pair, the action on a leading proposal shows that its obligation
is the last of the order. -/
theorem Ranked.leadersLast (agree : ∀ action ∈ pairingActions thresholds (initialFuzzyState state)
      (byConfidence pairings), OnComparedPair state.unmatchedObligations state.unmatchedSettlements action) :
    LeadersLast thresholds state.unmatchedObligations state.unmatchedSettlements := by
  intro orderId pair leads reaches
  obtain ⟨before, entry, later, split, rfl, rfl, first⟩ := ranked.exists_leading leads
  obtain ⟨action, acts⟩ := (ranked.acts_iff split).mpr ⟨reaches, first⟩
  obtain ⟨last, -, order, settle⟩ := rows_of_acts acts
  have present : entry ∈ entries := split ▸ List.mem_append_right _ List.mem_cons_self
  have listed : action ∈ pairingActions thresholds (initialFuzzyState state) (byConfidence pairings) := by
    refine mem_pairingActions_iff.mpr ⟨before.map Prod.fst, entry.1, later.map Prod.fst, ?_, acts⟩
    rw [← ranked.pairings, split, List.map_append, List.map_cons]
  have same : (action.obligation, action.settlement) = entry.2 :=
    mockPairs_inj (agree action listed).1 (ranked.pair_mem present)
      (Option.some.inj (settle.symm.trans (ranked.proposes entry present).settlementId))
  have owner : action.obligation = entry.2.1 := congrArg Prod.fst same
  rw [owner] at last
  exact last

/-- Where every leading proposal was made for the last leftover of its order, that is the one the action
is on. -/
theorem Ranked.onComparedPair (distinct : (state.unmatchedSettlements.map Settlement.settlementId).Nodup)
    (last : LeadersLast thresholds state.unmatchedObligations state.unmatchedSettlements) {action : FuzzyAction}
    (member : action ∈ pairingActions thresholds (initialFuzzyState state) (byConfidence pairings)) :
    OnComparedPair state.unmatchedObligations state.unmatchedSettlements action := by
  obtain ⟨prior, pairing, later, split, acts⟩ := mem_pairingActions_iff.mp member
  rw [← ranked.pairings] at split
  obtain ⟨before, rest, parts, rfl, tail⟩ := List.map_eq_append_iff.mp split
  obtain ⟨entry, after, rfl, rfl, -⟩ := List.map_eq_cons_iff.mp tail
  obtain ⟨reaches, leads⟩ := (ranked.acts_iff parts).mp ⟨action, acts⟩
  obtain ⟨held, received, order, settle⟩ := rows_of_acts acts
  have present : entry ∈ entries := parts ▸ List.mem_append_right _ List.mem_cons_self
  have proposes := ranked.proposes entry present
  have paired := ranked.pair_mem present
  obtain ⟨-, offered, -, amount⟩ := of_mem_mockPairs paired
  have owner : action.obligation = entry.2.1 := by
    rw [← Option.some.inj (proposes.orderId.symm.trans order),
      last _ _ (ranked.leading parts leads) reaches] at held
    exact (Option.some.inj held).symm
  have partner : action.settlement = entry.2.2 :=
    List.inj_on_of_nodup_map distinct received offered
      (Option.some.inj (settle.symm.trans proposes.settlementId))
  unfold OnComparedPair
  rw [owner, partner]
  exact ⟨paired, amount⟩

end

/-- With distinct settlement ids, what the node pairs or flags of the mock's proposal are pairs the mock
compared exactly when no proposal is made or every order's leading one is made for its last leftover. -/
theorem fuzzyNode_mock_iff (deps : AgentDependencies ω) (state : ReconciliationState) (before : Sys ω)
    (distinct : (state.unmatchedSettlements.map Settlement.settlementId).Nodup) :
    ∃ final after, (fuzzyNode { deps with llm := mockLlm } state).run before = .ok final after ∧
      final.matched = state.matched ++
        (mockActions deps.config.fuzzyMatch state).filterMap FuzzyAction.matched? ∧
      final.exceptions = state.exceptions ++
        (mockActions deps.config.fuzzyMatch state).filterMap FuzzyAction.review? ∧
      ((∀ action ∈ mockActions deps.config.fuzzyMatch state,
          OnComparedPair state.unmatchedObligations state.unmatchedSettlements action) ↔
        ∀ proposal, mockProposal state.unmatchedObligations state.unmatchedSettlements = .ok proposal →
          LeadersLast deps.config.fuzzyMatch state.unmatchedObligations state.unmatchedSettlements) := by
  obtain ⟨after, ran, -⟩ := fuzzyNode_run { deps with llm := mockLlm } state before
  have loop := foldl_applyPairing_account deps.config.fuzzyMatch (initialFuzzyState state)
    (byConfidence (replyPairings (mockProposal state.unmatchedObligations state.unmatchedSettlements)))
  refine ⟨_, after, ran, loop.matched, loop.exceptions, ?_⟩
  unfold mockActions mockProposal
  cases proposed : mockPairings state.unmatchedSettlements [] state.unmatchedObligations with
  | error raised =>
    constructor
    · rintro - proposal ⟨⟩
    · intro _ action none
      cases none
  | ok pairings =>
    obtain ⟨entries, ranked⟩ := exists_ranked proposed
    constructor
    · exact fun agree _ _ => ranked.leadersLast agree
    · exact fun last _ member => ranked.onComparedPair distinct (last { pairings } rfl) member

/-- Leftovers with a settlement of 1000.00, of the day after the order and of its gateway. -/
def leftoverState (obligations : List Obligation) : ReconciliationState where
  runId := "run-1"
  asOfDate := defaultDate
  obligations := []
  settlements := []
  unmatchedObligations := obligations
  unmatchedSettlements := [makeSettlement "ST9"]

/-- Two orders of 1000.00. -/
def separateLeftovers : ReconciliationState :=
  leftoverState [makeObligation "O1" "T1", makeObligation "O2" "T2"]

theorem fuzzyNode_mock_separate :
    ∃ final after, (fuzzyNode { (scriptedDependencies (.ok {}) : AgentDependencies Unit) with llm := mockLlm }
        separateLeftovers).run emptyStart = .ok final after ∧
      ((∀ action ∈ mockActions shippedConfig.fuzzyMatch separateLeftovers,
          OnComparedPair separateLeftovers.unmatchedObligations separateLeftovers.unmatchedSettlements action) ↔
        ∀ proposal, mockProposal separateLeftovers.unmatchedObligations
            separateLeftovers.unmatchedSettlements = .ok proposal →
          LeadersLast shippedConfig.fuzzyMatch separateLeftovers.unmatchedObligations
            separateLeftovers.unmatchedSettlements) := by
  obtain ⟨final, after, ran, -, -, agree⟩ := fuzzyNode_mock_iff
    (scriptedDependencies (.ok {}) : AgentDependencies Unit) separateLeftovers emptyStart (by decide)
  exact ⟨final, after, ran, agree⟩

/-- An order paid in parts of 1000.00 and 700.00. -/
def splitLeftovers : ReconciliationState :=
  leftoverState [makeObligation "O1" "T1", makeObligation "O1" "T2" .card ⟨70000⟩]

/-- The mock compares the settlement with the part of 1000.00; the node matches it to the part of 700.00. -/
theorem fuzzyNode_mock_splits_order :
    ∃ final after, (fuzzyNode { (scriptedDependencies (.ok {}) : AgentDependencies Unit) with llm := mockLlm }
        splitLeftovers).run emptyStart = .ok final after ∧
      final.matched = [⟨makeObligation "O1" "T2" .card ⟨70000⟩, makeSettlement "ST9"⟩] ∧
      mockPairs splitLeftovers.unmatchedSettlements [] splitLeftovers.unmatchedObligations =
        [(makeObligation "O1" "T1", makeSettlement "ST9")] ∧
      ¬ ∀ action ∈ mockActions shippedConfig.fuzzyMatch splitLeftovers,
        OnComparedPair splitLeftovers.unmatchedObligations splitLeftovers.unmatchedSettlements action := by
  obtain ⟨after, ran, -⟩ := fuzzyNode_run
    { (scriptedDependencies (.ok {}) : AgentDependencies Unit) with llm := mockLlm } splitLeftovers emptyStart
  exact ⟨_, after, ran, by decide +kernel, by decide +kernel, by decide +kernel⟩

end ReconcileFlow
