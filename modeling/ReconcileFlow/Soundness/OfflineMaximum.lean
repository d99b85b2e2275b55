import ReconcileFlow.Soundness.DecimalSums
import ReconcileFlow.Soundness.OfflineProposal
import ReconcileFlow.ToMathlib.FirstFit

/-! # The offline proposal is a maximum pairing

The mock's loop over the settlements takes the first unused one of the obligation's amount. With
distinct settlement ids that is first-fit pairing within the classes of equal amounts, so it pairs as
many rows of every amount as there are on the shorter side.
-/

namespace ReconcileFlow

variable {ω : Type}

/-- The settlements that are not used yet. -/
def unused (used : List String) (settlements : List Settlement) : List Settlement :=
  settlements.filter fun settlement => decide (settlement.settlementId ∉ used)

/-- Pairs of equal amounts that use no obligation position and no settlement twice, as many of every
amount as there are on the shorter side. -/
structure MaximumPairing (obligations : List Obligation) (settlements : List Settlement)
    (pairs : List (Obligation × Settlement)) : Prop where
  positions : (pairs.map Prod.fst).Sublist obligations
  received : ∀ pair ∈ pairs, pair.2 ∈ settlements
  once : (pairs.map fun pair => pair.2.settlementId).Nodup
  amounts : ∀ pair ∈ pairs, pair.2.amount = pair.1.expectedAmount
  counts : ∀ amount, (pairs.map fun pair => pair.1.expectedAmount).count amount =
    min ((obligations.map Obligation.expectedAmount).count amount)
      ((settlements.map Settlement.amount).count amount)
  longest : ∀ other,
    FirstFit.Pairing Obligation.expectedAmount Settlement.amount obligations settlements other →
      other.length ≤ pairs.length

theorem mockPartner_unused (used : List String) (obligation : Obligation) (settlements : List Settlement) :
    mockPartner used obligation settlements = (unused used settlements).find? fun settlement =>
      decide (settlement.amount = obligation.expectedAmount) := by
  rw [mockPartner, unused, List.find?_filter]
  simp

/-- Using a settlement takes one row out, because no other has its id. -/
theorem unused_cons {used : List String} {settlements : List Settlement} {fits : Settlement → Bool}
    {settlement : Settlement} (distinct : (settlements.map Settlement.settlementId).Nodup)
    (found : (unused used settlements).find? fits = some settlement) :
    unused (settlement.settlementId :: used) settlements = (unused used settlements).eraseP fits := by
  have later : unused (settlement.settlementId :: used) settlements = (unused used settlements).filter
      fun other => decide (other.settlementId ≠ settlement.settlementId) := by
    rw [unused, unused, List.filter_filter]
    exact List.filter_congr fun other _ => by simp [not_or]
  have kept : ((unused used settlements).map Settlement.settlementId).Nodup :=
    distinct.sublist (List.filter_sublist.map _)
  rw [later]
  generalize unused used settlements = left at found kept
  obtain ⟨fit, before, after, rfl, none⟩ := List.find?_eq_some_iff_append.mp found
  rw [List.map_append, List.map_cons, List.nodup_middle, List.nodup_cons, ← List.map_append] at kept
  have others : ∀ other ∈ before ++ after, other.settlementId ≠ settlement.settlementId :=
    fun other member same => kept.1 (same ▸ List.mem_map_of_mem member)
  rw [List.eraseP_append_right _ fun other present => by simpa using none other present,
    List.eraseP_cons_of_pos fit, List.filter_append, List.filter_cons_of_neg (by simp),
    ← List.filter_append]
  exact List.filter_eq_self.mpr fun other member => decide_eq_true (others other member)

theorem mockPairs_firstFit {settlements : List Settlement}
    (distinct : (settlements.map Settlement.settlementId).Nodup) (used : List String)
    (obligations : List Obligation) : mockPairs settlements used obligations =
      FirstFit.pairs Obligation.expectedAmount Settlement.amount obligations (unused used settlements) := by
  induction obligations generalizing used with
  | nil => rfl
  | cons obligation rest ih =>
    rw [mockPairs, FirstFit.pairs, ← mockPartner_unused]
    cases partner : mockPartner used obligation settlements with
    | none => exact ih used
    | some settlement =>
      rw [mockPartner_unused] at partner
      dsimp only
      rw [ih, unused_cons distinct partner]

/-- The compared pairs are a maximum pairing. -/
theorem mockPairs_maximum {settlements : List Settlement}
    (distinct : (settlements.map Settlement.settlementId).Nodup) (obligations : List Obligation) :
    MaximumPairing obligations settlements (mockPairs settlements [] obligations) := by
  have fitted := mockPairs_firstFit distinct [] obligations
  have all : unused [] settlements = settlements := List.filter_eq_self.mpr fun _ _ => by simp
  rw [all] at fitted
  have paired : FirstFit.Pairing Obligation.expectedAmount Settlement.amount obligations settlements
      (mockPairs settlements [] obligations) := fitted ▸ FirstFit.pairing_pairs obligations settlements
  exact
    { positions := fitted ▸ FirstFit.map_fst_pairs_sublist obligations settlements
      received := fun pair member => (of_mem_mockPairs member).2.1
      once := List.pairwise_map.mpr (mockPairs_pairwise settlements [] obligations)
      amounts := paired.same
      counts := fun amount => fitted ▸ FirstFit.count_pairs obligations settlements amount
      longest := fun other pairing => fitted ▸ FirstFit.length_le_pairs pairing }

/-- The text of a validated amount has at most its digits and a point, or two leading zeros and a point. -/
theorem Money.length_text_le {amount : Money} (valid : amount.Validated) : amount.text.length ≤ 31 := by
  have digits : (Nat.toDigits 10 amount.paise).length ≤ 28 := valid
  have positive := Decimal.numDigits_pos amount.paise
  have leading : -6 ≤ Decimal.adjusted amount.paise (-2) := by
    unfold Decimal.adjusted
    omega
  rw [Money.text_short valid]
  unfold Decimal.finiteText
  dsimp only
  rw [if_pos ⟨by norm_num, leading⟩, if_neg (by norm_num)]
  split
  · simp only [String.length_ofList, List.length_append, List.length_cons, List.length_take, List.length_drop]
    omega
  · have point : "0.".length = 2 := rfl
    simp only [String.length_append, String.length_ofList, List.length_append, List.length_replicate]
    omega

/-- The template rationale of a pairing is within the schema's bound. -/
theorem mockPairing_ok {obligation : Obligation} (valid : obligation.expectedAmount.Validated)
    (settlement : Settlement) : ∃ pairing, mockPairing obligation settlement = .ok pairing := by
  have amount := Money.length_text_le valid
  have source : settlement.source.value.length ≤ 8 := by cases settlement.source <;> decide
  unfold mockPairing
  dsimp only
  rw [dif_pos]
  · exact ⟨_, rfl⟩
  · simp only [String.length_append]
    have texts : "Amount ".length = 7 ∧ " matches; source ".length = 17 ∧ ".".length = 1 := by decide
    omega

theorem mockPairings_ok {obligations : List Obligation}
    (valid : ∀ obligation ∈ obligations, obligation.expectedAmount.Validated)
    (settlements : List Settlement) (used : List String) :
    ∃ pairings, mockPairings settlements used obligations = .ok pairings := by
  induction obligations generalizing used with
  | nil => exact ⟨[], rfl⟩
  | cons obligation rest ih =>
    obtain ⟨head, tail⟩ := List.forall_mem_cons.mp valid
    rw [mockPairings]
    cases mockPartner used obligation settlements with
    | none => exact ih tail used
    | some settlement =>
      obtain ⟨pairing, first⟩ := mockPairing_ok head settlement
      obtain ⟨others, remaining⟩ := ih tail (settlement.settlementId :: used)
      dsimp only
      rw [first, remaining]
      exact ⟨pairing :: others, rfl⟩

/-- With distinct settlement ids, the mock proposes a maximum pairing of equal amounts, one pairing for
each of its pairs. -/
theorem proposeFuzzy_maximum (obligations : List Obligation) (settlements : List Settlement) (world : ω)
    (distinct : (settlements.map Settlement.settlementId).Nodup)
    (valid : ∀ obligation ∈ obligations, obligation.expectedAmount.Validated) :
    ∃ proposal pairs, mockLlm.proposeFuzzy obligations settlements world = (.ok proposal, world) ∧
      List.Forall₂ Proposes proposal.pairings pairs ∧ MaximumPairing obligations settlements pairs := by
  obtain ⟨pairings, proposed⟩ := mockPairings_ok valid settlements []
  obtain ⟨made, rfl, pairs, proposes⟩ := mockPairings_made proposed
  refine ⟨⟨made.map Prod.fst⟩, mockPairs settlements [] obligations, ?_, ?_, mockPairs_maximum distinct _⟩
  · change (mockProposal obligations settlements, world) = _
    rw [mockProposal, proposed]
    rfl
  · rw [← pairs, List.forall₂_map_left_iff, List.forall₂_map_right_iff, List.forall₂_same]
    exact proposes

theorem proposeFuzzy_maximum_shared :
    ∃ proposal pairs, mockLlm.proposeFuzzy [makeObligation "O1" "T1", makeObligation "O2" "T2"]
        [makeSettlement "ST1", makeSettlement "ST2" none none ⟨70000⟩] () = (.ok proposal, ()) ∧
      List.Forall₂ Proposes proposal.pairings pairs ∧
      MaximumPairing [makeObligation "O1" "T1", makeObligation "O2" "T2"]
        [makeSettlement "ST1", makeSettlement "ST2" none none ⟨70000⟩] pairs :=
  proposeFuzzy_maximum _ _ () (by decide) (by decide)

end ReconcileFlow
