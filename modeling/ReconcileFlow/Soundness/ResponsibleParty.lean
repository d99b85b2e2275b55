import ReconcileFlow.Soundness.MatchedAmounts

/-! # Who is told about an obligation

The exceptions of a run are attributed to the obligations they were built from. Key matching and the
classification of leftovers copy the responsible party of the obligation to the exception; the review
exceptions of the pairing loop do not. The override of an obligation is honoured exactly when the
loop flags no pairing on it for review.
-/

namespace ReconcileFlow

variable {ω : Type}

/-- The exceptions of key matching with their obligations. -/
def keyedExceptions (config : AppConfig) (initial : ReconciliationState) :
    List (Obligation × ExceptionRecord) :=
  (keyOutcomes initial.settlements config.reconciliation.amountTolerance ∅ initial.obligations).filterMap
    fun entry => (entry.2.exception? entry.1).map fun exception => (entry.1, exception)

/-- What the pairing loop did behind the conditional edge. -/
def edgeActions (deps : AgentDependencies ω) (initial : ReconciliationState)
    (reply : Except Raised FuzzyProposal) : List FuzzyAction :=
  if routesToFuzzy deps (afterKeys deps.config initial) then
    pairingActions deps.config.fuzzyMatch (initialFuzzyState (afterKeys deps.config initial))
      (byConfidence (replyPairings reply))
  else []

/-- The review exceptions with their obligations. -/
def reviewedExceptions (deps : AgentDependencies ω) (initial : ReconciliationState)
    (reply : Except Raised FuzzyProposal) : List (Obligation × ExceptionRecord) :=
  (edgeActions deps initial reply).filterMap fun action =>
    action.review?.map fun exception => (action.obligation, exception)

/-- The exceptions about missing payments with their obligations. -/
def missingExceptions (deps : AgentDependencies ω) (initial : ReconciliationState)
    (reply : Except Raised FuzzyProposal) : List (Obligation × ExceptionRecord) :=
  (afterFuzzyEdge deps reply (afterKeys deps.config initial)).unmatchedObligations.map fun obligation =>
    (obligation,
      missingObligationException deps.config.reconciliation.slaGraceDays initial.asOfDate obligation)

/-- The exceptions that the pipeline produces for obligations, with the obligations. -/
def obligationExceptions (deps : AgentDependencies ω) (initial : ReconciliationState)
    (reply : Except Raised FuzzyProposal) : List (Obligation × ExceptionRecord) :=
  keyedExceptions deps.config initial ++ reviewedExceptions deps initial reply ++
    missingExceptions deps initial reply

/-- The exceptions that the pipeline produces for leftover settlements. -/
def strayExceptions (deps : AgentDependencies ω) (initial : ReconciliationState)
    (reply : Except Raised FuzzyProposal) : List ExceptionRecord :=
  (afterFuzzyEdge deps reply (afterKeys deps.config initial)).unmatchedSettlements.map
    (unmatchedSettlementException initial.asOfDate)

theorem map_snd_keyedExceptions (config : AppConfig) (initial : ReconciliationState) :
    (keyedExceptions config initial).map Prod.snd = (reconcileKeys initial.obligations initial.settlements
      config.reconciliation.amountTolerance).exceptions := by
  unfold keyedExceptions
  rw [reconcileKeys_eq, List.map_filterMap]
  simp only [Option.map_map, Function.comp_def, Option.map_id']

theorem map_snd_reviewedExceptions (deps : AgentDependencies ω) (initial : ReconciliationState)
    (reply : Except Raised FuzzyProposal) : (reviewedExceptions deps initial reply).map Prod.snd =
      (edgeActions deps initial reply).filterMap FuzzyAction.review? := by
  unfold reviewedExceptions
  rw [List.map_filterMap]
  simp only [Option.map_map, Function.comp_def, Option.map_id']

/-- The exceptions behind the conditional edge. -/
theorem afterFuzzyEdge_exceptions (deps : AgentDependencies ω) (initial : ReconciliationState)
    (reply : Except Raised FuzzyProposal) :
    (afterFuzzyEdge deps reply (afterKeys deps.config initial)).exceptions =
      (afterKeys deps.config initial).exceptions ++
        (edgeActions deps initial reply).filterMap FuzzyAction.review? := by
  unfold afterFuzzyEdge edgeActions
  split
  · exact (foldl_applyPairing_account deps.config.fuzzyMatch _ (byConfidence (replyPairings reply))).exceptions
  · exact (List.append_nil _).symm

/-- Every exception of a sorted state is an order sum, about an obligation, or about a leftover
settlement. -/
theorem sortedState_attributed (deps : AgentDependencies ω) (initial : ReconciliationState)
    (reply : Except Raised FuzzyProposal) : (sortedState deps initial reply).exceptions =
      initial.orderSumExceptions ++ (obligationExceptions deps initial reply).map Prod.snd ++
        strayExceptions deps initial reply := by
  have dated : (afterFuzzyEdge deps reply (afterKeys deps.config initial)).asOfDate = initial.asOfDate := by
    unfold afterFuzzyEdge
    split <;> rfl
  have missing : (missingExceptions deps initial reply).map Prod.snd =
      (afterFuzzyEdge deps reply (afterKeys deps.config initial)).unmatchedObligations.map
        (missingObligationException deps.config.reconciliation.slaGraceDays initial.asOfDate) := by
    unfold missingExceptions
    rw [List.map_map]
    rfl
  unfold sortedState afterLeftovers classifyLeftovers obligationExceptions strayExceptions
  dsimp only
  rw [afterFuzzyEdge_exceptions, List.map_append, List.map_append, map_snd_keyedExceptions,
    map_snd_reviewedExceptions, missing, dated]
  unfold afterKeys
  simp only [List.append_assoc]

/-- The exception carries the party, and it alone is told. -/
structure Honours (config : AppConfig) (party : RecipientRole) (exception : ExceptionRecord) : Prop where
  carried : exception.responsibleParty = some party
  told : ∃ target, resolveTargets config exception = [target] ∧ target.role = party

/-- An override on the exception is the only target. -/
theorem honours_of_carried {config : AppConfig} {party : RecipientRole} {exception : ExceptionRecord}
    (carried : exception.responsibleParty = some party) : Honours config party exception := by
  have roles : distinctRoles [] (routedRoles exception) = [party] := by
    unfold routedRoles
    rw [carried]
    rfl
  refine ⟨carried, ⟨party, config.recipients.forRole party exception.paymentGateway,
    exceptionKey exception party⟩, ?_, rfl⟩
  unfold resolveTargets
  rw [roles]
  rfl

/-- The exceptions of key matching copy the override. -/
theorem keyedExceptions_carry {config : AppConfig} {initial : ReconciliationState}
    {entry : Obligation × ExceptionRecord} (member : entry ∈ keyedExceptions config initial) :
    entry.2.responsibleParty = entry.1.responsibleParty := by
  obtain ⟨⟨obligation, outcome⟩, -, raised⟩ := List.mem_filterMap.mp member
  obtain ⟨exception, made, rfl⟩ := Option.map_eq_some_iff.mp raised
  dsimp only at made ⊢
  cases outcome with
  | single settlement status =>
    rw [KeyOutcome.exception?] at made
    split_ifs at made
    cases made
    rfl
  | duplicate first rest =>
    cases made
    rfl
  | unmatched => cases made

/-- The exceptions about missing payments copy the override. -/
theorem missingExceptions_carry {deps : AgentDependencies ω} {initial : ReconciliationState}
    {reply : Except Raised FuzzyProposal} {entry : Obligation × ExceptionRecord}
    (member : entry ∈ missingExceptions deps initial reply) :
    entry.2.responsibleParty = entry.1.responsibleParty := by
  obtain ⟨obligation, -, rfl⟩ := List.mem_map.mp member
  rfl

/-- No review exception carries an override. -/
theorem reviewedExceptions_carry {deps : AgentDependencies ω} {initial : ReconciliationState}
    {reply : Except Raised FuzzyProposal} {entry : Obligation × ExceptionRecord}
    (member : entry ∈ reviewedExceptions deps initial reply) : entry.2.responsibleParty = none := by
  obtain ⟨action, -, raised⟩ := List.mem_filterMap.mp member
  obtain ⟨exception, made, rfl⟩ := Option.map_eq_some_iff.mp raised
  unfold FuzzyAction.review? at made
  split_ifs at made
  cases made
  rfl

/-- A pairing that reaches the review threshold only finds the obligation, after the more confident
ones, with a settlement still open. -/
def FlagsForReview (thresholds : FuzzyMatchConfig) (tables : FuzzyState) (pairings : List FuzzyPairing)
    (obligation : Obligation) : Prop :=
  ∃ prior pairing later settlement, byConfidence pairings = prior ++ pairing :: later ∧
    thresholds.reviewThreshold ≤ pairing.confidence ∧ pairing.confidence < thresholds.autoApplyThreshold ∧
    (prior.foldl (applyPairing thresholds) tables).named pairing = some (obligation, settlement)

/-- The fuzzy step is entered and flags the obligation. -/
def EdgeFlags (deps : AgentDependencies ω) (initial : ReconciliationState)
    (reply : Except Raised FuzzyProposal) (obligation : Obligation) : Prop :=
  routesToFuzzy deps (afterKeys deps.config initial) = true ∧
    FlagsForReview deps.config.fuzzyMatch (initialFuzzyState (afterKeys deps.config initial))
      (replyPairings reply) obligation

/-- An obligation has a review exception exactly when the fuzzy step flags it. -/
theorem exists_reviewed_iff (deps : AgentDependencies ω) (initial : ReconciliationState)
    (reply : Except Raised FuzzyProposal) (obligation : Obligation) :
    (∃ exception, (obligation, exception) ∈ reviewedExceptions deps initial reply) ↔
      EdgeFlags deps initial reply obligation := by
  unfold reviewedExceptions edgeActions EdgeFlags
  split
  · next routed =>
    rw [and_iff_right routed]
    constructor
    · rintro ⟨exception, member⟩
      obtain ⟨action, acted, raised⟩ := List.mem_filterMap.mp member
      obtain ⟨_, made, same⟩ := Option.map_eq_some_iff.mp raised
      cases same
      obtain ⟨prior, pairing, later, split, acts⟩ := mem_pairingActions_iff.mp acted
      obtain ⟨named, -, reaches⟩ := pairingAction_eq_some_iff.mp acts
      unfold FuzzyAction.review? at made
      split_ifs at made reaches with auto
      exact ⟨prior, pairing, later, _, split, reaches.2, not_le.mp reaches.1, named⟩
    · rintro ⟨prior, pairing, later, settlement, split, review, below, named⟩
      refine ⟨fuzzyReviewException obligation settlement pairing.rationale, List.mem_filterMap.mpr
        ⟨⟨obligation, settlement, pairing, false⟩, mem_pairingActions_iff.mpr ?_, rfl⟩⟩
      exact ⟨prior, pairing, later, split,
        pairingAction_eq_some_iff.mpr ⟨named, rfl, not_le.mpr below, review⟩⟩
  · next direct =>
    constructor
    · rintro ⟨exception, none⟩
      cases none
    · exact fun flags => (direct flags.1).elim

/-- Whatever the LLM replies, the override of an obligation is honoured by every exception that the
pipeline produces for it exactly when the fuzzy step does not flag it for review. -/
theorem sortNodes_honours_iff (deps : AgentDependencies ω) (initial : ReconciliationState) (before : Sys ω)
    {obligation : Obligation} {party : RecipientRole} (override : obligation.responsibleParty = some party) :
    let reply := fuzzyReply deps (afterKeys deps.config initial) before.world
    ∃ sorted after, (sortNodes deps initial).run before = .ok sorted after ∧
      sorted.exceptions = initial.orderSumExceptions ++
        (obligationExceptions deps initial reply).map Prod.snd ++ strayExceptions deps initial reply ∧
      ((∀ exception, (obligation, exception) ∈ obligationExceptions deps initial reply →
          Honours deps.config party exception) ↔ ¬ EdgeFlags deps initial reply obligation) := by
  intro reply
  obtain ⟨after, ran, -⟩ := sortNodes_run deps initial before
  refine ⟨_, after, ran, sortedState_attributed deps initial reply, ?_⟩
  rw [← exists_reviewed_iff]
  constructor
  · rintro honours ⟨exception, reviewed⟩
    have carried := (honours exception (List.mem_append_left _ (List.mem_append_right _ reviewed))).carried
    rw [reviewedExceptions_carry reviewed] at carried
    cases carried
  · intro unflagged exception member
    refine honours_of_carried ?_
    rcases List.mem_append.mp member with early | missing
    · rcases List.mem_append.mp early with keyed | reviewed
      · exact (keyedExceptions_carry keyed).trans override
      · exact (unflagged ⟨exception, reviewed⟩).elim
    · exact (missingExceptions_carry missing).trans override

/-- A card order the store manager answers for. -/
def answeredObligation : Obligation :=
  { makeObligation "O1" "T1" with responsibleParty := some .storeManager }

/-- The order and a settlement that shares no key with it. -/
def answeredState : ReconciliationState where
  runId := "run-1"
  asOfDate := defaultDate + 2
  obligations := [answeredObligation]
  settlements := [makeSettlement "ST9"]

theorem sortNodes_honours_unproposed :
    let deps : AgentDependencies Unit := scriptedDependencies (.ok {})
    ∃ sorted after, (sortNodes deps answeredState).run emptyStart = .ok sorted after ∧
      ((∀ exception, (answeredObligation, exception) ∈ obligationExceptions deps answeredState (.ok {}) →
          Honours deps.config .storeManager exception) ↔
        ¬ EdgeFlags deps answeredState (.ok {}) answeredObligation) := by
  intro deps
  have override : answeredObligation.responsibleParty = some .storeManager := rfl
  obtain ⟨sorted, after, ran, -, honours⟩ := sortNodes_honours_iff deps answeredState emptyStart override
  exact ⟨sorted, after, ran, honours⟩

/-- A proposal to have a second look at the order. -/
def hesitantReply : Except Raised FuzzyProposal :=
  .ok { pairings := [{ orderId := some "O1"
                       settlementId := some "ST9"
                       confidence := 6 / 10
                       rationale := "Dates are close." }] }

/-- The review exception of the order goes to the admin in place of the store manager. -/
theorem review_ignores_override :
    let deps : AgentDependencies Unit := scriptedDependencies hesitantReply
    let review := fuzzyReviewException answeredObligation (makeSettlement "ST9") "Dates are close."
    answeredObligation.responsibleParty = some .storeManager ∧
      (∃ sorted after, (sortNodes deps answeredState).run emptyStart = .ok sorted after ∧
        sorted.exceptions = [review]) ∧
      (answeredObligation, review) ∈ obligationExceptions deps answeredState hesitantReply ∧
      ¬ Honours deps.config .storeManager review ∧
      (resolveTargets deps.config review).map RecipientTarget.role = [.admin] := by
  intro deps review
  obtain ⟨after, ran, -⟩ := sortNodes_run deps answeredState emptyStart
  refine ⟨rfl, ⟨_, after, ran, by decide +kernel⟩, by decide +kernel, ?_, by decide +kernel⟩
  intro honours
  cases honours.carried

end ReconcileFlow
