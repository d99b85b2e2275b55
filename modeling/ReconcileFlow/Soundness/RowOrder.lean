import ReconcileFlow.Soundness.KeyCompleteness
import ReconcileFlow.Soundness.MismatchKeys

/-! # Settlement rows in another order

Two runs over permuted settlement rows look up permuted candidates and consume the same ids, so they
decide the same for every obligation (`reconcileKeys_perm`). The order shows in one place: a duplicate
quotes the first settlement of its group and lists the group in file order.

The quoted settlement is hashed into the mismatch keys, so the two files have the same targets when the
same settlement leads every group in both (`sameTargets_iff`). Up to ids shifted over the separator and
collisions of the digest, they have them only then.
-/

namespace ReconcileFlow

open Allocation

variable {settlements others : List Settlement} (perm : settlements.Perm others)

include perm in
/-- Permuted rows have permuted candidates. -/
theorem candidates_perm (consumed : Finset String) (obligation : Obligation) :
    (candidates (indexSettlements settlements) consumed obligation).Perm
      (candidates (indexSettlements others) consumed obligation) := by
  have byTxn : (txnCandidates (indexSettlements settlements) consumed obligation).Perm
      (txnCandidates (indexSettlements others) consumed obligation) := by
    rw [txnCandidates_eq, txnCandidates_eq]
    exact (perm.filter _).filter _
  rcases candidates_cases settlements consumed obligation with first | ⟨empty, first⟩
  · rcases candidates_cases others consumed obligation with second | ⟨empty, second⟩
    · rwa [first, second]
    · have nothing := (empty ▸ byTxn).eq_nil
      rw [candidates_of_empty nothing, second, fallbackCandidates_eq, fallbackCandidates_eq]
      exact (perm.filter _).filter _
  · have nothing := (empty ▸ byTxn).symm.eq_nil
    rw [first, candidates_of_empty nothing, fallbackCandidates_eq, fallbackCandidates_eq]
    exact (perm.filter _).filter _

include perm in
/-- Permuted rows are consumed by the same obligations. -/
theorem keySpent_perm (obligations : List Obligation) :
    keySpent settlements ∅ obligations = keySpent others ∅ obligations :=
  spent_reordered _ (candidates_perm perm) ∅ obligations

/-- The same outcome, up to the order of a duplicate group. -/
inductive KeyOutcome.Reordered : KeyOutcome → KeyOutcome → Prop
  | single (settlement : Settlement) (status : ObligationStatus) :
      Reordered (.single settlement status) (.single settlement status)
  | duplicate {first first' : Settlement} {rest rest' : List Settlement}
      (perm : (first :: rest).Perm (first' :: rest')) : Reordered (.duplicate first rest) (.duplicate first' rest')
  | unmatched : Reordered .unmatched .unmatched

theorem KeyOutcome.ofTurn_perm (tolerance : ℚ) (obligation : Obligation) {picked picked' : List Settlement}
    (perm : picked.Perm picked') :
    (ofTurn tolerance obligation picked).Reordered (ofTurn tolerance obligation picked') := by
  match picked with
  | [] =>
    rw [perm.symm.eq_nil]
    exact .unmatched
  | [settlement] =>
    rw [List.perm_singleton.mp perm.symm]
    exact .single _ _
  | first :: second :: rest =>
    have length := perm.length_eq
    match picked' with
    | [] | [_] => simp at length
    | first' :: second' :: rest' => exact .duplicate perm

include perm in
theorem keyOutcomes_perm (tolerance : ℚ) (obligations : List Obligation) :
    List.Forall₂ (fun first second => first.1 = second.1 ∧ first.2.Reordered second.2)
      (keyOutcomes settlements tolerance ∅ obligations) (keyOutcomes others tolerance ∅ obligations) := by
  unfold keyOutcomes
  rw [List.forall₂_map_left_iff, List.forall₂_map_right_iff]
  refine (turns_reordered _ (candidates_perm perm) ∅ obligations).imp ?_
  rintro ⟨obligation, picked⟩ ⟨obligation', picked'⟩ ⟨rfl, reordered⟩
  exact ⟨rfl, KeyOutcome.ofTurn_perm tolerance obligation reordered⟩

/-- The same exception, up to the order of a duplicate group: the settlement that is quoted, and the
order in which the detail lists the group. -/
inductive SameUpToGroupOrder : ExceptionRecord → ExceptionRecord → Prop
  | same (exception : ExceptionRecord) : SameUpToGroupOrder exception exception
  | reordered (obligation : Obligation) {first first' : Settlement} {rest rest' : List Settlement}
      (perm : (first :: rest).Perm (first' :: rest')) :
      SameUpToGroupOrder (duplicateException obligation first rest) (duplicateException obligation first' rest')

theorem KeyOutcome.Reordered.lists {outcome outcome' : KeyOutcome} (reordered : outcome.Reordered outcome')
    (obligation : Obligation) :
    outcome.matched? obligation = outcome'.matched? obligation ∧
      outcome.leftover? obligation = outcome'.leftover? obligation ∧
      Option.Rel SameUpToGroupOrder (outcome.exception? obligation) (outcome'.exception? obligation) := by
  cases reordered with
  | single settlement status =>
    refine ⟨rfl, rfl, ?_⟩
    rw [exception?]
    split_ifs
    · exact .none
    · exact .some (.same _)
  | duplicate perm => exact ⟨rfl, rfl, .some (.reordered obligation perm)⟩
  | unmatched => exact ⟨rfl, rfl, .none⟩

private theorem filterMap_eq_of_forall₂ {α β γ : Type} {R : α → β → Prop} {f : α → Option γ}
    {g : β → Option γ} (agree : ∀ a b, R a b → f a = g b) {as : List α} {bs : List β}
    (related : List.Forall₂ R as bs) : as.filterMap f = bs.filterMap g := by
  induction related with
  | nil => rfl
  | cons here _ ih => rw [List.filterMap_cons, List.filterMap_cons, agree _ _ here, ih]

/-- The classification does not depend on the order of the settlement rows. -/
theorem reconcileKeys_perm (obligations : List Obligation) (tolerance : ℚ) (perm : settlements.Perm others) :
    let result := reconcileKeys obligations settlements tolerance
    let permuted := reconcileKeys obligations others tolerance
    result.matched = permuted.matched ∧
      result.unmatchedObligations = permuted.unmatchedObligations ∧
      result.unmatchedSettlements.Perm permuted.unmatchedSettlements ∧
      List.Forall₂ SameUpToGroupOrder result.exceptions permuted.exceptions := by
  have outcomes := keyOutcomes_perm perm tolerance obligations
  simp only [reconcileKeys_eq]
  refine ⟨filterMap_eq_of_forall₂ ?_ outcomes, filterMap_eq_of_forall₂ ?_ outcomes, ?_,
    List.rel_filterMap ?_ outcomes⟩
  · rintro ⟨obligation, outcome⟩ ⟨-, outcome'⟩ ⟨rfl, reordered⟩
    exact (reordered.lists obligation).1
  · rintro ⟨obligation, outcome⟩ ⟨-, outcome'⟩ ⟨rfl, reordered⟩
    exact (reordered.lists obligation).2.1
  · rw [keySpent_perm perm]
    exact perm.filter _
  · rintro ⟨obligation, outcome⟩ ⟨-, outcome'⟩ ⟨rfl, reordered⟩
    exact (reordered.lists obligation).2.2

theorem reconcileKeys_perm_swap :
    let left := makeSettlement "ST1" none (some "TXN1")
    let right := makeSettlement "ST2" none (some "TXN1")
    let result := reconcileKeys [makeObligation "O1" "TXN1"] [left, right] 1
    let permuted := reconcileKeys [makeObligation "O1" "TXN1"] [right, left] 1
    result.matched = permuted.matched ∧
      result.unmatchedObligations = permuted.unmatchedObligations ∧
      result.unmatchedSettlements.Perm permuted.unmatchedSettlements ∧
      List.Forall₂ SameUpToGroupOrder result.exceptions permuted.exceptions :=
  reconcileKeys_perm _ 1 (List.Perm.swap _ _ [])

/-- The exceptions agree in everything except, for a duplicate, the quoted settlement. -/
def SameButQuoted (first second : ExceptionRecord) : Prop :=
  first = second ∨ first.reason = .duplicateSettlement ∧
    second = { first with settlementId := second.settlementId, actualAmount := second.actualAmount }

instance (first second : ExceptionRecord) : Decidable (SameButQuoted first second) :=
  inferInstanceAs (Decidable (_ ∨ _))

/-- Three settlements of one obligation, the last two in the other order: the same settlement is
quoted in both runs, but the detail lists the group in file order. -/
theorem group_order_in_detail :
    let first := makeSettlement "ST1" none (some "TXN1")
    let second := makeSettlement "ST2" none (some "TXN1")
    let third := makeSettlement "ST3" none (some "TXN1")
    let result := reconcileKeys [makeObligation "O1" "TXN1"] [first, second, third] 1
    let permuted := reconcileKeys [makeObligation "O1" "TXN1"] [first, third, second] 1
    [first, second, third].Perm [first, third, second] ∧
      result.exceptions.map ExceptionRecord.settlementId =
        permuted.exceptions.map ExceptionRecord.settlementId ∧
      ¬ List.Forall₂ SameButQuoted result.exceptions permuted.exceptions := by
  exact ⟨by decide, by decide, by decide⟩

/-! ## The same targets -/

/-- The targets of all exceptions of a reconciliation. -/
def allTargets (config : AppConfig) (result : KeyMatchResult) : List (String × String) :=
  result.exceptions.flatMap fun exception => (resolveTargets config exception).map RecipientTarget.pair

/-- Both files produce the same set of targets. -/
def SameTargets (obligations : List Obligation) (settlements others : List Settlement) (config : AppConfig)
    (asOf : Date) : Prop :=
  ∀ pair, pair ∈ allTargets config (reconcile obligations settlements config asOf) ↔
    pair ∈ allTargets config (reconcile obligations others config asOf)

/-- Whenever an obligation has several candidates, the same one comes first in both files. -/
def SameLeaders (obligations : List Obligation) (settlements others : List Settlement) : Prop :=
  ∀ prior obligation later, obligations = prior ++ obligation :: later →
    let consumed := keySpent settlements ∅ prior
    1 < (candidates (indexSettlements settlements) consumed obligation).length →
      (candidates (indexSettlements settlements) consumed obligation).head? =
        (candidates (indexSettlements others) consumed obligation).head?

include perm in
theorem SameLeaders.symm {obligations : List Obligation}
    (leaders : SameLeaders obligations settlements others) : SameLeaders obligations others settlements := by
  intro prior obligation later split consumed several
  have same : keySpent settlements ∅ prior = keySpent others ∅ prior := keySpent_perm perm prior
  have found := leaders prior obligation later split
  rw [same] at found
  refine (found ?_).symm
  rwa [(candidates_perm perm _ obligation).length_eq]

/-- A turn with the same leader raises an exception with the same targets: routing does not read what
the rest of a group shows in. -/
theorem KeyOutcome.exception_of_leader (config : AppConfig) (tolerance : ℚ) (obligation : Obligation)
    {picked picked' : List Settlement} (perm : picked.Perm picked')
    (leader : 1 < picked.length → picked.head? = picked'.head?) {exception : ExceptionRecord}
    (raised : (ofTurn tolerance obligation picked).exception? obligation = some exception) :
    ∃ other, (ofTurn tolerance obligation picked').exception? obligation = some other ∧
      resolveTargets config other = resolveTargets config exception := by
  match picked with
  | [] => cases raised
  | [settlement] =>
    rw [List.perm_singleton.mp perm.symm]
    exact ⟨exception, raised, rfl⟩
  | first :: second :: rest =>
    have length := perm.length_eq
    match picked' with
    | [] | [_] => simp at length
    | first' :: second' :: rest' =>
      obtain rfl : first = first' := by simpa using leader
      cases raised
      exact ⟨_, rfl, rfl⟩

include perm in
/-- With the same leaders, an exception of one file has a counterpart with its targets in the other. -/
theorem SameLeaders.counterpart {obligations : List Obligation} {config : AppConfig} {asOf : Date}
    (leaders : SameLeaders obligations settlements others) {exception : ExceptionRecord}
    (raised : exception ∈ (reconcile obligations settlements config asOf).exceptions) :
    ∃ other ∈ (reconcile obligations others config asOf).exceptions,
      resolveTargets config other = resolveTargets config exception := by
  obtain ⟨-, missing, stray, -⟩ :=
    reconcileKeys_perm obligations config.reconciliation.amountTolerance perm
  unfold reconcile classifyLeftovers at raised ⊢
  dsimp only at raised missing stray ⊢
  rw [List.mem_append, List.mem_append, List.mem_map, List.mem_map] at raised
  rcases raised with keyed | ⟨obligation, left, rfl⟩ | ⟨settlement, left, rfl⟩
  · obtain ⟨prior, obligation, later, split, decided⟩ := mem_keyExceptions.mp keyed
    have picked := candidates_perm perm (keySpent settlements ∅ prior) obligation
    obtain ⟨other, decided', same⟩ := KeyOutcome.exception_of_leader config
      config.reconciliation.amountTolerance obligation picked (leaders prior obligation later split) decided
    refine ⟨other, List.mem_append_left _ (mem_keyExceptions.mpr ⟨prior, obligation, later, split, ?_⟩), same⟩
    rwa [← keySpent_perm perm]
  · exact ⟨_, List.mem_append_right _ (List.mem_append_left _ (List.mem_map_of_mem (missing ▸ left))), rfl⟩
  · exact ⟨_, List.mem_append_right _ (List.mem_append_right _
      (List.mem_map_of_mem (stray.mem_iff.mp left))), rfl⟩

include perm in
theorem SameLeaders.sameTargets {obligations : List Obligation}
    (leaders : SameLeaders obligations settlements others) (config : AppConfig) (asOf : Date) :
    SameTargets obligations settlements others config asOf := by
  intro pair
  simp only [allTargets, List.mem_flatMap]
  constructor
  · rintro ⟨exception, raised, targeted⟩
    obtain ⟨other, raised', same⟩ := leaders.counterpart perm raised
    exact ⟨other, raised', same ▸ targeted⟩
  · rintro ⟨exception, raised, targeted⟩
    obtain ⟨other, raised', same⟩ := (leaders.symm perm).counterpart perm.symm raised
    exact ⟨other, raised', same ▸ targeted⟩

/-- A duplicate is raised at a turn with several candidates. -/
theorem mem_reconcile_duplicate {obligations : List Obligation} {config : AppConfig} {asOf : Date}
    {exception : ExceptionRecord}
    (raised : exception ∈ (reconcile obligations settlements config asOf).exceptions)
    (duplicate : exception.reason = .duplicateSettlement) :
    ∃ prior obligation later first second rest, obligations = prior ++ obligation :: later ∧
      candidates (indexSettlements settlements) (keySpent settlements ∅ prior) obligation =
        first :: second :: rest ∧
      exception = duplicateException obligation first (second :: rest) := by
  unfold reconcile classifyLeftovers at raised
  dsimp only at raised
  rw [List.mem_append, List.mem_append, List.mem_map, List.mem_map] at raised
  rcases raised with keyed | ⟨obligation, left, rfl⟩ | ⟨settlement, left, rfl⟩
  · obtain ⟨prior, obligation, later, split, decided⟩ := mem_keyExceptions.mp keyed
    obtain ⟨first, second, rest, found, same⟩ := duplicate_of_reason decided duplicate
    exact ⟨prior, obligation, later, first, second, rest, split, found, same⟩
  · have absent := missing_reason config.reconciliation.slaGraceDays asOf obligation
    rw [duplicate] at absent
    cases absent
  · cases duplicate

theorem resolveTargets_ne_nil (config : AppConfig) (exception : ExceptionRecord) :
    ∃ target, target ∈ resolveTargets config exception := by
  have routed : routedRoles exception ≠ [] := by
    unfold routedRoles
    split
    · exact List.cons_ne_nil _ _
    · cases exception.reason <;> exact List.cons_ne_nil _ _
  obtain ⟨role, rest, roles⟩ := List.exists_cons_of_ne_nil routed
  refine ⟨_, List.mem_map_of_mem (a := role) ?_⟩
  simp [roles, distinctRoles]

include perm in
/-- A duplicate of the second file that hashes the leader of a group of the first file is raised for
the same group, and leads with the same settlement. -/
theorem leader_of_quoted (distinct : (settlements.map Settlement.settlementId).Nodup)
    {prior later : List Obligation} {obligation : Obligation} {first : Settlement}
    (picked : first ∈ candidates (indexSettlements settlements) (keySpent settlements ∅ prior) obligation)
    {config : AppConfig} {asOf : Date} {exception : ExceptionRecord}
    (raised : exception ∈ (reconcile (prior ++ obligation :: later) others config asOf).exceptions)
    (duplicate : exception.reason = .duplicateSettlement)
    (quoted : exception.settlementId.getD "" = first.settlementId) :
    (candidates (indexSettlements others) (keySpent settlements ∅ prior) obligation).head? = some first := by
  obtain ⟨prior', obligation', later', leader, second, rest, split, found, rfl⟩ :=
    mem_reconcile_duplicate raised duplicate
  have own : first ∈ candidates (indexSettlements others) (keySpent others ∅ prior) obligation := by
    rw [← keySpent_perm perm]
    exact (candidates_perm perm _ obligation).mem_iff.mp picked
  have leading : leader ∈ candidates (indexSettlements others) (keySpent others ∅ prior') obligation' := by
    rw [found]
    exact List.mem_cons_self
  have distinct' : (others.map Settlement.settlementId).Nodup := (perm.map _).nodup_iff.mp distinct
  obtain rfl : leader = first :=
    List.inj_on_of_nodup_map distinct' (mem_candidates leading).1 (mem_candidates own).1 quoted
  obtain rfl := prior_unique Settlement.settlementId (candidates_fresh others) split own leading
  obtain ⟨rfl, -⟩ := List.cons.inj (List.append_cancel_left split)
  rw [keySpent_perm perm, found]
  rfl

include perm in
/-- The order of the rows does not change the targets when the same settlement leads every group in
both files. It changes them otherwise, unless ids of the two reports are shifted over the separator of
the hashed text or two texts collide. -/
theorem sameTargets_iff (distinct : (settlements.map Settlement.settlementId).Nodup)
    (obligations : List Obligation) (config : AppConfig) (asOf : Date) :
    (SameLeaders obligations settlements others → SameTargets obligations settlements others config asOf) ∧
      (SameTargets obligations settlements others config asOf →
        SameLeaders obligations settlements others ∨
          ∃ first ∈ (reconcile obligations settlements config asOf).exceptions,
            ∃ second ∈ (reconcile obligations others config asOf).exceptions,
              ShiftedIds first second ∨ DigestCollision first second) := by
  refine ⟨fun leaders => leaders.sameTargets perm config asOf, fun same => ?_⟩
  rw [or_iff_not_imp_right]
  rintro apart prior obligation later rfl consumed several
  obtain ⟨first, second, rest, found⟩ : ∃ first second rest,
      candidates (indexSettlements settlements) consumed obligation = first :: second :: rest := by
    match found : candidates (indexSettlements settlements) consumed obligation with
    | [] | [_] => simp [found] at several
    | first :: second :: rest => exact ⟨first, second, rest, rfl⟩
  have raised : duplicateException obligation first (second :: rest) ∈
      (reconcile (prior ++ obligation :: later) settlements config asOf).exceptions := by
    refine List.mem_append_left _ (mem_keyExceptions.mpr ⟨prior, obligation, later, rfl, ?_⟩)
    rw [found]
    rfl
  obtain ⟨target, targeted⟩ :=
    resolveTargets_ne_nil config (duplicateException obligation first (second :: rest))
  have listed := List.mem_map_of_mem (f := RecipientTarget.pair) targeted
  obtain ⟨other, raised', listed'⟩ :=
    List.mem_flatMap.mp ((same target.pair).mp (List.mem_flatMap.mpr ⟨_, raised, listed⟩))
  obtain ⟨role, key⟩ := exists_role_of_targetPairs (List.mem_cons_of_mem _ listed)
  obtain ⟨role', key'⟩ := exists_role_of_targetPairs (List.mem_cons_of_mem _ listed')
  have texts : ((duplicateException obligation first (second :: rest)).routed role).text =
      (other.routed role').text := by
    by_contra different
    exact apart ⟨_, raised, other, raised', Or.inr ⟨role, role', different, key.symm.trans key'⟩⟩
  obtain ⟨reason, -, quoted, -⟩ :=
    routed_alike (fun shifted => apart ⟨_, raised, other, raised', Or.inl shifted⟩) texts
  have picked : first ∈ candidates (indexSettlements settlements) consumed obligation := by simp [found]
  rw [found, leader_of_quoted perm distinct picked raised' reason.symm quoted.symm]
  rfl

/-- A group of two and a short settlement, with the rows behind the leader of the group in the other
order: the detail of the duplicate changes, and none of the targets does. -/
theorem sameTargets_iff_led :
    let leader := makeSettlement "ST1" none (some "TXN1")
    let follower := makeSettlement "ST2" none (some "TXN1")
    let short := makeSettlement "ST3" none (some "TXN2") ⟨40000⟩
    let obligations := [makeObligation "O1" "TXN1", makeObligation "O2" "TXN2"]
    (reconcile obligations [leader, follower, short] shippedConfig defaultDate).exceptions.map
        ExceptionRecord.reason = [.duplicateSettlement, .amountShort] ∧
      SameLeaders obligations [leader, follower, short] [leader, short, follower] ∧
      SameTargets obligations [leader, follower, short] [leader, short, follower] shippedConfig
        defaultDate := by
  intro leader follower short obligations
  have leaders : SameLeaders obligations [leader, follower, short] [leader, short, follower] := by
    intro prior obligation later split
    match prior with
    | [] =>
      obtain ⟨rfl, rfl⟩ := List.cons.inj split
      decide +kernel
    | [_] =>
      obtain ⟨rfl, rest⟩ := List.cons.inj split
      obtain ⟨rfl, rfl⟩ := List.cons.inj rest
      decide +kernel
    | _ :: _ :: prior => simp [obligations] at split
  refine ⟨by decide +kernel, leaders, ?_⟩
  exact (sameTargets_iff (.cons leader (.swap _ _ [])) (by decide) obligations _ _).1 leaders

/-- Two settlements with the transaction id of one obligation: in the other order the other one is
quoted, and the payment gateway and the bank get a key that no row of the log has. -/
theorem swapped_duplicates_retarget :
    let settlements := [makeSettlement "ST1" none (some "TXN1"), makeSettlement "ST2" none (some "TXN1")]
    let others := [makeSettlement "ST2" none (some "TXN1"), makeSettlement "ST1" none (some "TXN1")]
    settlements.Perm others ∧ (settlements.map Settlement.settlementId).Nodup ∧
      ¬ SameTargets [makeObligation "O1" "TXN1"] settlements others shippedConfig defaultDate := by
  refine ⟨List.Perm.swap _ _ [], by decide, fun same => ?_⟩
  have moved : ¬ ∀ pair ∈ allTargets shippedConfig (reconcile [makeObligation "O1" "TXN1"]
      [makeSettlement "ST1" none (some "TXN1"), makeSettlement "ST2" none (some "TXN1")] shippedConfig
        defaultDate),
      pair ∈ allTargets shippedConfig (reconcile [makeObligation "O1" "TXN1"]
        [makeSettlement "ST2" none (some "TXN1"), makeSettlement "ST1" none (some "TXN1")] shippedConfig
          defaultDate) := by
    decide +kernel
  exact moved fun pair => (same pair).mp

end ReconcileFlow
