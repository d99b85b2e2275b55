import ReconcileFlow.Soundness.KeyCompleteness
import ReconcileFlow.Soundness.ObligationGroups
import ReconcileFlow.ToMathlib.Numerals
import ReconcileFlow.ToMathlib.Separators

/-! # The ids of the obligations

An obligation is named after the transaction id of its row, or after its order, payment type and
position when the row has none. The composite names are read back from their last two colons, so they
never clash with each other; a transaction id is free text and may be one of them.
-/

namespace ReconcileFlow

/-- The transaction ids of the placed rows. -/
def transactionIds (orders : List Order) : List String :=
  (placed orders).filterMap fun row => truthy row.gatewayTxnId

/-- Some placed row has the transaction id that names another placed row, the one at position `seq` of
its order, which has none. -/
def IdTaken (orders : List Order) : Prop :=
  ∃ (orderId : String) (seq : ℕ) (cash : Order), (placedOf orders orderId)[seq]? = some cash ∧
    truthy cash.gatewayTxnId = none ∧
    orderId ++ ":" ++ cash.paymentType.value ++ ":" ++ toString seq ∈ transactionIds orders

/-- The placed rows with their positions, order by order. -/
def positions (orders : List Order) : List (Order × ℕ) :=
  (orderIds orders).flatMap fun orderId => (placedOf orders orderId).zipIdx

/-- What names a row: its transaction id, or the parts of the composite. -/
def idSource (position : Order × ℕ) : String ⊕ String × PaymentType × ℕ :=
  match truthy position.1.gatewayTxnId with
  | some txn => .inl txn
  | none => .inr (position.1.orderId, position.1.paymentType, position.2)

/-- The composite of an order id, a payment type and a position. -/
def compositeId (parts : String × PaymentType × ℕ) : String :=
  parts.1 ++ ":" ++ parts.2.1.value ++ ":" ++ toString parts.2.2

theorem paymentType_free (paymentType : PaymentType) : ':' ∉ paymentType.value.toList := by
  cases paymentType <;> decide

theorem PaymentType.value_injective : Function.Injective PaymentType.value := by
  intro first second same
  revert same
  cases first <;> cases second <;> decide

theorem numeral_free (seq : ℕ) : ':' ∉ (toString seq).toList := fun member =>
  absurd (Numerals.isDigit_of_mem_toString member) (by decide)

theorem compositeId_toList (parts : String × PaymentType × ℕ) : (compositeId parts).toList =
    (parts.1.toList ++ ':' :: parts.2.1.value.toList) ++ ':' :: (toString parts.2.2).toList := by
  simp [compositeId]

/-- Order ids may contain colons; the payment type and the position never do. -/
theorem compositeId_injective : Function.Injective compositeId := by
  rintro ⟨orderId, paymentType, seq⟩ ⟨orderId', paymentType', seq'⟩ same
  have texts := congrArg String.toList same
  rw [compositeId_toList, compositeId_toList,
    Separators.join_inj_of_right (numeral_free _) (numeral_free _),
    Separators.join_inj_of_right (paymentType_free _) (paymentType_free _)] at texts
  simp only [String.toList_inj] at texts
  obtain ⟨⟨order, payment⟩, position⟩ := texts
  exact Prod.ext order (Prod.ext (PaymentType.value_injective payment) (Nat.repr_injective position))

theorem mem_positions {orders : List Order} {row : Order} {seq : ℕ} :
    (row, seq) ∈ positions orders ↔ (placedOf orders row.orderId)[seq]? = some row := by
  rw [positions, List.mem_flatMap]
  constructor
  · rintro ⟨orderId, -, member⟩
    have own := placedOf_orderId (List.fst_mem_of_mem_zipIdx member)
    rw [own]
    exact List.mk_mem_zipIdx_iff_getElem?.mp member
  · intro found
    refine ⟨row.orderId, ?_, List.mk_mem_zipIdx_iff_getElem?.mpr found⟩
    have member := List.mem_of_mem_filter (List.mem_of_getElem? found)
    exact mem_orderIds.mpr ⟨row, List.mem_of_mem_filter member, rfl⟩

/-- Every placed row has a position, and no row has two. -/
theorem positions_rows (orders : List Order) : ((positions orders).map Prod.fst).Perm (placed orders) := by
  have rows : (positions orders).map Prod.fst = (orderIds orders).flatMap (placedOf orders) := by
    simp only [positions, List.map_flatMap, List.zipIdx_map_fst]
  have grouped : ((groupByOrder orders).rows.flatMap Prod.snd).Perm orders :=
    KeyedTable.flatMap_group_perm (fun _ => rfl) orders
  have kept := grouped.filter fun order => order.status == .placed
  rw [groupByOrder_rows, List.flatMap_map, List.filter_flatMap] at kept
  rw [rows]
  refine .trans (.of_eq ?_) kept
  exact List.flatMap_congr fun orderId _ => (placedRows_filter orders orderId).symm

theorem positions_nodup (orders : List Order) :
    (positions orders).Pairwise fun position other =>
      (position.1.orderId, position.2) ≠ (other.1.orderId, other.2) := by
  refine List.pairwise_flatMap.mpr ⟨fun orderId _ => ?_, ?_⟩
  · have numbered : ((placedOf orders orderId).zipIdx.map Prod.snd).Nodup := by
      rw [List.zipIdx_map_snd]
      exact List.nodup_range'
    exact (List.pairwise_map.mp numbered).imp fun apart same => apart (Prod.mk.inj same).2
  · refine (orderIds_nodup orders).imp fun {orderId other} apart position member position' member' same => ?_
    have own := placedOf_orderId (List.fst_mem_of_mem_zipIdx member)
    have own' := placedOf_orderId (List.fst_mem_of_mem_zipIdx member')
    exact apart (own.symm.trans ((congrArg Prod.fst same).trans own'))

theorem obligationId_eq (row : Order) (seq : ℕ) :
    (toObligation row seq).obligationId = Sum.elim id compositeId (idSource (row, seq)) := by
  unfold toObligation makeObligationId idSource
  dsimp only
  cases truthy row.gatewayTxnId <;> rfl

theorem obligationIds_eq (orders : List Order) (tolerance : ℚ) :
    (buildObligations orders tolerance).obligations.map Obligation.obligationId =
      ((positions orders).map idSource).map (Sum.elim id compositeId) := by
  rw [obligations_eq, List.map_flatMap, positions, List.map_flatMap, List.map_flatMap]
  refine List.flatMap_congr fun orderId _ => ?_
  rw [obligationsOf, List.map_map, List.map_map]
  exact List.map_congr_left fun position _ => obligationId_eq position.1 position.2

theorem idSource_eq_inl {position : Order × ℕ} {txn : String} :
    idSource position = .inl txn ↔ truthy position.1.gatewayTxnId = some txn := by
  unfold idSource
  cases truthy position.1.gatewayTxnId <;> simp

theorem idSource_eq_inr {position : Order × ℕ} {parts : String × PaymentType × ℕ} :
    idSource position = .inr parts ↔ truthy position.1.gatewayTxnId = none ∧
      (position.1.orderId, position.1.paymentType, position.2) = parts := by
  unfold idSource
  cases truthy position.1.gatewayTxnId <;> simp

theorem mem_transactionIds {orders : List Order} {txn : String} :
    txn ∈ transactionIds orders ↔ .inl txn ∈ (positions orders).map idSource := by
  rw [transactionIds, ← ((positions_rows orders).filterMap _).mem_iff, List.mem_filterMap, List.mem_map]
  simp only [List.mem_map, exists_exists_and_eq_and, idSource_eq_inl]

/-- Distinct transaction ids name rows apart, and so do the positions of the others. -/
theorem idSources_nodup {orders : List Order} (distinct : (transactionIds orders).Nodup) :
    ((positions orders).map idSource).Nodup := by
  have online : ((positions orders).map Prod.fst).Pairwise fun row other =>
      ∀ txn, truthy row.gatewayTxnId = some txn → ∀ txn', truthy other.gatewayTxnId = some txn' → txn ≠ txn' :=
    List.pairwise_filterMap.mp (((positions_rows orders).filterMap _).nodup_iff.mpr distinct)
  refine List.pairwise_map.mpr (((List.pairwise_map.mp online).and (positions_nodup orders)).imp ?_)
  rintro position other ⟨apart, separate⟩ same
  cases source : idSource position with
  | inl txn =>
    exact apart txn (idSource_eq_inl.mp source) txn (idSource_eq_inl.mp (same.symm.trans source)) rfl
  | inr parts =>
    obtain ⟨-, own⟩ := idSource_eq_inr.mp source
    obtain ⟨-, own'⟩ := idSource_eq_inr.mp (same.symm.trans source)
    have equal := own.trans own'.symm
    simp only [Prod.mk.injEq] at equal
    exact separate (Prod.ext equal.1 equal.2.2)

/-- With distinct transaction ids, the obligation ids are distinct unless one of the transaction ids is
the composite name of another row. -/
theorem obligationIds_nodup_iff (orders : List Order) (tolerance : ℚ)
    (distinct : (transactionIds orders).Nodup) :
    ((buildObligations orders tolerance).obligations.map Obligation.obligationId).Nodup ↔ ¬ IdTaken orders := by
  rw [obligationIds_eq, Separators.nodup_map_iff (idSources_nodup distinct) Function.injective_id
    compositeId_injective]
  constructor
  · rintro apart ⟨orderId, seq, cash, found, unnamed, taken⟩
    obtain rfl := placedOf_orderId (List.mem_of_getElem? found)
    refine apart _ (cash.orderId, cash.paymentType, seq) (mem_transactionIds.mp taken) ?_ rfl
    exact List.mem_map.mpr ⟨(cash, seq), mem_positions.mpr found, idSource_eq_inr.mpr ⟨unnamed, rfl⟩⟩
  · intro free txn parts online composite same
    obtain ⟨⟨cash, seq⟩, member, source⟩ := List.mem_map.mp composite
    obtain ⟨unnamed, rfl⟩ := idSource_eq_inr.mp source
    have named : txn ∈ transactionIds orders := mem_transactionIds.mpr online
    rw [show txn = compositeId _ from same] at named
    exact free ⟨cash.orderId, seq, cash, mem_positions.mp member, unnamed, named⟩

/-- A cash order, and a card order paid under a transaction id that looks like a composite of it. -/
def paidUnder (seq : ℕ) : List Order :=
  [makeOrder "O1",
    { makeOrder "O2" with
      paymentType := .card
      paymentGateway := some .razorpay
      gatewayTxnId := some ("O1:CASH:" ++ toString seq)
      checkPaymentFields := fun _ => by simp [truthy, Option.filter] }]

theorem obligationIds_nodup_txn : (transactionIds (paidUnder 1)).Nodup ∧
    (((buildObligations (paidUnder 1) 1).obligations.map Obligation.obligationId).Nodup ↔
      ¬ IdTaken (paidUnder 1)) :=
  ⟨by decide, obligationIds_nodup_iff (paidUnder 1) 1 (by decide)⟩

/-- The transaction id of the card order is the composite name of the cash order. -/
theorem obligationIds_clash : ¬ ∀ (orders : List Order) (tolerance : ℚ), (transactionIds orders).Nodup →
    ((buildObligations orders tolerance).obligations.map Obligation.obligationId).Nodup := by
  intro unique
  have clash := unique (paidUnder 0) 1 (by decide)
  revert clash
  decide

end ReconcileFlow
