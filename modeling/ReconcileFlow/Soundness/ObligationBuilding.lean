import ReconcileFlow.Model.Obligations
import ReconcileFlow.ToMathlib.Reports

/-! # Obligations of the placed rows

`build_obligations` makes one obligation out of each placed row and at most one order-sum exception
out of each order.
-/

namespace ReconcileFlow

/-- The obligation is the one built from the row. -/
def BuiltFrom (row : Order) (obligation : Obligation) : Prop := ∃ seq, obligation = toObligation row seq

/-- The rows of the orders file that are reconciled. -/
def placed (orders : List Order) : List Order := orders.filter (fun order => order.status == .placed)

theorem buildGroup_obligations (tolerance : ℚ) (group : String × List Order) :
    (buildGroup tolerance group).obligations =
      (placedRows group.2).zipIdx.map (fun indexed => toObligation indexed.1 indexed.2) := by
  unfold buildGroup
  split
  · next none => rw [none]; rfl
  · next first rest some => rw [some]

theorem forall₂_zipIdx (rows : List Order) :
    List.Forall₂ BuiltFrom rows (rows.zipIdx.map (fun indexed => toObligation indexed.1 indexed.2)) := by
  have each : List.Forall₂ BuiltFrom (rows.zipIdx.map Prod.fst)
      (rows.zipIdx.map (fun indexed => toObligation indexed.1 indexed.2)) := by
    rw [List.forall₂_map_left_iff, List.forall₂_map_right_iff, List.forall₂_same]
    exact fun indexed _ => ⟨indexed.2, rfl⟩
  rwa [List.zipIdx_map_fst] at each

theorem forall₂_groups (tolerance : ℚ) (groups : List (String × List Order)) :
    List.Forall₂ BuiltFrom (groups.flatMap fun group => placedRows group.2)
      ((groups.map (buildGroup tolerance)).flatMap ObligationBuildResult.obligations) := by
  induction groups with
  | nil => exact .nil
  | cons group rest ih =>
    rw [List.flatMap_cons, List.map_cons, List.flatMap_cons, buildGroup_obligations]
    exact List.rel_append (forall₂_zipIdx (placedRows group.2)) ih

/-- The obligations are built one from each placed row. -/
theorem buildObligations_rows (orders : List Order) (tolerance : ℚ) :
    ∃ rows, rows.Perm (placed orders) ∧
      List.Forall₂ BuiltFrom rows (buildObligations orders tolerance).obligations := by
  refine ⟨_, ?_, forall₂_groups tolerance (groupByOrder orders).rows⟩
  have grouped : ((groupByOrder orders).rows.flatMap Prod.snd).Perm orders :=
    KeyedTable.flatMap_group_perm (fun _ => rfl) orders
  have kept := grouped.filter (fun order => order.status == .placed)
  rwa [List.filter_flatMap] at kept

theorem orderSumException_fields {orderId : String} {first : Order} {rows : List Order} {tolerance : ℚ}
    {exception : ExceptionRecord} (raised : orderSumException orderId first rows tolerance = some exception) :
    exception.reason = .orderSumMismatch ∧ exception.orderId = some orderId ∧
      exception.settlementId = none ∧ exception.paymentType = none := by
  unfold orderSumException at raised
  dsimp only at raised
  split at raised
  · cases raised
  · cases raised
    exact ⟨rfl, rfl, rfl, rfl⟩

/-- A group has at most one exception, about its own order. -/
theorem buildGroup_exceptions {tolerance : ℚ} {group : String × List Order} {exception : ExceptionRecord}
    (member : exception ∈ (buildGroup tolerance group).orderSumExceptions) :
    (buildGroup tolerance group).orderSumExceptions = [exception] ∧
      exception.reason = .orderSumMismatch ∧ exception.orderId = some group.1 ∧
      exception.settlementId = none ∧ exception.paymentType = none := by
  unfold buildGroup at member ⊢
  split at member
  · cases member
  · next first rest some =>
    rw [Option.mem_toList] at member
    rw [member]
    exact ⟨rfl, orderSumException_fields member⟩

theorem orderSumExceptions_fields {orders : List Order} {tolerance : ℚ} {exception : ExceptionRecord}
    (member : exception ∈ (buildObligations orders tolerance).orderSumExceptions) :
    exception.reason = .orderSumMismatch ∧ exception.orderId.isSome ∧
      exception.settlementId = none ∧ exception.paymentType = none := by
  obtain ⟨built, inGroups, present⟩ := List.mem_flatMap.mp member
  obtain ⟨group, -, rfl⟩ := List.mem_map.mp inGroups
  obtain ⟨-, reason, order, settlement, paymentType⟩ := buildGroup_exceptions present
  exact ⟨reason, order ▸ rfl, settlement, paymentType⟩

/-- An order-sum exception names an order of the file. -/
theorem orderSumExceptions_order {orders : List Order} {tolerance : ℚ} {exception : ExceptionRecord}
    (member : exception ∈ (buildObligations orders tolerance).orderSumExceptions) :
    ∃ order ∈ orders, exception.orderId = some order.orderId := by
  obtain ⟨built, inGroups, present⟩ := List.mem_flatMap.mp member
  obtain ⟨group, inTable, rfl⟩ := List.mem_map.mp inGroups
  obtain ⟨-, -, named, -⟩ := buildGroup_exceptions present
  obtain ⟨order, inFile, same⟩ := KeyedTable.exists_of_mem_group inTable
  exact ⟨order, inFile, named.trans same.symm⟩

/-- An obligation names an order of the file. -/
theorem buildObligations_order {orders : List Order} {tolerance : ℚ} {obligation : Obligation}
    (member : obligation ∈ (buildObligations orders tolerance).obligations) :
    ∃ order ∈ orders, obligation.orderId = order.orderId := by
  obtain ⟨rows, perm, built⟩ := buildObligations_rows orders tolerance
  obtain ⟨row, present, seq, rfl⟩ := Reports.exists_of_forall₂ built.flip member
  exact ⟨row, List.mem_of_mem_filter (perm.subset present), rfl⟩

/-- Different order-sum exceptions are about different orders. -/
theorem orderSumExceptions_pairwise (orders : List Order) (tolerance : ℚ) :
    (buildObligations orders tolerance).orderSumExceptions.Pairwise fun first second =>
      first.orderId ≠ second.orderId := by
  have keys : (groupByOrder orders).rows.Pairwise fun first second => first.1 ≠ second.1 :=
    List.pairwise_map.mp (groupByOrder orders).unique
  change (((groupByOrder orders).rows.map (buildGroup tolerance)).flatMap
    ObligationBuildResult.orderSumExceptions).Pairwise _
  rw [List.flatMap_map, List.pairwise_flatMap]
  constructor
  · intro group _
    cases raised : (buildGroup tolerance group).orderSumExceptions with
    | nil => exact .nil
    | cons exception rest =>
      have member : exception ∈ (buildGroup tolerance group).orderSumExceptions :=
        raised ▸ List.mem_cons_self
      rw [← raised, (buildGroup_exceptions member).1]
      exact List.pairwise_singleton _ _
  · refine keys.imp fun {first second} different left leftMember right rightMember same => different ?_
    obtain ⟨-, -, leftOrder, -⟩ := buildGroup_exceptions leftMember
    obtain ⟨-, -, rightOrder, -⟩ := buildGroup_exceptions rightMember
    exact Option.some.inj (leftOrder.symm.trans (same.trans rightOrder))

end ReconcileFlow
