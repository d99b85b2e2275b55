import ReconcileFlow.Model.Offline
import ReconcileFlow.Soundness.DecimalSums
import ReconcileFlow.Soundness.ObligationBuilding

/-! # The order groups of the obligations

`build_obligations` lists the placed rows order by order, the orders as they first appear in the file,
and checks every order on its own. The check is the exact one unless rounding the sum to 28 digits moves it
across the tolerance (`buildObligations_grouped_iff`). The total an order is checked against is the one on
its first placed row, so the check depends on the order of rows whose totals differ
(`orderSums_invariant_iff`).
-/

namespace ReconcileFlow

/-- The placed rows of one order, in file order. -/
def placedOf (orders : List Order) (orderId : String) : List Order :=
  (placed orders).filter fun row => decide (row.orderId = orderId)

/-- The obligations of one order, numbered in file order. -/
def obligationsOf (orders : List Order) (orderId : String) : List Obligation :=
  (placedOf orders orderId).zipIdx.map fun indexed => toObligation indexed.1 indexed.2

/-- The order ids of the file, as they first appear. -/
def orderIds (orders : List Order) : List String := (orders.map Order.orderId).eraseDups

/-- What the rows of an order pay together. -/
def paidTotal (rows : List Order) : Money := (rows.map Order.paymentAmount).sum

/-- What `Decimal` adds them up to. -/
def paidSum (rows : List Order) : Money := Money.total (rows.map Order.paymentAmount)

/-- How far the rows of an order are from the total on the first of them. -/
def exactGap : List Order → ℚ
  | [] => 0
  | first :: rest => |(paidTotal (first :: rest)).rupees - first.amount.rupees|

/-- The gap as `Decimal` computes it. -/
def decimalGap : List Order → ℚ
  | [] => 0
  | first :: rest => |((paidSum (first :: rest)).minus first.amount : ℚ) / 100|

/-- There are rows, and the gap is beyond the tolerance. -/
def Beyond (gap : List Order → ℚ) (tolerance : ℚ) (rows : List Order) : Prop := rows ≠ [] ∧ tolerance < gap rows

instance (gap : List Order → ℚ) (tolerance : ℚ) (rows : List Order) : Decidable (Beyond gap tolerance rows) :=
  inferInstanceAs (Decidable (_ ∧ _))

/-- The rows pay less than 10^26 rupees, or the tolerance is not between the exact gap and the rounded
one. -/
def RoundingHarmless (tolerance : ℚ) (rows : List Order) : Prop :=
  (paidTotal rows).Validated ∨ tolerance < min (exactGap rows) (decimalGap rows) ∨
    max (exactGap rows) (decimalGap rows) ≤ tolerance

instance (tolerance : ℚ) (rows : List Order) : Decidable (RoundingHarmless tolerance rows) :=
  inferInstanceAs (Decidable (_ ∨ _))

/-- The exception of the placed rows of an order, if they are out of balance. -/
def groupException (tolerance : ℚ) (orderId : String) : List Order → Option ExceptionRecord
  | [] => none
  | first :: rest => orderSumException orderId first (first :: rest) tolerance

/-- What an order-sum exception says about the placed rows of its order. -/
structure SumMismatch (rows : List Order) (exception : ExceptionRecord) : Prop where
  reason : exception.reason = .orderSumMismatch
  expected : exception.expectedAmount = rows.head?.map Order.amount
  actual : exception.actualAmount = some (paidSum rows)
  excess : exception.status = .excess ↔ ∀ first ∈ rows.head?, first.amount.paise < (paidTotal rows).paise
  short : exception.status = .partiallyMatched ↔ exception.status ≠ .excess

theorem groupByOrder_rows (orders : List Order) : (groupByOrder orders).rows =
    (orderIds orders).map fun orderId =>
      (orderId, orders.filter fun order => decide (order.orderId = orderId)) := by
  have ids : orders.filterMap (fun order => some order.orderId) = orders.map Order.orderId :=
    congrFun List.filterMap_eq_map' orders
  rw [groupByOrder, KeyedTable.rows_group, ids]
  simp only [Option.some.injEq]
  rfl

theorem orderIds_nodup (orders : List Order) : (orderIds orders).Nodup := by
  have unique := (groupByOrder orders).unique
  rw [groupByOrder_rows, List.map_map] at unique
  exact List.Nodup.of_map _ (by simpa using unique)

theorem mem_orderIds {orders : List Order} {orderId : String} :
    orderId ∈ orderIds orders ↔ ∃ order ∈ orders, order.orderId = orderId := by
  rw [orderIds, List.mem_eraseDups, List.mem_map]

/-- The placed rows of a group are those of its order. -/
theorem placedRows_filter (orders : List Order) (orderId : String) :
    placedRows (orders.filter fun order => decide (order.orderId = orderId)) = placedOf orders orderId := by
  rw [placedRows, placedOf, placed, List.filter_filter, List.filter_filter]
  exact List.filter_congr fun order _ => Bool.and_comm _ _

theorem placedOf_eq_nil {orders : List Order} {orderId : String} (absent : orderId ∉ orderIds orders) :
    placedOf orders orderId = [] := by
  refine List.filter_eq_nil_iff.mpr fun row member named => absent ?_
  exact mem_orderIds.mpr ⟨row, List.mem_of_mem_filter member, of_decide_eq_true named⟩

theorem buildGroup_orderSums (tolerance : ℚ) (group : String × List Order) :
    (buildGroup tolerance group).orderSumExceptions =
      (groupException tolerance group.1 (placedRows group.2)).toList := by
  unfold buildGroup groupException
  cases placedRows group.2 with
  | nil => rfl
  | cons first rest => rfl

theorem obligations_eq (orders : List Order) (tolerance : ℚ) :
    (buildObligations orders tolerance).obligations = (orderIds orders).flatMap (obligationsOf orders) := by
  simp only [buildObligations, groupByOrder_rows, List.map_map, List.flatMap_map]
  refine List.flatMap_congr fun orderId _ => ?_
  rw [Function.comp_apply, buildGroup_obligations, placedRows_filter]
  rfl

theorem orderSumExceptions_eq (orders : List Order) (tolerance : ℚ) :
    (buildObligations orders tolerance).orderSumExceptions =
      (orderIds orders).filterMap fun orderId => groupException tolerance orderId (placedOf orders orderId) := by
  simp only [buildObligations, groupByOrder_rows, List.map_map, List.flatMap_map,
    List.filterMap_eq_flatMap_toList]
  refine List.flatMap_congr fun orderId _ => ?_
  rw [Function.comp_apply, buildGroup_orderSums, placedRows_filter]

theorem placedOf_orderId {orders : List Order} {orderId : String} {row : Order}
    (member : row ∈ placedOf orders orderId) : row.orderId = orderId :=
  of_decide_eq_true (List.mem_filter.mp member).2

theorem obligationsOf_orderId {orders : List Order} {orderId : String} {obligation : Obligation}
    (member : obligation ∈ obligationsOf orders orderId) : obligation.orderId = orderId := by
  obtain ⟨indexed, present, rfl⟩ := List.mem_map.mp member
  exact placedOf_orderId (List.fst_mem_of_mem_zipIdx present)

theorem expectedAmounts_obligationsOf (orders : List Order) (orderId : String) :
    (obligationsOf orders orderId).map Obligation.expectedAmount =
      (placedOf orders orderId).map Order.paymentAmount := by
  have rows := congrArg (List.map Order.paymentAmount) (List.zipIdx_map_fst 0 (placedOf orders orderId))
  rw [List.map_map] at rows
  rw [obligationsOf, List.map_map]
  exact rows

/-- What the orders contribute, restricted to one of them, is its own contribution. -/
theorem filter_flatMap_orders {α : Type} (orders : List Order) (contribution : String → List α)
    (owner : α → String) (owned : ∀ orderId, ∀ item ∈ contribution orderId, owner item = orderId)
    (orderId : String) (absent : orderId ∉ orderIds orders → contribution orderId = []) :
    ((orderIds orders).flatMap contribution).filter (fun item => decide (owner item = orderId)) =
      contribution orderId := by
  have own : (contribution orderId).filter (fun item => decide (owner item = orderId)) =
      contribution orderId :=
    List.filter_eq_self.mpr fun item member => decide_eq_true (owned orderId item member)
  have foreign (other : String) (different : other ≠ orderId) :
      (contribution other).filter (fun item => decide (owner item = orderId)) = [] := by
    refine List.filter_eq_nil_iff.mpr fun item member same => different ?_
    exact (owned other item member).symm.trans (of_decide_eq_true same)
  have distinct := orderIds_nodup orders
  generalize orderIds orders = ids at distinct absent
  rw [List.filter_flatMap]
  induction ids with
  | nil => exact (absent List.not_mem_nil).symm
  | cons head rest ih =>
    obtain ⟨fresh, distinct⟩ := List.nodup_cons.mp distinct
    rw [List.flatMap_cons]
    by_cases same : head = orderId
    · subst same
      have others : (rest.flatMap fun other =>
          (contribution other).filter fun item => decide (owner item = head)) = [] :=
        List.flatMap_eq_nil_iff.mpr fun other member => foreign other fun equal => fresh (equal ▸ member)
      rw [own, others, List.append_nil]
    · rw [foreign head same, List.nil_append]
      refine ih distinct fun missing => absent fun present => ?_
      exact (List.mem_cons.mp present).elim (fun equal => same equal.symm) missing

/-- The obligations of one order are its placed rows, in file order. -/
theorem obligations_restricted (orders : List Order) (tolerance : ℚ) (orderId : String) :
    (buildObligations orders tolerance).obligations.filter
      (fun obligation => decide (obligation.orderId = orderId)) = obligationsOf orders orderId := by
  rw [obligations_eq]
  refine filter_flatMap_orders orders (obligationsOf orders) Obligation.orderId
    (fun _ _ member => obligationsOf_orderId member) orderId fun absent => ?_
  rw [obligationsOf, placedOf_eq_nil absent]
  rfl

/-! ## Order sums -/

theorem groupException_isSome_iff {tolerance : ℚ} {orderId : String} {rows : List Order} :
    (groupException tolerance orderId rows).isSome ↔ Beyond decimalGap tolerance rows := by
  match rows with
  | [] => simp [groupException, Beyond]
  | first :: rest =>
    unfold groupException orderSumException
    change (if decimalGap (first :: rest) ≤ tolerance then none else some _).isSome = true ↔ _
    by_cases close : decimalGap (first :: rest) ≤ tolerance
    · rw [if_pos close]
      exact iff_of_false Bool.false_ne_true fun beyond => not_lt.mpr close beyond.2
    · rw [if_neg close]
      exact iff_of_true rfl ⟨List.cons_ne_nil _ _, not_le.mp close⟩

theorem groupException_orderId {tolerance : ℚ} {orderId : String} {rows : List Order}
    {exception : ExceptionRecord} (raised : groupException tolerance orderId rows = some exception) :
    exception.orderId = some orderId := by
  match rows with
  | [] => cases raised
  | first :: rest => exact (orderSumException_fields raised).2.1

theorem groupException_amounts {tolerance : ℚ} {orderId : String} {rows : List Order}
    {exception : ExceptionRecord} (raised : groupException tolerance orderId rows = some exception) :
    exception.expectedAmount = rows.head?.map Order.amount ∧ exception.actualAmount = some (paidSum rows) := by
  match rows with
  | [] => cases raised
  | first :: rest =>
    unfold groupException orderSumException at raised
    dsimp only at raised
    split at raised
    · cases raised
    · cases raised
      exact ⟨rfl, rfl⟩

theorem groupException_describes {tolerance : ℚ} {orderId : String} {rows : List Order}
    {exception : ExceptionRecord} (raised : groupException tolerance orderId rows = some exception)
    (valid : ∀ row ∈ rows, row.amount.Validated) : SumMismatch rows exception := by
  obtain ⟨expected, actual⟩ := groupException_amounts raised
  match rows with
  | [] => cases raised
  | first :: rest =>
    have across : first.amount.paise < (paidSum (first :: rest)).paise ↔
        first.amount.paise < (paidTotal (first :: rest)).paise :=
      Money.lt_total_iff (valid first List.mem_cons_self) _
    unfold groupException orderSumException at raised
    dsimp only at raised
    split_ifs at raised with close larger
    · cases raised
      exact ⟨rfl, expected, actual, iff_of_true rfl (by simpa using across.mp larger), by simp⟩
    · cases raised
      refine ⟨rfl, expected, actual, iff_of_false (by simp) ?_, by simp⟩
      simpa using fun paid => larger (across.mpr paid)

/-- The orders with an exception, in group order. -/
theorem orderSumExceptions_orderIds (orders : List Order) (tolerance : ℚ) :
    (buildObligations orders tolerance).orderSumExceptions.map ExceptionRecord.orderId =
      ((orderIds orders).filter fun orderId =>
        decide (Beyond decimalGap tolerance (placedOf orders orderId))).map some := by
  rw [orderSumExceptions_eq, List.map_filterMap, ← List.filterMap_eq_filter, List.map_filterMap]
  refine List.filterMap_congr fun orderId _ => ?_
  have listed : (groupException tolerance orderId (placedOf orders orderId)).isSome ↔
      Beyond decimalGap tolerance (placedOf orders orderId) := groupException_isSome_iff
  cases raised : groupException tolerance orderId (placedOf orders orderId) with
  | none =>
    rw [raised] at listed
    have balanced : ¬ Beyond decimalGap tolerance (placedOf orders orderId) :=
      fun beyond => by simpa using listed.mpr beyond
    simp [Option.guard, balanced]
  | some exception =>
    rw [raised] at listed
    have beyond := listed.mp rfl
    simp [Option.guard, beyond, groupException_orderId raised]

theorem mem_orderSumExceptions {orders : List Order} {tolerance : ℚ} {exception : ExceptionRecord} :
    exception ∈ (buildObligations orders tolerance).orderSumExceptions ↔
      ∃ orderId, groupException tolerance orderId (placedOf orders orderId) = some exception := by
  rw [orderSumExceptions_eq, List.mem_filterMap]
  constructor
  · rintro ⟨orderId, -, raised⟩
    exact ⟨orderId, raised⟩
  · rintro ⟨orderId, raised⟩
    refine ⟨orderId, ?_, raised⟩
    by_contra absent
    rw [placedOf_eq_nil absent] at raised
    cases raised

/-! ## The whole file -/

theorem expectedAmounts_built {rows : List Order} {obligations : List Obligation}
    (built : List.Forall₂ BuiltFrom rows obligations) :
    obligations.map Obligation.expectedAmount = rows.map Order.paymentAmount := by
  induction built with
  | nil => rfl
  | cons here _ ih =>
    obtain ⟨seq, rfl⟩ := here
    rw [List.map_cons, List.map_cons, ih]
    rfl

/-- The obligations are the placed rows grouped by order, and the order sums are checked exactly. -/
structure StableGrouping (orders : List Order) (tolerance : ℚ) (result : ObligationBuildResult) : Prop where
  grouped : result.obligations = (orderIds orders).flatMap (obligationsOf orders)
  oneEach : ∃ rows, rows.Perm (placed orders) ∧ List.Forall₂ BuiltFrom rows result.obligations
  restricted : ∀ orderId, result.obligations.filter (fun obligation => decide (obligation.orderId = orderId)) =
    obligationsOf orders orderId
  expected : ∀ orderId, (obligationsOf orders orderId).map Obligation.expectedAmount =
    (placedOf orders orderId).map Order.paymentAmount
  total : (result.obligations.map Obligation.expectedAmount).sum = paidTotal (placed orders)
  reported : result.orderSumExceptions.map ExceptionRecord.orderId =
    ((orderIds orders).filter fun orderId =>
      decide (Beyond exactGap tolerance (placedOf orders orderId))).map some
  once : result.orderSumExceptions.Pairwise fun first second => first.orderId ≠ second.orderId
  described : ∀ exception ∈ result.orderSumExceptions, ∀ orderId, exception.orderId = some orderId →
    SumMismatch (placedOf orders orderId) exception

/-- The same orders are picked exactly when every order of the file is picked alike. -/
theorem filter_orderIds_eq_iff {orders : List Order} {picks picks' : String → Prop} [DecidablePred picks]
    [DecidablePred picks'] (absent : ∀ orderId, orderId ∉ orderIds orders → ¬picks orderId ∧ ¬picks' orderId) :
    ((orderIds orders).filter fun orderId => decide (picks orderId)).map some =
        ((orderIds orders).filter fun orderId => decide (picks' orderId)).map some ↔
      ∀ orderId, picks orderId ↔ picks' orderId := by
  rw [(List.map_injective_iff.mpr (Option.some_injective String)).eq_iff]
  constructor
  · intro same orderId
    by_cases listed : orderId ∈ orderIds orders
    · have member := congrArg (orderId ∈ ·) same
      simpa [listed] using member
    · exact iff_of_false (absent orderId listed).1 (absent orderId listed).2
  · exact fun same => List.filter_congr fun orderId _ => decide_eq_decide.mpr (same orderId)

/-- Below 28 digits nothing is rounded. -/
theorem decimalGap_of_validated {rows : List Order} (valid : ∀ row ∈ rows, row.amount.Validated)
    (small : (paidTotal rows).Validated) : decimalGap rows = exactGap rows := by
  cases rows with
  | nil => rfl
  | cons first rest =>
    have sum : paidSum (first :: rest) = paidTotal (first :: rest) := Money.total_of_validated small
    change |((paidSum (first :: rest)).minus first.amount : ℚ) / 100| =
      |(paidTotal (first :: rest)).rupees - first.amount.rupees|
    rw [sum, Money.rupees_minus_of_validated small (valid first List.mem_cons_self)]

/-- Rounding is harmless exactly when it does not move the gap across the tolerance. -/
theorem roundingHarmless_iff {rows : List Order} (valid : ∀ row ∈ rows, row.amount.Validated) (tolerance : ℚ) :
    RoundingHarmless tolerance rows ↔ (Beyond decimalGap tolerance rows ↔ Beyond exactGap tolerance rows) := by
  unfold RoundingHarmless Beyond
  by_cases small : (paidTotal rows).Validated
  · refine iff_of_true (Or.inl small) ?_
    rw [decimalGap_of_validated valid small]
  · have listed : rows ≠ [] := by
      rintro rfl
      exact small (by decide)
    rw [or_iff_right small, and_iff_right listed, and_iff_right listed, lt_min_iff, max_le_iff]
    constructor
    · rintro (⟨exact', rounded⟩ | ⟨exact', rounded⟩)
      · exact iff_of_true rounded exact'
      · exact iff_of_false (not_lt.mpr rounded) (not_lt.mpr exact')
    · intro same
      rcases lt_or_ge tolerance (exactGap rows) with beyond | close
      · exact Or.inl ⟨beyond, same.mpr beyond⟩
      · exact Or.inr ⟨close, not_lt.mp fun beyond => not_lt.mpr close (same.mp beyond)⟩

/-- No row is lost, repeated or moved to another order, and the sums are checked exactly when for every order
the payments are less than 10^26 rupees or rounding to 28 digits does not jump over the tolerance. -/
theorem buildObligations_grouped_iff {orders : List Order} (valid : ∀ order ∈ orders, order.amount.Validated)
    (tolerance : ℚ) :
    StableGrouping orders tolerance (buildObligations orders tolerance) ↔
      ∀ orderId, RoundingHarmless tolerance (placedOf orders orderId) := by
  have none (gap : List Order → ℚ) {orderId : String} (absent : orderId ∉ orderIds orders) :
      ¬Beyond gap tolerance (placedOf orders orderId) := fun beyond => beyond.1 (placedOf_eq_nil absent)
  have same : (buildObligations orders tolerance).orderSumExceptions.map ExceptionRecord.orderId =
      ((orderIds orders).filter fun orderId =>
        decide (Beyond exactGap tolerance (placedOf orders orderId))).map some ↔
        ∀ orderId, RoundingHarmless tolerance (placedOf orders orderId) := by
    rw [orderSumExceptions_orderIds, filter_orderIds_eq_iff fun orderId absent => ⟨none _ absent, none _ absent⟩]
    refine forall_congr' fun orderId => (roundingHarmless_iff (fun row present => valid row ?_) tolerance).symm
    exact List.mem_of_mem_filter (List.mem_of_mem_filter present)
  refine ⟨fun grouping => same.mp grouping.reported, fun harmless => ?_⟩
  exact
    { grouped := obligations_eq orders tolerance
      oneEach := buildObligations_rows orders tolerance
      restricted := obligations_restricted orders tolerance
      expected := expectedAmounts_obligationsOf orders
      total := by
        obtain ⟨rows, perm, built⟩ := buildObligations_rows orders tolerance
        rw [expectedAmounts_built built]
        exact Money.sum_perm (perm.map Order.paymentAmount)
      reported := same.mpr harmless
      once := orderSumExceptions_pairwise orders tolerance
      described := by
        intro exception member orderId named
        obtain ⟨own, raised⟩ := mem_orderSumExceptions.mp member
        obtain rfl : own = orderId := Option.some.inj ((groupException_orderId raised).symm.trans named)
        refine groupException_describes raised fun row present => valid row ?_
        exact List.mem_of_mem_filter (List.mem_of_mem_filter present) }

/-- An order of 1000 rupees of which 900 are paid in two parts, and one that is paid in full. -/
def splitOrders : List Order :=
  [makeOrder "O1" ⟨100000⟩ ⟨60000⟩, makeOrder "O2" ⟨50000⟩, makeOrder "O1" ⟨100000⟩ ⟨30000⟩]

theorem buildObligations_grouped_split : StableGrouping splitOrders 1 (buildObligations splitOrders 1) := by
  refine (buildObligations_grouped_iff (by decide) 1).mpr fun orderId => ?_
  by_cases listed : orderId ∈ orderIds splitOrders
  · have each : ∀ orderId ∈ orderIds splitOrders, RoundingHarmless 1 (placedOf splitOrders orderId) := by
      decide +kernel
    exact each orderId listed
  · rw [placedOf_eq_nil listed]
    exact Or.inl (by decide)

/-- An order of the largest amount with 28 digits, paid by that amount and one rupee more. -/
def roundedOrders : List Order :=
  [makeOrder "O1" ⟨10 ^ 28 - 1⟩, makeOrder "O1" ⟨10 ^ 28 - 1⟩ ⟨100⟩]

/-- The exact gap is the tolerance of one rupee; the sum is rounded up by a paisa and reported. -/
theorem rounded_sum_reported : ¬ StableGrouping roundedOrders 1 (buildObligations roundedOrders 1) := by
  intro grouping
  have reported := grouping.reported
  revert reported
  decide +kernel

/-! ## Rows in another order -/

/-- What the order-sum exceptions report: an order with its expected and its actual amount. -/
def sumReports (result : ObligationBuildResult) : List (Option String × Option Money × Option Money) :=
  result.orderSumExceptions.map fun exception =>
    (exception.orderId, exception.expectedAmount, exception.actualAmount)

/-- Every order of the rows reports the same sums. -/
def SumsInvariant (orders : List Order) (tolerance : ℚ) : Prop :=
  ∀ other, other.Perm orders → ∀ report,
    report ∈ sumReports (buildObligations other tolerance) ↔
      report ∈ sumReports (buildObligations orders tolerance)

/-- `Decimal` adds the payments up to the same sum in every order of the rows. -/
def SumStable (rows : List Order) : Prop := ∀ other, other.Perm rows → paidSum other = paidSum rows

/-- Where the sum is stable, the rows quote one total, or each of them a total within the tolerance of the
sum. Where it is not, no order of the rows is beyond the tolerance. -/
def TotalsSettled (tolerance : ℚ) (rows : List Order) : Prop :=
  (SumStable rows → (∀ row ∈ rows, ∀ other ∈ rows, row.amount = other.amount) ∨
    ∀ row ∈ rows, |((paidSum rows).minus row.amount : ℚ) / 100| ≤ tolerance) ∧
  (¬SumStable rows → ∀ other, other.Perm rows → ¬Beyond decimalGap tolerance other)

theorem sumStable_of_validated {rows : List Order} (small : (paidTotal rows).Validated) : SumStable rows := by
  intro other perm
  have total : paidTotal other = paidTotal rows := Money.sum_perm (perm.map Order.paymentAmount)
  unfold paidSum
  rw [Money.total_of_validated (show (paidTotal other).Validated from total ▸ small),
    Money.total_of_validated (show (paidTotal rows).Validated from small)]
  exact total

/-- Where the sum is stable, no order of the rows is beyond the tolerance when none of the totals is. -/
theorem SumStable.balanced_iff {rows : List Order} (stable : SumStable rows) {tolerance : ℚ} :
    (∀ other, other.Perm rows → ¬Beyond decimalGap tolerance other) ↔
      ∀ row ∈ rows, |((paidSum rows).minus row.amount : ℚ) / 100| ≤ tolerance := by
  constructor
  · intro none row member
    have front : (row :: rows.erase row).Perm rows := (List.perm_cons_erase member).symm
    have close : decimalGap (row :: rows.erase row) ≤ tolerance :=
      not_lt.mp fun beyond => none _ front ⟨List.cons_ne_nil _ _, beyond⟩
    rw [← stable _ front]
    exact close
  · rintro close other perm ⟨listed, beyond⟩
    cases other with
    | nil => exact listed rfl
    | cons first rest =>
      change tolerance < |((paidSum (first :: rest)).minus first.amount : ℚ) / 100| at beyond
      rw [stable _ perm] at beyond
      exact not_lt.mpr (close first (perm.subset List.mem_cons_self)) beyond

/-- Rows are settled when no order of them is beyond the tolerance, or when they quote one total and the sum
is stable. -/
theorem totalsSettled_cases {tolerance : ℚ} {rows : List Order} : TotalsSettled tolerance rows ↔
    (∀ other, other.Perm rows → ¬Beyond decimalGap tolerance other) ∨
      (∀ row ∈ rows, ∀ other ∈ rows, row.amount = other.amount) ∧ SumStable rows := by
  unfold TotalsSettled
  by_cases stable : SumStable rows
  · simp only [stable, stable.balanced_iff, true_implies, not_true_eq_false, false_implies, and_true]
    exact or_comm
  · simp only [stable, false_implies, not_false_eq_true, true_implies, true_and, and_false, or_false]

/-- What is reported about the placed rows of one order. -/
def rowsReport (tolerance : ℚ) (orderId : String) (rows : List Order) :
    Option (Option String × Option Money × Option Money) :=
  if Beyond decimalGap tolerance rows then
    some (some orderId, rows.head?.map Order.amount, some (paidSum rows))
  else none

theorem mem_sumReports {orders : List Order} {tolerance : ℚ}
    {report : Option String × Option Money × Option Money} :
    report ∈ sumReports (buildObligations orders tolerance) ↔
      ∃ orderId, rowsReport tolerance orderId (placedOf orders orderId) = some report := by
  have reports (orderId : String) (rows : List Order) :
      rowsReport tolerance orderId rows = (groupException tolerance orderId rows).map fun exception =>
        (exception.orderId, exception.expectedAmount, exception.actualAmount) := by
    have listed := @groupException_isSome_iff tolerance orderId rows
    unfold rowsReport
    cases raised : groupException tolerance orderId rows with
    | none =>
      rw [raised] at listed
      exact if_neg fun beyond => Bool.false_ne_true (listed.mpr beyond)
    | some exception =>
      rw [raised] at listed
      rw [if_pos (listed.mp rfl), Option.map_some, groupException_orderId raised]
      obtain ⟨expected, actual⟩ := groupException_amounts raised
      rw [expected, actual]
  simp only [reports, sumReports, List.mem_map, Option.map_eq_some_iff, mem_orderSumExceptions]
  constructor
  · rintro ⟨exception, ⟨orderId, raised⟩, same⟩
    exact ⟨orderId, exception, raised, same⟩
  · rintro ⟨orderId, exception, raised, same⟩
    exact ⟨exception, ⟨orderId, raised⟩, same⟩

theorem placedOf_perm {orders other : List Order} (perm : other.Perm orders) (orderId : String) :
    (placedOf other orderId).Perm (placedOf orders orderId) :=
  (perm.filter _).filter _

/-- The row is a placed row of the order. -/
def ofOrder (orderId : String) (row : Order) : Bool := decide (row.orderId = orderId) && (row.status == .placed)

theorem placedOf_eq (orders : List Order) (orderId : String) :
    placedOf orders orderId = orders.filter (ofOrder orderId) := List.filter_filter

/-- The file with the placed rows of one order moved to its start, in the given order. -/
def arranged (orders : List Order) (orderId : String) (rows : List Order) : List Order :=
  rows ++ orders.filter fun row => !ofOrder orderId row

theorem arranged_perm {orders rows : List Order} {orderId : String} (perm : rows.Perm (placedOf orders orderId)) :
    (arranged orders orderId rows).Perm orders := by
  rw [placedOf_eq] at perm
  exact (perm.append_right _).trans (List.filter_append_perm _ _)

theorem placedOf_arranged {orders rows : List Order} {orderId : String}
    (perm : rows.Perm (placedOf orders orderId)) : placedOf (arranged orders orderId rows) orderId = rows := by
  rw [placedOf_eq] at perm ⊢
  have own : rows.filter (ofOrder orderId) = rows :=
    List.filter_eq_self.mpr fun row member => (List.mem_filter.mp (perm.subset member)).2
  have none : (orders.filter fun row => !ofOrder orderId row).filter (ofOrder orderId) = [] :=
    List.filter_eq_nil_iff.mpr fun row member => by simpa using (List.mem_filter.mp member).2
  rw [arranged, List.filter_append, own, none, List.append_nil]

/-- Settled rows are reported alike in every order. -/
theorem rowsReport_perm {tolerance : ℚ} {rows other : List Order} (settled : TotalsSettled tolerance rows)
    (perm : other.Perm rows) (orderId : String) :
    rowsReport tolerance orderId other = rowsReport tolerance orderId rows := by
  rcases totalsSettled_cases.mp settled with balanced | ⟨quoted, stable⟩
  · unfold rowsReport
    rw [if_neg (balanced other perm), if_neg (balanced rows (List.Perm.refl rows))]
  · cases rows with
    | nil => rw [perm.eq_nil]
    | cons first rest =>
      cases other with
      | nil => cases perm.symm.eq_nil
      | cons first' rest' =>
        have amount : first'.amount = first.amount :=
          quoted first' (perm.subset List.mem_cons_self) first List.mem_cons_self
        have sum := stable _ perm
        have gap : decimalGap (first' :: rest') = decimalGap (first :: rest) := by
          change |((paidSum (first' :: rest')).minus first'.amount : ℚ) / 100| =
            |((paidSum (first :: rest)).minus first.amount : ℚ) / 100|
          rw [sum, amount]
        unfold rowsReport Beyond
        simp only [gap, sum, amount, List.head?_cons, Option.map_some, ne_eq, List.cons_ne_nil]

/-- The check does not depend on the order of the rows exactly when the placed rows of every order are
settled. -/
theorem orderSums_invariant_iff (orders : List Order) (tolerance : ℚ) :
    SumsInvariant orders tolerance ↔ ∀ orderId, TotalsSettled tolerance (placedOf orders orderId) := by
  constructor
  · intro invariant orderId
    refine totalsSettled_cases.mpr (or_iff_not_imp_left.mpr fun unbalanced => ?_)
    push Not at unbalanced
    obtain ⟨worst, arrangement, beyond⟩ := unbalanced
    have worstReported : rowsReport tolerance orderId worst =
        some (some orderId, worst.head?.map Order.amount, some (paidSum worst)) := if_pos beyond
    -- However the rows stand, the report is the one of the worst arrangement.
    have alike {rows : List Order} (perm : rows.Perm (placedOf orders orderId)) :
        rows.head?.map Order.amount = worst.head?.map Order.amount ∧ paidSum rows = paidSum worst := by
      have reported : (some orderId, worst.head?.map Order.amount, some (paidSum worst)) ∈
          sumReports (buildObligations (arranged orders orderId rows) tolerance) := by
        rw [invariant _ (arranged_perm perm), ← invariant _ (arranged_perm arrangement), mem_sumReports]
        exact ⟨orderId, by rw [placedOf_arranged arrangement, worstReported]⟩
      obtain ⟨named, report⟩ := mem_sumReports.mp reported
      unfold rowsReport at report
      split at report
      · obtain ⟨rfl, amount, sum⟩ : named = orderId ∧ _ ∧ _ := by simpa using report
        rw [placedOf_arranged perm] at amount sum
        exact ⟨amount, sum⟩
      · cases report
    have front {row : Order} (member : row ∈ placedOf orders orderId) :
        (row :: (placedOf orders orderId).erase row).Perm (placedOf orders orderId) :=
      (List.perm_cons_erase member).symm
    refine ⟨fun row member other member' => ?_, fun other perm => ?_⟩
    · exact Option.some.inj ((alike (front member)).1.trans (alike (front member')).1.symm)
    · exact (alike perm).2.trans (alike (List.Perm.refl _)).2.symm
  · intro settled other perm report
    rw [mem_sumReports, mem_sumReports]
    refine exists_congr fun orderId => ?_
    rw [rowsReport_perm (settled orderId) (placedOf_perm perm orderId)]

/-- Where the payments total at most 28 digits, rows are settled when they quote one total, or each of them a
total within the tolerance of their sum. -/
theorem totalsSettled_iff {tolerance : ℚ} {rows : List Order} (valid : ∀ row ∈ rows, row.amount.Validated)
    (small : (paidTotal rows).Validated) :
    TotalsSettled tolerance rows ↔ (∀ row ∈ rows, ∀ other ∈ rows, row.amount = other.amount) ∨
      ∀ row ∈ rows, |(paidTotal rows).rupees - row.amount.rupees| ≤ tolerance := by
  have stable := sumStable_of_validated small
  have sum : paidSum rows = paidTotal rows := Money.total_of_validated small
  have gap : ∀ row ∈ rows, |((paidSum rows).minus row.amount : ℚ) / 100| =
      |(paidTotal rows).rupees - row.amount.rupees| := by
    intro row member
    rw [sum, Money.rupees_minus_of_validated small (valid row member)]
  rw [totalsSettled_cases, stable.balanced_iff, and_iff_left stable, or_comm]
  exact or_congr_right (forall₂_congr fun row member => by rw [gap row member])

/-- Two cash rows of one order that quote different totals, 1000 and 500 rupees. -/
def unequalTotals : List Order := [makeOrder "O1" ⟨100000⟩ ⟨70000⟩, makeOrder "O1" ⟨50000⟩ ⟨30000⟩]

/-- The rows sum to the first total and not to the second. -/
theorem unequal_totals_reported : ¬ SumsInvariant unequalTotals 1 := by
  intro invariant
  have same := invariant unequalTotals.reverse (List.reverse_perm _)
    (some "O1", some ⟨50000⟩, some ⟨100000⟩)
  revert same
  decide +kernel

end ReconcileFlow
