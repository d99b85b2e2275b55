import ReconcileFlow.Model.Offline
import ReconcileFlow.Model.Readers
import ReconcileFlow.Soundness.RowValidation
import ReconcileFlow.ToMathlib.Reports

/-! # Blank cells in required columns

The readers require columns by name and the models require fields. Blank cells are dropped before a row is
validated, and a dropped field is reported only if its model has no default for it. The order status has
one, so a blank status is read as `PLACED`; and a decimal signal anywhere in the table hides every report.
-/

namespace ReconcileFlow

variable {α : Type}

/-- Some required cell of the row is blank. -/
def HasBlank (required : List String) (row : Row) : Prop := ∃ column ∈ required, cleanCell (row column) = none

instance (required : List String) (row : Row) : Decidable (HasBlank required row) :=
  inferInstanceAs (Decidable (∃ _ ∈ _, _))

/-- A table with a blank required cell raises a `ParseError` with a line about every row that has one. -/
def BlanksRejected (required : List String) (rows : List Row) (result : Except ParserRaised (List α)) : Prop :=
  ∀ position row, rows[position]? = some row → HasBlank required row →
    ∃ message lines, result = .error (.parseError message lines) ∧
      ∃ line ∈ lines, MentionsRow (position + 2) line

/-- The row with `PLACED` written into its status cell. -/
def withPlaced (row : Row) : Row := Function.update row "status" (some "PLACED")

/-- The row would be accepted with `PLACED` in its status cell. -/
def AcceptedAsPlaced (parseDate : String → Except String Date) (row : Row) : Prop :=
  ∃ order, Order.modelValidate parseDate (rowPayload orderFieldMap (withPlaced row)) = .valid order

section Tables

variable {modelValidate : Payload → Validated α} {fieldMap : List (String × String)} {frame : List Row}

theorem validateRows_blanks_iff (required : List String) (fileLabel : String) :
    BlanksRejected required frame (validateRows modelValidate fileLabel fieldMap frame) ↔
      (∀ row ∈ frame, ¬ HasBlank required row) ∨
        (∀ row ∈ frame, (modelValidate (rowPayload fieldMap row)).isAborted = false) ∧
          ∀ row ∈ frame, HasBlank required row →
            (modelValidate (rowPayload fieldMap row)).isValid = false := by
  by_cases clean : ∀ row ∈ frame, ¬ HasBlank required row
  · exact iff_of_true (fun position row found blank =>
      (clean row (List.mem_of_getElem? found) blank).elim) (Or.inl clean)
  · rw [or_iff_right clean]
    push Not at clean
    obtain ⟨first, present, blank⟩ := clean
    obtain ⟨place, located⟩ := List.mem_iff_getElem?.mp present
    have reported : RowsReported modelValidate fieldMap frame
        (validateRows modelValidate fileLabel fieldMap frame) ↔ _ :=
      validateRows_reported_iff (List.ne_nil_of_mem present) fileLabel
    constructor
    · intro rejected
      obtain ⟨message, lines, raised, -⟩ := rejected place first located blank
      have run : ∀ row ∈ frame, (modelValidate (rowPayload fieldMap row)).isAborted = false := by
        intro row member
        by_contra aborts
        obtain ⟨signal, passed⟩ := validateRows_of_aborted fileLabel member (by simpa using aborts)
        cases raised.symm.trans passed
      refine ⟨run, fun row member blankRow => ?_⟩
      obtain ⟨position, found⟩ := List.mem_iff_getElem?.mp member
      obtain ⟨message', lines', raised', mentioned⟩ := rejected position row found blankRow
      rcases reported.mpr run with ⟨models, accepted, -⟩ | ⟨message'', lines'', raised'', -, mentions⟩
      · cases raised.symm.trans accepted
      · cases raised'.symm.trans raised''
        obtain ⟨position', row', found', same, invalid⟩ := (mentions _).mp mentioned
        obtain rfl : position = position' := by omega
        cases found.symm.trans found'
        exact (Checked.errors_ne_nil_iff (run row member)).mp invalid
    · rintro ⟨run, invalid⟩ position row found blankRow
      have member := List.mem_of_getElem? found
      have errors := (Checked.errors_ne_nil_iff (run row member)).mpr (invalid row member blankRow)
      rcases reported.mpr run with ⟨models, accepted, each⟩ | ⟨message, lines, raised, -, mentions⟩
      · obtain ⟨model, -, valid⟩ := Reports.exists_of_forall₂ each member
        rw [valid] at errors
        exact (errors rfl).elim
      · exact ⟨message, lines, raised, (mentions _).mpr ⟨position, row, found, rfl, errors⟩⟩

end Tables

/-- A required field that is accepted was filled in. -/
theorem filled_of_required {check : List String → String → Validated α} {payload : Payload} {column : String}
    {row : Row} (read : payload.lookup column = none ∨ payload.lookup column = cleanCell (row column))
    (accepted : (required payload column check).isValid = true) : cleanCell (row column) ≠ none := by
  intro blank
  have missing : payload.lookup column = none := read.elim id fun same => same.trans blank
  rw [required, missing] at accepted
  cases accepted

theorem lookup_rowPayload_or {fieldMap : List (String × String)} (keeps : ∀ entry ∈ fieldMap, entry.2 = entry.1)
    (row : Row) (column : String) : (rowPayload fieldMap row).lookup column = none ∨
      (rowPayload fieldMap row).lookup column = cleanCell (row column) := by
  rw [lookup_rowPayload keeps]
  split
  · exact Or.inr rfl
  · exact Or.inl rfl

theorem noExtra_rowPayload {fieldMap : List (String × String)} {fields : List String}
    (named : ∀ entry ∈ fieldMap, entry.2 ∈ fields) (row : Row) :
    noExtra (rowPayload fieldMap row) fields = .valid () := by
  have none : (rowPayload fieldMap row).filter (fun entry => !fields.contains entry.1) = [] := by
    refine List.filter_eq_nil_iff.mpr fun entry member => ?_
    obtain ⟨column, listed, written⟩ := List.mem_filterMap.mp member
    obtain ⟨text, -, rfl⟩ := Option.map_eq_some_iff.mp written
    simpa using named column listed
  rw [noExtra, none]

theorem orderFieldMap_keeps : ∀ entry ∈ orderFieldMap, entry.2 = entry.1 := by decide

theorem settlementFieldMap_keeps : ∀ entry ∈ settlementFieldMap, entry.2 = entry.1 := by decide

/-- A blank status is validated like `PLACED`. -/
theorem modelValidate_withPlaced (parseDate : String → Except String Date) {row : Row}
    (blank : cleanCell (row "status") = none) :
    Order.modelValidate parseDate (rowPayload orderFieldMap (withPlaced row)) =
      Order.modelValidate parseDate (rowPayload orderFieldMap row) := by
  have named : ∀ entry ∈ orderFieldMap, entry.2 ∈ orderFields := by decide
  have other {name : String} (different : name ≠ "status") :
      (rowPayload orderFieldMap (withPlaced row)).lookup name = (rowPayload orderFieldMap row).lookup name := by
    rw [lookup_rowPayload orderFieldMap_keeps, lookup_rowPayload orderFieldMap_keeps, withPlaced,
      Function.update_of_ne different]
  have placed : defaulted (rowPayload orderFieldMap (withPlaced row)) "status" orderStatusField .placed =
      .valid .placed := by
    rw [defaulted, lookup_rowPayload orderFieldMap_keeps, withPlaced, Function.update_self]
    decide
  have default : defaulted (rowPayload orderFieldMap row) "status" orderStatusField .placed = .valid .placed := by
    rw [defaulted, lookup_rowPayload orderFieldMap_keeps, blank, ite_self]
  unfold Order.modelValidate
  rw [placed, default, noExtra_rowPayload named, noExtra_rowPayload named]
  unfold required optional
  simp (disch := decide) only [other]

/-- An accepted order has every required cell but the status. -/
theorem order_filled {parseDate : String → Except String Date} {row : Row}
    (accepted : (Order.modelValidate parseDate (rowPayload orderFieldMap row)).isValid = true) {column : String}
    (listed : column ∈ orderRequiredColumns) (other : column ≠ "status") : cleanCell (row column) ≠ none := by
  have fields := Checked.isValid_of_andThen accepted
  simp only [Checked.isValid_ap, Bool.and_eq_true, and_assoc] at fields
  obtain ⟨-, orderId, orderDate, storeId, amount, paymentType, paymentAmount, -⟩ := fields
  have read := lookup_rowPayload_or orderFieldMap_keeps row
  simp only [orderRequiredColumns, List.mem_cons, List.not_mem_nil, or_false] at listed
  rcases listed with rfl | rfl | rfl | rfl | rfl | rfl | rfl
  · exact filled_of_required (read _) orderId
  · exact filled_of_required (read _) orderDate
  · exact filled_of_required (read _) storeId
  · exact filled_of_required (read _) amount
  · exact filled_of_required (read _) paymentType
  · exact filled_of_required (read _) paymentAmount
  · exact (other rfl).elim

/-- The default adds a net amount and nothing else. -/
theorem lookup_defaultNetAmount {payload completed : Payload} (added : defaultNetAmount payload = .ok completed)
    {name : String} (other : name ≠ "net_amount") : completed.lookup name = payload.lookup name := by
  unfold defaultNetAmount at added
  split at added
  · next amount _ _ =>
    cases written : netAmountText amount ((truthy (payload.lookup "fee")).getD "0") with
    | error signal =>
      rw [written] at added
      cases added
    | ok net =>
      rw [written] at added
      cases added
      rw [List.lookup_cons, beq_eq_false_iff_ne.mpr other]
  · cases added
    rfl

/-- An accepted settlement has every required cell. -/
theorem settlement_filled {parseDate : String → Except String Date} {row : Row}
    (accepted : (Settlement.modelValidate parseDate (rowPayload settlementFieldMap row)).isValid = true)
    {column : String} (listed : column ∈ settlementRequiredColumns) : cleanCell (row column) ≠ none := by
  unfold Settlement.modelValidate at accepted
  cases added : defaultNetAmount (rowPayload settlementFieldMap row) with
  | error signal =>
    rw [added] at accepted
    cases accepted
  | ok completed =>
    rw [added] at accepted
    unfold checkSettlement at accepted
    simp only [Checked.isValid_ap, Bool.and_eq_true, and_assoc] at accepted
    obtain ⟨-, settlementId, settlementDate, paymentType, amount, -, source, -⟩ := accepted
    have read {name : String} (other : name ≠ "net_amount") : completed.lookup name = none ∨
        completed.lookup name = cleanCell (row name) := by
      rw [lookup_defaultNetAmount added other]
      exact lookup_rowPayload_or settlementFieldMap_keeps row name
    simp only [settlementRequiredColumns, List.mem_cons, List.not_mem_nil, or_false] at listed
    rcases listed with rfl | rfl | rfl | rfl | rfl
    · exact filled_of_required (read (by decide)) settlementId
    · exact filled_of_required (read (by decide)) settlementDate
    · exact filled_of_required (read (by decide)) paymentType
    · exact filled_of_required (read (by decide)) amount
    · exact filled_of_required (read (by decide)) source

theorem order_blank_iff (parseDate : String → Except String Date) (row : Row) :
    (HasBlank orderRequiredColumns row →
        (Order.modelValidate parseDate (rowPayload orderFieldMap row)).isValid = false) ↔
      (cleanCell (row "status") = none → ¬ AcceptedAsPlaced parseDate row) := by
  constructor
  · rintro rejected blank ⟨order, valid⟩
    have invalid := rejected ⟨"status", by decide, blank⟩
    rw [← modelValidate_withPlaced parseDate blank, valid] at invalid
    cases invalid
  · rintro notPlaced ⟨column, listed, blank⟩
    refine Bool.eq_false_iff.mpr fun accepted => ?_
    by_cases status : column = "status"
    · subst status
      obtain ⟨order, valid⟩ := Option.isSome_iff_exists.mp accepted
      refine notPlaced blank ⟨order, ?_⟩
      rw [modelValidate_withPlaced parseDate blank]
      exact Checked.value?_eq_some_iff.mp valid
    · exact order_filled accepted listed status blank

theorem settlement_blank (parseDate : String → Except String Date) (row : Row)
    (blank : HasBlank settlementRequiredColumns row) :
    (Settlement.modelValidate parseDate (rowPayload settlementFieldMap row)).isValid = false := by
  obtain ⟨column, listed, blank⟩ := blank
  exact Bool.eq_false_iff.mpr fun accepted => settlement_filled accepted listed blank

theorem requireColumns_ok {frame : DataFrame} {required : List String}
    (present : ∀ column ∈ required, column ∈ frame.columns) (fileLabel : String) :
    requireColumns frame required fileLabel = .ok () := by
  have none : (required.filter fun name => decide (name ∉ frame.columns)) = [] :=
    List.filter_eq_nil_iff.mpr fun name listed => by simpa using present name listed
  rw [requireColumns, none]
  rfl

/-- A blank required cell is rejected in every row exactly when the table has none, or every amount in it
converts and no order with a blank status would be accepted as `PLACED`. -/
theorem blanks_rejected_iff (parseDate : String → Except String Date) (orders settlements : DataFrame)
    (orderColumns : ∀ column ∈ orderRequiredColumns, column ∈ orders.columns)
    (settlementColumns : ∀ column ∈ settlementRequiredColumns, column ∈ settlements.columns) :
    (BlanksRejected orderRequiredColumns orders.rows (readOrders parseDate orders) ↔
      (∀ row ∈ orders.rows, ¬ HasBlank orderRequiredColumns row) ∨
        (∀ row ∈ orders.rows, OrderConverts row) ∧
          ∀ row ∈ orders.rows, cleanCell (row "status") = none → ¬ AcceptedAsPlaced parseDate row) ∧
    (BlanksRejected settlementRequiredColumns settlements.rows (readSettlements parseDate settlements) ↔
      (∀ row ∈ settlements.rows, ¬ HasBlank settlementRequiredColumns row) ∨
        ∀ row ∈ settlements.rows, SettlementConverts row) := by
  constructor
  · rw [readOrders, requireColumns_ok orderColumns]
    refine (validateRows_blanks_iff _ _).trans (or_congr_right (and_congr ?_ ?_))
    · exact forall₂_congr fun row _ => order_converts_iff parseDate row
    · exact forall₂_congr fun row _ => order_blank_iff parseDate row
  · rw [readSettlements, requireColumns_ok settlementColumns]
    refine (validateRows_blanks_iff _ _).trans (or_congr_right ?_)
    rw [and_iff_left fun row _ => settlement_blank parseDate row]
    exact forall₂_congr fun row _ => settlement_converts_iff parseDate row

/-- A table with one order, of the given amount and status. -/
def orderTable (amount status : String) : DataFrame where
  columns := orderRequiredColumns
  cells := [["ORD-1", "2026-06-10", "STORE-1", amount, "CASH", "1000.00", status]]
  rectangular := by simp [orderRequiredColumns]

/-- A table with one settlement, of the given amount and source. -/
def settlementTable (amount source : String) : DataFrame where
  columns := settlementRequiredColumns
  cells := [["S-1", "2026-06-10", "CASH", amount, source]]
  rectangular := by simp [settlementRequiredColumns]

/-- A blank amount is reported in either file. -/
theorem blanks_rejected_amount :
    (∃ row ∈ (orderTable "" "PLACED").rows, HasBlank orderRequiredColumns row) ∧
    (∃ row ∈ (settlementTable "" "BANK").rows, HasBlank settlementRequiredColumns row) ∧
    BlanksRejected orderRequiredColumns (orderTable "" "PLACED").rows
      (readOrders readDate (orderTable "" "PLACED")) ∧
    BlanksRejected settlementRequiredColumns (settlementTable "" "BANK").rows
      (readSettlements readDate (settlementTable "" "BANK")) := by
  have rejected := blanks_rejected_iff readDate (orderTable "" "PLACED") (settlementTable "" "BANK")
    (by decide) (by decide)
  refine ⟨by decide +kernel, by decide +kernel, rejected.1.mpr (Or.inr ⟨?_, ?_⟩), rejected.2.mpr (Or.inr ?_)⟩
  · exact List.forall_mem_singleton.mpr ((order_converts_iff readDate _).mp (by decide +kernel))
  · exact List.forall_mem_singleton.mpr fun blank => by cases blank
  · exact List.forall_mem_singleton.mpr ((settlement_converts_iff readDate _).mp (by decide +kernel))

/-- An order with a blank status is read as placed, and a settlement with a blank source goes unreported
because its amount has a thousands separator. -/
theorem blanks_pass :
    (¬ ∀ (parseDate : String → Except String Date) (orders : DataFrame),
      (∀ column ∈ orderRequiredColumns, column ∈ orders.columns) →
        BlanksRejected orderRequiredColumns orders.rows (readOrders parseDate orders)) ∧
    ¬ ∀ (parseDate : String → Except String Date) (settlements : DataFrame),
      (∀ column ∈ settlementRequiredColumns, column ∈ settlements.columns) →
        BlanksRejected settlementRequiredColumns settlements.rows (readSettlements parseDate settlements) := by
  constructor
  · intro rejected
    have read : readOrders readDate (orderTable "1000.00" "") =
        .ok [{ makeOrder "ORD-1" ⟨100000⟩ with orderDate := 739777, storeId := "STORE-1" }] := by
      decide +kernel
    obtain ⟨message, lines, raised, -⟩ := rejected readDate (orderTable "1000.00" "") (by decide) 0 _ rfl
      (by decide +kernel)
    cases read.symm.trans raised
  · intro rejected
    have read : readSettlements readDate (settlementTable "1,000" "") = .error (.decimal .invalidOperation) := by
      decide +kernel
    obtain ⟨message, lines, raised, -⟩ := rejected readDate (settlementTable "1,000" "") (by decide) 0 _ rfl
      (by decide +kernel)
    cases read.symm.trans raised

end ReconcileFlow
