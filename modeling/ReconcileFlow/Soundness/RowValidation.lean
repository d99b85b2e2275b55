import ReconcileFlow.Model.Parsers
import ReconcileFlow.Soundness.PaiseRange
import ReconcileFlow.ToMathlib.Numerals

/-! # When a table is validated or reported

`validate_rows` turns the errors of a row into lines of a `ParseError`, but a cell that is not a number, or
not an amount of money, raises a decimal signal, which is not a `ValueError` and passes through. A table is
validated or reported exactly when every amount converts (`row_validation_iff`).
-/

namespace ReconcileFlow

open Decimal (Convertible paiseBound)

variable {α : Type}

/-- The line is about the row with this number. -/
def MentionsRow (number : ℕ) (line : String) : Prop := ∃ rest, line = "row " ++ toString number ++ ": " ++ rest

theorem mentionsRow_rowError_iff {number rowNumber : ℕ} {error : FieldError} :
    MentionsRow number (rowError rowNumber error) ↔ number = rowNumber := by
  unfold MentionsRow rowError
  constructor
  · rintro ⟨rest, same⟩
    have texts := congrArg String.toList same
    simp only [String.toList_append, List.append_assoc, List.append_cancel_left_eq] at texts
    exact (Numerals.eq_of_numeral (by decide) (by decide) texts).symm
  · rintro rfl
    exact ⟨_, by simp only [String.append_assoc]; rfl⟩

section Tables

variable (modelValidate : Payload → Validated α) (fieldMap : List (String × String))

/-- One model for each row, in order, or a `ParseError` that mentions exactly the invalid rows. -/
def RowsReported (frame : List Row) (result : Except ParserRaised (List α)) : Prop :=
  (∃ models, result = .ok models ∧
      List.Forall₂ (fun row model => modelValidate (rowPayload fieldMap row) = .valid model) frame models) ∨
    ∃ message lines, result = .error (.parseError message lines) ∧ lines ≠ [] ∧
      ∀ number, (∃ line ∈ lines, MentionsRow number line) ↔
        ∃ position row, frame[position]? = some row ∧ number = position + 2 ∧
          (modelValidate (rowPayload fieldMap row)).errors ≠ []

variable {modelValidate fieldMap}

/-- The lines that a table without aborted rows collects. -/
theorem mem_reported_iff {frame : List Row} {line : String} :
    line ∈ (frame.zipIdx.flatMap fun numbered =>
        (checkRow modelValidate fieldMap numbered).errors.map (reportRow numbered)) ↔
      ∃ position row, frame[position]? = some row ∧
        ∃ error ∈ (modelValidate (rowPayload fieldMap row)).errors, rowError (position + 2) error = line := by
  simp only [List.mem_flatMap, List.mem_map, checkRow, reportRow]
  constructor
  · rintro ⟨⟨row, position⟩, member, reported⟩
    exact ⟨position, row, List.mem_zipIdx_iff_getElem?.mp member, reported⟩
  · rintro ⟨position, row, found, reported⟩
    exact ⟨(row, position), List.mem_zipIdx_iff_getElem?.mpr found, reported⟩

/-- A row that aborts takes the whole table with it. -/
theorem validateRows_of_aborted {frame : List Row} (fileLabel : String) {row : Row} (member : row ∈ frame)
    (aborts : (modelValidate (rowPayload fieldMap row)).isAborted = true) :
    ∃ signal, validateRows modelValidate fileLabel fieldMap frame = .error (.decimal signal) := by
  obtain ⟨position, found⟩ := List.mem_iff_getElem?.mp member
  have numbered : (row, position) ∈ frame.zipIdx := List.mem_zipIdx_iff_getElem?.mpr found
  obtain ⟨signal, raised⟩ : ∃ signal,
      Checked.collect (checkRow modelValidate fieldMap) reportRow frame.zipIdx = .error signal :=
    Checked.collect_of_aborted numbered aborts
  unfold validateRows
  rw [if_neg (by simp [List.ne_nil_of_mem member]), raised]
  exact ⟨signal, rfl⟩

/-- A nonempty table is validated or reported exactly when no row aborts. -/
theorem validateRows_reported_iff {frame : List Row} (nonempty : frame ≠ []) (fileLabel : String) :
    RowsReported modelValidate fieldMap frame (validateRows modelValidate fileLabel fieldMap frame) ↔
      ∀ row ∈ frame, (modelValidate (rowPayload fieldMap row)).isAborted = false := by
  constructor
  · intro reported row member
    by_contra aborts
    obtain ⟨signal, raised⟩ := validateRows_of_aborted fileLabel member (by simpa using aborts)
    rw [raised] at reported
    rcases reported with ⟨models, impossible, -⟩ | ⟨message, lines, impossible, -⟩
    · cases impossible
    · cases impossible
  · intro run
    unfold validateRows
    rw [if_neg (by simp [nonempty])]
    have runAll : ∀ numbered ∈ frame.zipIdx, (checkRow modelValidate fieldMap numbered).isAborted = false :=
      fun numbered member => run numbered.1 (List.fst_mem_of_mem_zipIdx member)
    rw [Checked.collect_of_run runAll]
    dsimp only
    split
    · next clean =>
      have accepted : ∀ numbered ∈ frame.zipIdx, (checkRow modelValidate fieldMap numbered).errors = [] := by
        intro numbered member
        simpa using List.flatMap_eq_nil_iff.mp (List.isEmpty_iff.mp clean) numbered member
      refine .inl ⟨_, rfl, ?_⟩
      have fronts : frame.zipIdx.map Prod.fst = frame := List.zipIdx_map_fst 0 frame
      nth_rewrite 1 [← fronts]
      exact List.forall₂_map_left_iff.mpr (Checked.forall₂_of_no_errors runAll accepted)
    · next failed =>
      refine .inr ⟨_, _, rfl, by simpa using failed, fun number => ?_⟩
      simp only [mem_reported_iff]
      constructor
      · rintro ⟨line, ⟨position, row, found, error, member, rfl⟩, mentions⟩
        exact ⟨position, row, found, mentionsRow_rowError_iff.mp mentions, List.ne_nil_of_mem member⟩
      · rintro ⟨position, row, found, rfl, invalid⟩
        obtain ⟨error, member⟩ := List.exists_mem_of_ne_nil _ invalid
        exact ⟨_, ⟨position, row, found, error, member, rfl⟩, mentionsRow_rowError_iff.mpr rfl⟩

end Tables

/-! ## Money cells -/

theorem strip_idempotent (text : List Char) : strip (strip text) = strip text := by
  unfold strip
  have starts := List.dropWhile_idempotent isSpace text
  generalize text.dropWhile isSpace = rest at starts ⊢
  have kept : (rest.rdropWhile isSpace).dropWhile isSpace = rest.rdropWhile isSpace := by
    obtain ⟨ending, whole⟩ := List.rdropWhile_prefix isSpace rest
    cases front : rest.rdropWhile isSpace with
    | nil => rfl
    | cons first more =>
      refine List.dropWhile_cons_of_neg fun space => ?_
      rw [← whole, front, List.cons_append, List.dropWhile_cons_of_pos space] at starts
      have shorter := (List.dropWhile_suffix isSpace (l := more ++ ending)).length_le
      rw [starts, List.length_cons] at shorter
      omega
  rw [kept, List.rdropWhile_idempotent]

theorem ofText_strip (text : String) : Decimal.ofText (String.ofList (strip text.toList)) = Decimal.ofText text := by
  simp only [Decimal.ofText, numericAsAscii, String.toList_ofList, strip_idempotent]

/-- A text that is not blank converts to money exactly when it is a number in range. -/
theorem toMoney_isOk_iff {text : String} (nonblank : strip text.toList ≠ []) :
    (toMoney text).isOk = true ↔ Convertible text := by
  have filled : String.ofList (strip text.toList) ≠ "" := by simpa [← String.toList_inj] using nonblank
  unfold toMoney Convertible
  dsimp only
  rw [if_neg filled, ofText_strip]
  cases Decimal.ofText text with
  | error signal => simp [bind, Except.bind, Except.isOk, Except.toBool]
  | ok value =>
    simp only [bind, Except.bind, Except.ok.injEq, exists_eq_left']
    exact Decimal.quantizePaise_isOk_iff value

/-- A cleaned cell is not blank. -/
theorem cleanCell_nonblank {cell : Option String} {text : String} (cleaned : cleanCell cell = some text) :
    strip text.toList ≠ [] := by
  unfold cleanCell truthy at cleaned
  rw [Option.filter_eq_some_iff, Option.map_eq_some_iff] at cleaned
  obtain ⟨⟨raw, -, rfl⟩, filled⟩ := cleaned
  rw [String.toList_ofList, strip_idempotent]
  intro blank
  simp [blank] at filled

theorem truthy_cleanCell (cell : Option String) : truthy (cleanCell cell) = cleanCell cell := by
  unfold cleanCell truthy
  rw [Option.filter_filter]
  simp

/-- The net amount that stands in for a blank cell converts exactly when the difference is in range. -/
theorem netAmount_converts_iff {amount fee : String} {value value' : Decimal}
    (read : Decimal.ofText amount = .ok value) (read' : Decimal.ofText fee = .ok value') (fits : value.FitsPaise)
    (fits' : value'.FitsPaise) :
    (∃ net, netAmountText amount fee = .ok net ∧ (toMoney net).isOk = true) ↔
      |value.paise - value'.paise| < paiseBound := by
  rw [← Decimal.difference_fits_iff fits fits']
  unfold netAmountText
  rw [read, read']
  simp only [bind, Except.bind]
  cases difference : value.sub value' with
  | error signal => simp
  | ok net =>
    simp only [pure, Except.pure, Except.ok.injEq, exists_eq_left']
    exact toMoney_isOk_iff net.text_nonblank

/-- The field of a column that keeps its name is looked up in the row. -/
theorem lookup_rowPayload {fieldMap : List (String × String)} (keeps : ∀ entry ∈ fieldMap, entry.2 = entry.1)
    (row : Row) (name : String) :
    (rowPayload fieldMap row).lookup name =
      if name ∈ fieldMap.map Prod.fst then cleanCell (row name) else none := by
  unfold rowPayload
  induction fieldMap with
  | nil => rfl
  | cons entry rest ih =>
    obtain ⟨same, keepsRest⟩ := List.forall_mem_cons.mp keeps
    obtain ⟨column, field⟩ := entry
    cases same
    rw [List.filterMap_cons, List.map_cons]
    by_cases here : name = column
    · subst here
      cases cell : cleanCell (row name) with
      | none => rw [Option.map_none, ih keepsRest, cell, ite_self, ite_self]
      | some text => simp
    · simp only [List.mem_cons, here, false_or]
      rw [← ih keepsRest]
      cases cell : cleanCell (row column) with
      | none => rfl
      | some text => simp [List.lookup_cons, beq_eq_false_iff_ne.mpr here]

/-! ## Which checks abort -/

/-- A field check that never raises anything but a `ValueError`. -/
def NeverAborts (check : List String → String → Validated α) : Prop :=
  ∀ loc text, (check loc text).isAborted = false

theorem textField_neverAborts : NeverAborts textField := fun _ _ => rfl

theorem dateField_neverAborts (parseDate : String → Except String Date) : NeverAborts (dateField parseDate) := by
  intro loc text
  unfold dateField
  cases parseDate text <;> rfl

theorem enumField_neverAborts (members : List α) (value : α → String) : NeverAborts (enumField members value) := by
  intro loc text
  unfold enumField
  split <;> rfl

section Fields

variable {check : List String → String → Validated α} {payload : Payload} {name : String}

theorem NeverAborts.required (never : NeverAborts check) : (required payload name check).isAborted = false := by
  unfold ReconcileFlow.required
  split
  · exact never _ _
  · rfl

theorem NeverAborts.optional (never : NeverAborts check) : (optional payload name check).isAborted = false := by
  unfold ReconcileFlow.optional
  split
  · rw [Checked.isAborted_ap, never, Checked.isAborted_valid, Bool.false_or]
  · rfl

theorem NeverAborts.defaulted (never : NeverAborts check) (default : α) :
    (defaulted payload name check default).isAborted = false := by
  unfold ReconcileFlow.defaulted
  split
  · exact never _ _
  · rfl

theorem noExtra_isAborted (fields : List String) : (noExtra payload fields).isAborted = false := by
  unfold noExtra
  split <;> rfl

/-- The money field of the payload converts, if it is there. -/
def MoneyConverts (payload : Payload) (name : String) : Prop :=
  ∀ text, payload.lookup name = some text → (toMoney text).isOk = true

theorem moneyField_isAborted (loc : List String) (text : String) :
    (moneyField loc text).isAborted = false ↔ (toMoney text).isOk = true := by
  unfold moneyField
  cases toMoney text with
  | error signal => exact iff_of_false (by simp) (by simp [Except.isOk, Except.toBool])
  | ok amount =>
    refine iff_of_true ?_ rfl
    split
    · next impossible => cases impossible
    · split <;> rfl
    · rfl

theorem required_money : (required payload name moneyField).isAborted = false ↔ MoneyConverts payload name := by
  unfold required MoneyConverts
  cases payload.lookup name with
  | none => simp [fieldError]
  | some text => simp [moneyField_isAborted]

theorem defaulted_money (default : Money) :
    (defaulted payload name moneyField default).isAborted = false ↔ MoneyConverts payload name := by
  unfold defaulted MoneyConverts
  cases payload.lookup name with
  | none => simp
  | some text => simp [moneyField_isAborted]

end Fields

/-- The last validator of an order never aborts. -/
theorem checkPaymentFields_isAborted (orderId : String) (orderDate : Date) (storeId : String) (amount : Money)
    (paymentType : PaymentType) (paymentAmount : Money) (paymentGateway : Option PaymentGateway)
    (gatewayTxnId : Option String) (responsibleParty : Option RecipientRole) (status : OrderStatus)
    (customerName customerEmail : Option String) (extra : Unit) :
    (checkPaymentFields orderId orderDate storeId amount paymentType paymentAmount paymentGateway gatewayTxnId
      responsibleParty status customerName customerEmail extra).isAborted = false := by
  unfold checkPaymentFields
  split
  · rfl
  · split <;> rfl

theorem paymentTypeField_neverAborts : NeverAborts paymentTypeField := enumField_neverAborts _ _

theorem paymentGatewayField_neverAborts : NeverAborts paymentGatewayField := enumField_neverAborts _ _

theorem recipientRoleField_neverAborts : NeverAborts recipientRoleField := enumField_neverAborts _ _

theorem orderStatusField_neverAborts : NeverAborts orderStatusField := enumField_neverAborts _ _

theorem settlementSourceField_neverAborts : NeverAborts settlementSourceField := enumField_neverAborts _ _

/-- An order aborts only in its two amounts. -/
theorem order_isAborted (parseDate : String → Except String Date) (payload : Payload) :
    (Order.modelValidate parseDate payload).isAborted = false ↔
      MoneyConverts payload "amount" ∧ MoneyConverts payload "payment_amount" := by
  unfold Order.modelValidate
  rw [Checked.isAborted_andThen]
  · simp [textField_neverAborts.required, textField_neverAborts.optional,
      (dateField_neverAborts parseDate).required, noExtra_isAborted, required_money,
      paymentTypeField_neverAborts.required, paymentGatewayField_neverAborts.optional,
      recipientRoleField_neverAborts.optional, orderStatusField_neverAborts.defaulted]
  · iterate 13 apply Checked.All.ap
    exact .valid checkPaymentFields_isAborted

/-- The fields of a settlement abort only in its three amounts. -/
theorem checkSettlement_isAborted (parseDate : String → Except String Date) (payload : Payload) :
    (checkSettlement parseDate payload).isAborted = false ↔
      MoneyConverts payload "amount" ∧ MoneyConverts payload "net_amount" ∧ MoneyConverts payload "fee" := by
  unfold checkSettlement
  simp [textField_neverAborts.required, textField_neverAborts.optional,
    (dateField_neverAborts parseDate).required, noExtra_isAborted, required_money, defaulted_money,
    paymentTypeField_neverAborts.required, settlementSourceField_neverAborts.required, and_assoc]

/-- A cell that is not blank reads as an amount of money. -/
def CellConverts (row : Row) (column : String) : Prop :=
  ∀ text, cleanCell (row column) = some text → Convertible text

structure OrderConverts (row : Row) : Prop where
  amount : CellConverts row "amount"
  paymentAmount : CellConverts row "payment_amount"

structure SettlementConverts (row : Row) : Prop where
  amount : CellConverts row "amount"
  fee : CellConverts row "fee"
  netAmount : CellConverts row "net_amount"
  /-- Where the net amount is blank, the amount less the fee is in range. -/
  difference : ∀ amount value fee, cleanCell (row "net_amount") = none → cleanCell (row "amount") = some amount →
    Decimal.ofText amount = .ok value → Decimal.ofText ((cleanCell (row "fee")).getD "0") = .ok fee →
    |value.paise - fee.paise| < paiseBound

theorem moneyConverts_rowPayload {fieldMap : List (String × String)}
    (keeps : ∀ entry ∈ fieldMap, entry.2 = entry.1) (row : Row) {name : String}
    (listed : name ∈ fieldMap.map Prod.fst) :
    MoneyConverts (rowPayload fieldMap row) name ↔ CellConverts row name := by
  unfold MoneyConverts CellConverts
  rw [lookup_rowPayload keeps, if_pos listed]
  exact forall₂_congr fun text cleaned => toMoney_isOk_iff (cleanCell_nonblank cleaned)

theorem order_converts_iff (parseDate : String → Except String Date) (row : Row) :
    (Order.modelValidate parseDate (rowPayload orderFieldMap row)).isAborted = false ↔ OrderConverts row := by
  have keeps : ∀ entry ∈ orderFieldMap, entry.2 = entry.1 := by decide
  rw [order_isAborted, moneyConverts_rowPayload keeps row (by decide),
    moneyConverts_rowPayload keeps row (by decide)]
  exact ⟨fun ⟨amount, paymentAmount⟩ => ⟨amount, paymentAmount⟩,
    fun converts => ⟨converts.amount, converts.paymentAmount⟩⟩

theorem convertible_zero : Convertible "0" :=
  ⟨.finite false 0 0, by decide, by norm_num [Decimal.FitsPaise, Decimal.inPaise, paiseBound]⟩

/-- A blank fee counts as zero. -/
theorem CellConverts.getD {row : Row} {column : String} (converts : CellConverts row column) :
    Convertible ((cleanCell (row column)).getD "0") := by
  cases cell : cleanCell (row column) with
  | none => exact convertible_zero
  | some text => exact converts text cell

/-- Where no net amount is computed, the cells convert one by one. -/
theorem settlementConverts_iff_of_given {row : Row}
    (given : cleanCell (row "net_amount") = none → cleanCell (row "amount") = none) :
    SettlementConverts row ↔
      CellConverts row "amount" ∧ CellConverts row "net_amount" ∧ CellConverts row "fee" := by
  refine ⟨fun converts => ⟨converts.amount, converts.netAmount, converts.fee⟩, ?_⟩
  rintro ⟨amountConverts, netAmountConverts, feeConverts⟩
  refine ⟨amountConverts, feeConverts, netAmountConverts, ?_⟩
  intro amount value fee blank filled
  cases (given blank).symm.trans filled

/-- With a blank net amount, the difference takes the place of its cell. -/
theorem settlementConverts_iff_of_blank {row : Row} {amount : String} (blank : cleanCell (row "net_amount") = none)
    (given : cleanCell (row "amount") = some amount) :
    SettlementConverts row ↔ CellConverts row "amount" ∧
      (∃ net, netAmountText amount ((cleanCell (row "fee")).getD "0") = .ok net ∧ (toMoney net).isOk = true) ∧
      CellConverts row "fee" := by
  constructor
  · intro converts
    obtain ⟨value, read, fits⟩ := converts.amount amount given
    obtain ⟨fee, feeRead, feeFits⟩ := converts.fee.getD
    have inRange := converts.difference amount value fee blank given read feeRead
    exact ⟨converts.amount, (netAmount_converts_iff read feeRead fits feeFits).mpr inRange, converts.fee⟩
  · rintro ⟨amountConverts, net, feeConverts⟩
    refine ⟨amountConverts, feeConverts, ?_, ?_⟩
    · intro text cell
      cases blank.symm.trans cell
    · intro text value fee _ same read feeRead
      cases given.symm.trans same
      obtain ⟨_, read', fits⟩ := amountConverts amount given
      cases read.symm.trans read'
      obtain ⟨_, feeRead', feeFits⟩ := feeConverts.getD
      cases feeRead.symm.trans feeRead'
      exact (netAmount_converts_iff read feeRead fits feeFits).mp net

/-- The default for the net amount leaves the other fields alone. -/
theorem moneyConverts_cons (payload : Payload) (net : String) {name : String} (other : name ≠ "net_amount") :
    MoneyConverts (("net_amount", net) :: payload) name ↔ MoneyConverts payload name := by
  unfold MoneyConverts
  rw [List.lookup_cons, beq_eq_false_iff_ne.mpr other]

theorem moneyConverts_cons_self (payload : Payload) (net : String) :
    MoneyConverts (("net_amount", net) :: payload) "net_amount" ↔ (toMoney net).isOk = true := by
  simp [MoneyConverts]

theorem settlement_converts_iff (parseDate : String → Except String Date) (row : Row) :
    (Settlement.modelValidate parseDate (rowPayload settlementFieldMap row)).isAborted = false ↔
      SettlementConverts row := by
  have keeps : ∀ entry ∈ settlementFieldMap, entry.2 = entry.1 := by decide
  have cell {name : String} (listed : name ∈ settlementFieldMap.map Prod.fst) :
      (rowPayload settlementFieldMap row).lookup name = cleanCell (row name) := by
    rw [lookup_rowPayload keeps, if_pos listed]
  have money {name : String} (listed : name ∈ settlementFieldMap.map Prod.fst) :=
    moneyConverts_rowPayload keeps row listed
  have checked : (checkSettlement parseDate (rowPayload settlementFieldMap row)).isAborted = false ↔
      CellConverts row "amount" ∧ CellConverts row "net_amount" ∧ CellConverts row "fee" := by
    rw [checkSettlement_isAborted, money (by decide), money (by decide), money (by decide)]
  unfold Settlement.modelValidate defaultNetAmount
  rw [cell (by decide), cell (by decide), cell (by decide), truthy_cleanCell, truthy_cleanCell, truthy_cleanCell]
  cases net : cleanCell (row "net_amount") with
  | some text =>
    rw [settlementConverts_iff_of_given fun blank => by cases net.symm.trans blank]
    exact checked
  | none =>
    cases amount : cleanCell (row "amount") with
    | none =>
      rw [settlementConverts_iff_of_given fun _ => amount]
      exact checked
    | some text =>
      rw [settlementConverts_iff_of_blank net amount]
      dsimp only [bind, Except.bind, pure, Except.pure]
      cases netAmountText text ((cleanCell (row "fee")).getD "0") with
      | error signal => simp
      | ok completed =>
        simp only [Except.ok.injEq, exists_eq_left']
        rw [checkSettlement_isAborted, moneyConverts_cons _ _ (by decide), moneyConverts_cons_self,
          moneyConverts_cons _ _ (by decide), money (by decide), money (by decide)]

/-! ## Both readers -/

/-- Whatever the dates are read as, a nonempty table of orders or settlements is validated, or reported with
its invalid rows, exactly when every amount in it converts. -/
theorem row_validation_iff (parseDate : String → Except String Date) {orders settlements : List Row}
    (someOrder : orders ≠ []) (someSettlement : settlements ≠ []) :
    (RowsReported (Order.modelValidate parseDate) orderFieldMap orders (validateOrders parseDate orders) ↔
        ∀ row ∈ orders, OrderConverts row) ∧
      (RowsReported (Settlement.modelValidate parseDate) settlementFieldMap settlements
          (validateSettlements parseDate settlements) ↔
        ∀ row ∈ settlements, SettlementConverts row) := by
  unfold validateOrders validateSettlements
  rw [validateRows_reported_iff someOrder, validateRows_reported_iff someSettlement]
  exact ⟨forall₂_congr fun row _ => order_converts_iff parseDate row,
    forall₂_congr fun row _ => settlement_converts_iff parseDate row⟩

/-- One order for an amount. -/
def orderRow (amount : String) : Row := fun column =>
  [("order_id", "ORD-1"), ("order_date", "2026-06-10"), ("store_id", "STORE-1"), ("amount", amount),
    ("payment_type", "CASH"), ("payment_amount", "1000.00"), ("status", "PLACED")].lookup column

/-- One settlement of an amount, without its net amount. -/
def settlementRow (amount : String) : Row := fun column =>
  [("settlement_id", "S-1"), ("settlement_date", "2026-06-10"), ("payment_type", "CASH"), ("amount", amount),
    ("source", "BANK"), ("order_id", "ORD-1")].lookup column

/-- The date that the rows use. -/
def readDate (text : String) : Except String Date :=
  if text = "2026-06-10" then .ok 739777 else .error "Input should be a valid date or datetime"

theorem row_validation_plain :
    (RowsReported (Order.modelValidate readDate) orderFieldMap [orderRow "1000.00"]
        (validateOrders readDate [orderRow "1000.00"]) ↔ ∀ row ∈ [orderRow "1000.00"], OrderConverts row) ∧
      (RowsReported (Settlement.modelValidate readDate) settlementFieldMap [settlementRow "1000.00"]
          (validateSettlements readDate [settlementRow "1000.00"]) ↔
        ∀ row ∈ [settlementRow "1000.00"], SettlementConverts row) :=
  row_validation_iff readDate (by simp) (by simp)

/-- A thousands separator passes through both readers as a decimal signal. -/
theorem separator_escapes :
    validateOrders readDate [orderRow "1,000"] = .error (.decimal .invalidOperation) ∧
      ¬RowsReported (Order.modelValidate readDate) orderFieldMap [orderRow "1,000"]
        (validateOrders readDate [orderRow "1,000"]) ∧
      validateSettlements readDate [settlementRow "1,000"] = .error (.decimal .invalidOperation) ∧
      ¬RowsReported (Settlement.modelValidate readDate) settlementFieldMap [settlementRow "1,000"]
        (validateSettlements readDate [settlementRow "1,000"]) := by
  have orders : validateOrders readDate [orderRow "1,000"] = .error (.decimal .invalidOperation) := by
    decide +kernel
  have settlements : validateSettlements readDate [settlementRow "1,000"] =
      .error (.decimal .invalidOperation) := by
    decide +kernel
  refine ⟨orders, ?_, settlements, ?_⟩
  · rw [orders]
    rintro (⟨models, impossible, -⟩ | ⟨message, lines, impossible, -⟩) <;> cases impossible
  · rw [settlements]
    rintro (⟨models, impossible, -⟩ | ⟨message, lines, impossible, -⟩) <;> cases impossible

end ReconcileFlow
