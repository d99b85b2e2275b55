import ReconcileFlow.Soundness.RowValidation

/-! # The default of the net amount

A blank net amount is filled in with the difference of the texts of the amount and the fee, and each of
the three is rounded to paise on its own. The stored values balance exactly when what the roundings take
from the amount and the fee differs by no more than half a paisa (`netAmount_balances_iff`).
-/

namespace ReconcileFlow

namespace Decimal

/-- Half up to whole paise. -/
def nearest (value : Decimal) : ℤ := ⌊value.paise + 1 / 2⌋

/-- What rounding to whole paise takes from a number. -/
def excess (value : Decimal) : ℚ := value.paise - value.nearest

/-- What rounding a difference to 28 digits adds to it. -/
def differenceError (value value' : Decimal) : ℚ :=
  match value.sub value' with
  | .ok net => net.paise - (value.paise - value'.paise)
  | .error _ => 0

end Decimal

open Decimal (inPaise paiseBound nearest excess differenceError)

/-- The number in a cell; a blank cell counts as zero. -/
def cellNumber (row : Row) (column : String) : Decimal :=
  match Decimal.ofText ((cleanCell (row column)).getD "0") with
  | .ok value => value
  | .error _ => .nan false false

/-- What the roundings of the amount, the fee and their difference come to. -/
def roundingBalance (row : Row) : ℚ :=
  (cellNumber row "amount").excess - (cellNumber row "fee").excess +
    differenceError (cellNumber row "amount") (cellNumber row "fee")

/-- The roundings leave the balance within half a paisa. -/
def RoundingsCancel (row : Row) : Prop := -1 / 2 ≤ roundingBalance row ∧ roundingBalance row < 1 / 2

instance (row : Row) : Decidable (RoundingsCancel row) := inferInstanceAs (Decidable (_ ∧ _))

theorem dropHalfUp_floor (coefficient count : ℕ) :
    (Decimal.dropHalfUp coefficient count : ℤ) = ⌊(coefficient / 10 ^ count : ℚ) + 1 / 2⌋ := by
  have reached := (Decimal.le_dropHalfUp_iff coefficient count _).mp le_rfl
  have short := mt (Decimal.le_dropHalfUp_iff coefficient count _).mpr (Nat.not_succ_le_self _)
  refine (Int.floor_eq_iff.mpr ⟨?_, ?_⟩).symm
  · push_cast
    linarith
  · push_cast at short ⊢
    linarith

/-- Quantizing keeps the sign and rounds half away from zero. -/
theorem quantizePaise_finite {negative : Bool} {coefficient : ℕ} {exponent : ℤ} {result : Decimal}
    (quantized : (Decimal.finite negative coefficient exponent).quantizePaise = .ok result) :
    ∃ paise : ℕ, result = .finite negative paise (-2) ∧ (paise : ℤ) = ⌊inPaise coefficient exponent + 1 / 2⌋ := by
  unfold Decimal.quantizePaise at quantized
  dsimp only at quantized
  split at quantized
  · next zero =>
    cases quantized
    refine ⟨0, rfl, ?_⟩
    rw [zero, inPaise, Nat.cast_zero (R := ℚ), zero_mul]
    norm_num
  · split at quantized
    · cases quantized
    · next small =>
      generalize kept : (if 0 ≤ exponent + 2 then coefficient * 10 ^ (exponent + 2).toNat
        else if (Decimal.numDigits coefficient : ℤ) + (exponent + 2) < 0 then 0
        else Decimal.dropHalfUp coefficient (-(exponent + 2)).toNat) = paise at quantized
      split at quantized
      · cases quantized
      · cases quantized
        refine ⟨paise, rfl, ?_⟩
        rw [← kept]
        split
        · next whole =>
          rw [Decimal.inPaise_of_nonneg whole]
          refine (Int.floor_eq_iff.mpr ⟨?_, ?_⟩).symm <;> push_cast <;> linarith
        · next fractional =>
          split
          · next tiny =>
            have power : (10 : ℚ) ^ (Decimal.adjusted coefficient (exponent + 2) + 1) ≤ 10 ^ (-1 : ℤ) :=
              zpow_le_zpow_right₀ (by norm_num) (by unfold Decimal.adjusted; omega)
            have least := Decimal.inPaise_nonneg coefficient exponent
            have below : inPaise coefficient exponent < 1 / 10 :=
              ((Decimal.lt_zpow_adjusted coefficient (exponent + 2)).trans_le power).trans_eq (by norm_num)
            refine (Int.floor_eq_iff.mpr ⟨?_, ?_⟩).symm <;> push_cast <;> linarith
          · rw [dropHalfUp_floor, Decimal.inPaise_of_neg (not_le.mp fractional)]

/-- A text that is accepted as money is a finite number, and is stored rounded half up. -/
theorem moneyField_valid {loc : List String} {text : String} {amount : Money}
    (nonblank : strip text.toList ≠ []) (accepted : moneyField loc text = .valid amount) :
    ∃ negative coefficient exponent, Decimal.ofText text = .ok (.finite negative coefficient exponent) ∧
      (Decimal.finite negative coefficient exponent).FitsPaise ∧
      (amount.paise : ℤ) = (Decimal.finite negative coefficient exponent).nearest := by
  have filled : String.ofList (strip text.toList) ≠ "" := by simpa [← String.toList_inj] using nonblank
  have converted : toMoney text = (Decimal.ofText text).bind Decimal.quantizePaise := by
    unfold toMoney
    dsimp only
    rw [if_neg filled, ofText_strip]
    rfl
  unfold moneyField at accepted
  rw [converted] at accepted
  cases read : Decimal.ofText text with
  | error signal =>
    rw [read] at accepted
    cases accepted
  | ok value =>
    rw [read] at accepted
    dsimp only [Except.bind] at accepted
    cases value with
    | infinity negative => cases accepted
    | nan negative signaling => cases signaling <;> cases accepted
    | finite negative coefficient exponent =>
      refine ⟨negative, coefficient, exponent, rfl, ?_⟩
      cases quantized : (Decimal.finite negative coefficient exponent).quantizePaise with
      | error signal =>
        rw [quantized] at accepted
        cases accepted
      | ok result =>
        have fits := (Decimal.quantizePaise_isOk_iff _).mp (by rw [quantized]; rfl)
        obtain ⟨paise, rfl, rounded⟩ := quantizePaise_finite quantized
        rw [quantized] at accepted
        dsimp only at accepted
        split at accepted
        · cases accepted
        · next allowed =>
          cases accepted
          refine ⟨fits, ?_⟩
          rw [nearest, Decimal.paise]
          cases negative with
          | false => simpa using rounded
          | true =>
            -- A negative amount is accepted only where it rounds to zero.
            obtain rfl : paise = 0 := by simpa using allowed
            have least := Decimal.inPaise_nonneg coefficient exponent
            have most := (Int.floor_eq_iff.mp rounded.symm).2
            refine (Int.floor_eq_iff.mpr ⟨?_, ?_⟩).symm <;> push_cast at most ⊢ <;> simp <;> linarith

/-! ## The three fields of a settlement -/

theorem checkSettlement_valid {parseDate : String → Except String Date} {payload : Payload}
    {settlement : Settlement} (accepted : checkSettlement parseDate payload = .valid settlement) :
    required payload "amount" moneyField = .valid settlement.amount ∧
      required payload "net_amount" moneyField = .valid settlement.netAmount ∧
      defaulted payload "fee" moneyField 0 = .valid settlement.fee := by
  unfold checkSettlement at accepted
  obtain ⟨_, _, beforeExtra, -, rfl⟩ := Checked.ap_eq_valid_iff.mp accepted
  obtain ⟨_, _, beforeReferenceId, -, rfl⟩ := Checked.ap_eq_valid_iff.mp beforeExtra
  obtain ⟨_, _, beforeGatewayTxnId, -, rfl⟩ := Checked.ap_eq_valid_iff.mp beforeReferenceId
  obtain ⟨_, _, beforeOrderId, -, rfl⟩ := Checked.ap_eq_valid_iff.mp beforeGatewayTxnId
  obtain ⟨_, fee, beforeFee, feeValid, rfl⟩ := Checked.ap_eq_valid_iff.mp beforeOrderId
  obtain ⟨_, _, beforeSource, -, rfl⟩ := Checked.ap_eq_valid_iff.mp beforeFee
  obtain ⟨_, netAmount, beforeNetAmount, netValid, rfl⟩ := Checked.ap_eq_valid_iff.mp beforeSource
  obtain ⟨_, amount, beforeAmount, amountValid, rfl⟩ := Checked.ap_eq_valid_iff.mp beforeNetAmount
  obtain ⟨_, _, beforePaymentType, -, rfl⟩ := Checked.ap_eq_valid_iff.mp beforeAmount
  obtain ⟨_, _, beforeSettlementDate, -, rfl⟩ := Checked.ap_eq_valid_iff.mp beforePaymentType
  obtain ⟨_, _, beforeSettlementId, -, rfl⟩ := Checked.ap_eq_valid_iff.mp beforeSettlementDate
  cases beforeSettlementId
  exact ⟨amountValid, netValid, feeValid⟩

/-- The number in a cell that is accepted as money, and the amount it is stored as. -/
structure StoredAs (row : Row) (column : String) (amount : Money) : Prop where
  finite : ∃ negative coefficient exponent, cellNumber row column = .finite negative coefficient exponent
  fits : (cellNumber row column).FitsPaise
  stored : (amount.paise : ℤ) = (cellNumber row column).nearest

theorem StoredAs.of_cell {row : Row} {column text : String} {loc : List String} {amount : Money}
    (cell : cleanCell (row column) = some text) (accepted : moneyField loc text = .valid amount) :
    StoredAs row column amount ∧ Decimal.ofText text = .ok (cellNumber row column) := by
  obtain ⟨negative, coefficient, exponent, read, fits, stored⟩ :=
    moneyField_valid (cleanCell_nonblank cell) accepted
  have number : cellNumber row column = .finite negative coefficient exponent := by
    rw [cellNumber, cell, Option.getD_some, read]
  exact ⟨⟨⟨negative, coefficient, exponent, number⟩, by rwa [number], by rw [number, stored]⟩,
    by rw [number, read]⟩

theorem cellNumber_blank {row : Row} {column : String} (blank : cleanCell (row column) = none) :
    cellNumber row column = .finite false 0 0 := by
  rw [cellNumber, blank]
  rfl

/-- A fee is stored as its cell says, and a blank one as zero. -/
theorem StoredAs.of_fee {row : Row} {payload : Payload} {fee : Money}
    (cell : payload.lookup "fee" = cleanCell (row "fee"))
    (accepted : defaulted payload "fee" moneyField 0 = .valid fee) :
    StoredAs row "fee" fee ∧ Decimal.ofText ((cleanCell (row "fee")).getD "0") = .ok (cellNumber row "fee") := by
  rw [defaulted, cell] at accepted
  cases feeCell : cleanCell (row "fee") with
  | some text =>
    rw [feeCell] at accepted
    exact StoredAs.of_cell feeCell accepted
  | none =>
    rw [feeCell] at accepted
    have zero := cellNumber_blank feeCell
    have free : (0 : Money) = fee := Checked.valid.inj accepted
    refine ⟨⟨⟨_, _, _, zero⟩, ?_, ?_⟩, by rw [zero]; rfl⟩
    · norm_num [zero, Decimal.FitsPaise, inPaise, paiseBound]
    · rw [zero, ← free]
      norm_num [nearest, Decimal.paise, inPaise]

/-- The difference of two finite numbers is read back from its text. -/
theorem netAmountText_reads {amount fee net : String} {value value' : Decimal}
    (read : Decimal.ofText amount = .ok value) (read' : Decimal.ofText fee = .ok value')
    (finite : ∃ negative coefficient exponent, value = .finite negative coefficient exponent)
    (finite' : ∃ negative coefficient exponent, value' = .finite negative coefficient exponent)
    (written : netAmountText amount fee = .ok net) :
    ∃ difference, value.sub value' = .ok difference ∧ net = difference.text ∧
      Decimal.ofText net = .ok difference := by
  obtain ⟨negative, coefficient, exponent, rfl⟩ := finite
  obtain ⟨negative', coefficient', exponent', rfl⟩ := finite'
  obtain ⟨minus, size, place, rounding, -⟩ :=
    Decimal.subFinite_finalized negative coefficient exponent negative' coefficient' exponent'
  unfold netAmountText at written
  rw [read, read'] at written
  change ((Decimal.subFinite negative coefficient exponent negative' coefficient' exponent').bind
    fun difference => .ok difference.text) = .ok net at written
  rw [Decimal.sub]
  generalize Decimal.subFinite negative coefficient exponent negative' coefficient' exponent' = difference
    at rounding written
  cases rounding with
  | overflow beyond => cases written
  | rounded reads same =>
    cases written
    exact ⟨_, rfl, rfl, Decimal.ofText_text reads⟩

/-- The values stored for a blank net amount. -/
structure DefaultStored (row : Row) (settlement : Settlement) : Prop where
  amount : StoredAs row "amount" settlement.amount
  fee : StoredAs row "fee" settlement.fee
  net : ∃ difference, (cellNumber row "amount").sub (cellNumber row "fee") = .ok difference ∧
    (settlement.netAmount.paise : ℤ) = difference.nearest

theorem settlement_defaultStored {parseDate : String → Except String Date} {row : Row} {settlement : Settlement}
    (blank : cleanCell (row "net_amount") = none)
    (accepted : Settlement.modelValidate parseDate (rowPayload settlementFieldMap row) = .valid settlement) :
    DefaultStored row settlement := by
  have keeps : ∀ entry ∈ settlementFieldMap, entry.2 = entry.1 := by decide
  have cell {name : String} (listed : name ∈ settlementFieldMap.map Prod.fst) :
      (rowPayload settlementFieldMap row).lookup name = cleanCell (row name) := by
    rw [lookup_rowPayload keeps, if_pos listed]
  unfold Settlement.modelValidate defaultNetAmount at accepted
  rw [cell (by decide), cell (by decide), cell (by decide), truthy_cleanCell, truthy_cleanCell, truthy_cleanCell,
    blank] at accepted
  cases amountCell : cleanCell (row "amount") with
  | none =>
    rw [amountCell] at accepted
    obtain ⟨amountValid, -, -⟩ := checkSettlement_valid accepted
    rw [required, cell (by decide), amountCell] at amountValid
    cases amountValid
  | some amount =>
    rw [amountCell] at accepted
    dsimp only [bind, Except.bind, pure, Except.pure] at accepted
    cases written : netAmountText amount ((cleanCell (row "fee")).getD "0") with
    | error signal =>
      rw [written] at accepted
      cases accepted
    | ok net =>
      rw [written] at accepted
      obtain ⟨amountValid, netValid, feeValid⟩ := checkSettlement_valid accepted
      have others {name : String} (listed : name ∈ settlementFieldMap.map Prod.fst) (other : name ≠ "net_amount") :
          (("net_amount", net) :: rowPayload settlementFieldMap row).lookup name = cleanCell (row name) := by
        rw [List.lookup_cons, beq_eq_false_iff_ne.mpr other]
        exact cell listed
      rw [required, others (by decide) (by decide), amountCell] at amountValid
      rw [required, List.lookup_cons_self] at netValid
      obtain ⟨amountStored, amountRead⟩ := StoredAs.of_cell amountCell amountValid
      obtain ⟨feeStored, feeRead⟩ := StoredAs.of_fee (others (by decide) (by decide)) feeValid
      obtain ⟨difference, subtracted, rfl, reads⟩ :=
        netAmountText_reads amountRead feeRead amountStored.finite feeStored.finite written
      obtain ⟨negative, coefficient, exponent, read, -, stored⟩ :=
        moneyField_valid difference.text_nonblank netValid
      cases reads.symm.trans read
      exact ⟨amountStored, feeStored, _, subtracted, stored⟩

/-! ## Whole paise -/

namespace Decimal

theorem dropHalfEven_mul (coefficient count : ℕ) : dropHalfEven (coefficient * 10 ^ count) count = coefficient := by
  have positive : 0 < 10 ^ count := by positivity
  unfold dropHalfEven
  rw [Nat.mul_div_cancel _ positive, Nat.mul_mod_left]
  simp

/-- A fractional exponent of a whole number of paise belongs to trailing zeros. -/
theorem trailing_of_whole {coefficient count : ℕ} {exponent : ℤ} (whole : inPaise coefficient exponent = count)
    (fractional : exponent + 2 < 0) :
    ∃ places : ℕ, -(exponent + 2) = places ∧ coefficient = count * 10 ^ places := by
  rw [inPaise_of_neg fractional] at whole
  obtain ⟨places, depth⟩ := Int.eq_ofNat_of_zero_le (by omega : 0 ≤ -(exponent + 2))
  rw [depth, Int.toNat_natCast, div_eq_iff (by positivity)] at whole
  exact ⟨places, depth, by exact_mod_cast whole⟩

/-- A whole number of paise of at most 28 digits whose exponent is not fractional is short. -/
theorem numDigits_le_of_whole {coefficient count : ℕ} {exponent : ℤ}
    (whole : inPaise coefficient exponent = count) (integral : 0 ≤ exponent + 2)
    (short : count < 10 ^ precision) : numDigits coefficient ≤ precision := by
  rw [inPaise_of_nonneg integral] at whole
  have product : coefficient * 10 ^ (exponent + 2).toNat = count := by exact_mod_cast whole
  have least : coefficient ≤ count := product ▸ Nat.le_mul_of_pos_right _ (by positivity)
  exact (numDigits_le_iff (by unfold precision; omega)).mpr (least.trans_lt short)

/-- A whole number of paise of at most 28 digits is not changed by rounding to the context. -/
theorem finalize_whole {negative : Bool} {coefficient count : ℕ} {exponent : ℤ} {net : Decimal}
    (whole : inPaise coefficient exponent = count) (short : count < 10 ^ precision)
    (rounded : finalize negative coefficient exponent = .ok net) :
    net.paise = (if negative then -1 else 1) * count := by
  unfold finalize at rounded
  split at rounded
  · next zero =>
    cases rounded
    rw [zero, inPaise, Nat.cast_zero (R := ℚ), zero_mul] at whole
    rw [paise_finite, ← whole, Nat.cast_zero, zero_mul]
  · next nonzero =>
    split at rounded
    · cases rounded
    · dsimp only at rounded
      split at rounded
      · cases rounded
        rw [paise_finite, ← whole]
        rfl
      · next excessive =>
        have enough := le_max_left ((numDigits coefficient : ℤ) - precision) (leastExponent - exponent)
        have choice := max_choice ((numDigits coefficient : ℤ) - precision) (leastExponent - exponent)
        generalize max ((numDigits coefficient : ℤ) - precision) (leastExponent - exponent) = excess at *
        obtain ⟨dropped, rfl⟩ := Int.eq_ofNat_of_zero_le (not_le.mp excessive).le
        rw [Int.toNat_natCast] at rounded
        have fractional : exponent + 2 < 0 := by
          by_contra integral
          have digits := numDigits_le_of_whole whole (not_lt.mp integral) short
          unfold leastExponent at choice
          omega
        obtain ⟨places, depth, scaled⟩ := trailing_of_whole whole fractional
        have length : numDigits coefficient ≤ precision + places := by
          rw [numDigits_le_iff (by unfold precision; omega), scaled, pow_add]
          exact Nat.mul_lt_mul_of_pos_right short (by positivity)
        have within : dropped ≤ places := by
          unfold leastExponent at choice
          omega
        -- The dropped digits are zeros.
        have zeros : coefficient = count * 10 ^ (places - dropped) * 10 ^ dropped := by
          rw [mul_assoc, ← pow_add, Nat.sub_add_cancel within, scaled]
        have fits : numDigits (count * 10 ^ (places - dropped)) ≤ precision := by
          rw [numDigits_le_iff (by unfold precision; omega)]
          refine Nat.lt_of_mul_lt_mul_right (a := 10 ^ dropped) ?_
          rw [← zeros, ← pow_add]
          exact (numDigits_le_iff (by unfold precision; omega)).mp (by omega)
        rw [zeros, dropHalfEven_mul, if_neg (not_lt.mpr fits)] at rounded
        dsimp only at rounded
        split at rounded
        · cases rounded
        · cases rounded
          have point : exponent + dropped + 2 = -((places - dropped : ℕ) : ℤ) := by omega
          rw [paise_finite, point, zpow_neg, zpow_natCast, Nat.cast_mul, Nat.cast_pow, Nat.cast_ofNat,
            mul_inv_cancel_right₀ (by positivity)]

/-- A difference of whole paise is exact if it has at most 28 digits. -/
theorem differenceError_whole {negative negative' : Bool} {coefficient coefficient' : ℕ} {exponent exponent' : ℤ}
    {difference : ℤ} (short : difference.natAbs < 10 ^ precision)
    (whole : paise (finite negative coefficient exponent) - paise (finite negative' coefficient' exponent') =
      difference) :
    differenceError (finite negative coefficient exponent) (finite negative' coefficient' exponent') = 0 := by
  unfold differenceError
  rw [sub]
  cases subtracted : subFinite negative coefficient exponent negative' coefficient' exponent' with
  | error signal => rfl
  | ok net =>
    dsimp only
    rw [paise_of_units negative coefficient (min_le_left exponent exponent'),
      paise_of_units negative' coefficient' (min_le_right exponent exponent'), ← sub_mul, ← Int.cast_sub]
      at whole ⊢
    unfold subFinite at subtracted
    dsimp only at subtracted
    generalize ((if negative then -1 else 1 : ℤ) * coefficient * 10 ^ (exponent - min exponent exponent').toNat -
      (if negative' then -1 else 1) * coefficient' * 10 ^ (exponent' - min exponent exponent').toNat) = units
      at whole subtracted ⊢
    generalize min exponent exponent' = common at whole subtracted ⊢
    have size : inPaise units.natAbs common = difference.natAbs := by
      rw [inPaise, Nat.cast_natAbs, Nat.cast_natAbs, Int.cast_abs, Int.cast_abs, ← whole, abs_mul,
        abs_of_pos (a := (10 : ℚ) ^ _) (by positivity)]
    have sign : units < 0 ↔ difference < 0 := by
      have power : (0 : ℚ) < 10 ^ (common + 2) := by positivity
      rw [← Int.cast_lt_zero (R := ℚ), ← Int.cast_lt_zero (R := ℚ) (n := difference), ← whole]
      refine ⟨fun below => mul_neg_of_neg_of_pos below power, fun below => ?_⟩
      by_contra above
      exact absurd (mul_nonneg (not_lt.mp above) power.le) (not_le.mpr below)
    rw [finalize_whole size short subtracted, whole, sub_eq_zero]
    by_cases none : units = 0
    · rw [none, Int.cast_zero, zero_mul] at whole
      rw [← whole, Int.cast_eq_zero.mp whole.symm]
      simp
    · rw [if_neg none]
      by_cases below : units < 0
      · have magnitude := Int.ofNat_natAbs_of_nonpos (sign.mp below).le
        rw [if_pos (by simpa using below), ← Int.cast_natCast, magnitude]
        push_cast
        ring
      · have magnitude := Int.natAbs_of_nonneg (not_lt.mp (mt sign.mpr below))
        rw [if_neg (by simpa using below), ← Int.cast_natCast, magnitude, one_mul]

end Decimal

/-- A stored amount has at most 28 digits. -/
theorem StoredAs.lt {row : Row} {column : String} {amount : Money} (cell : StoredAs row column amount) :
    amount.paise < 10 ^ 28 := by
  have reached := Int.floor_le ((cellNumber row column).paise + 1 / 2)
  have most := lt_of_abs_lt cell.fits.abs_paise_lt
  rw [← nearest, ← cell.stored] at reached
  unfold paiseBound at most
  have : (amount.paise : ℚ) < (10 ^ 28 : ℕ) := by
    push_cast at reached ⊢
    linarith
  exact_mod_cast this

/-- Amounts and fees without fractions of a paisa always balance. -/
theorem roundingsCancel_of_whole {row : Row} {settlement : Settlement} (default : DefaultStored row settlement)
    (amountWhole : (cellNumber row "amount").excess = 0) (feeWhole : (cellNumber row "fee").excess = 0) :
    RoundingsCancel row := by
  obtain ⟨negative, coefficient, exponent, amount⟩ := default.amount.finite
  obtain ⟨negative', coefficient', exponent', fee⟩ := default.fee.finite
  have short : ((cellNumber row "amount").nearest - (cellNumber row "fee").nearest).natAbs <
      10 ^ Decimal.precision := by
    have amountShort := default.amount.lt
    have feeShort := default.fee.lt
    rw [← default.amount.stored, ← default.fee.stored]
    unfold Decimal.precision
    omega
  have exact : differenceError (cellNumber row "amount") (cellNumber row "fee") = 0 := by
    simp only [amount, fee] at short amountWhole feeWhole ⊢
    refine Decimal.differenceError_whole short ?_
    rw [sub_eq_zero.mp amountWhole, sub_eq_zero.mp feeWhole]
    push_cast
    rfl
  have zero : roundingBalance row = 0 := by rw [roundingBalance, amountWhole, feeWhole, exact, sub_zero, add_zero]
  unfold RoundingsCancel
  rw [zero]
  norm_num

/-- For a row that validates with a blank net amount, the stored amounts balance exactly when the roundings
cancel to within half a paisa. -/
theorem netAmount_balances_iff (parseDate : String → Except String Date) (row : Row) (settlement : Settlement)
    (blank : cleanCell (row "net_amount") = none)
    (accepted : Settlement.modelValidate parseDate (rowPayload settlementFieldMap row) = .valid settlement) :
    settlement.netAmount.rupees = settlement.amount.rupees - settlement.fee.rupees ↔ RoundingsCancel row := by
  obtain ⟨amount, fee, difference, subtracted, net⟩ := settlement_defaultStored blank accepted
  have inUnits : settlement.netAmount.rupees = settlement.amount.rupees - settlement.fee.rupees ↔
      (settlement.netAmount.paise : ℤ) = settlement.amount.paise - settlement.fee.paise := by
    unfold Money.rupees
    rw [← sub_div, div_left_inj' (by norm_num)]
    exact_mod_cast Iff.rfl
  have balance : roundingBalance row = difference.paise -
      (((cellNumber row "amount").nearest : ℚ) - (cellNumber row "fee").nearest) := by
    unfold roundingBalance excess differenceError
    rw [subtracted]
    ring
  rw [inUnits, net, amount.stored, fee.stored, nearest, Int.floor_eq_iff, RoundingsCancel, balance]
  push_cast
  constructor
  · rintro ⟨least, most⟩
    constructor <;> linarith
  · rintro ⟨least, most⟩
    constructor <;> linarith

/-- One settlement with a fee, without its net amount. -/
def feeRow (amount fee : String) : Row := fun column =>
  if column = "fee" then some fee else settlementRow amount column

/-- What is stored for it. -/
def feeSettlement (amount fee netAmount : Money) : Settlement where
  settlementId := "S-1"
  settlementDate := 739777
  paymentType := .cash
  amount := amount
  netAmount := netAmount
  source := .bank
  fee := fee
  orderId := some "ORD-1"

theorem netAmount_balances_plain :
    (feeSettlement ⟨100000⟩ ⟨2000⟩ ⟨98000⟩).netAmount.rupees =
        (feeSettlement ⟨100000⟩ ⟨2000⟩ ⟨98000⟩).amount.rupees -
          (feeSettlement ⟨100000⟩ ⟨2000⟩ ⟨98000⟩).fee.rupees ↔ RoundingsCancel (feeRow "1000.00" "20.00") :=
  netAmount_balances_iff readDate (feeRow "1000.00" "20.00") (feeSettlement ⟨100000⟩ ⟨2000⟩ ⟨98000⟩)
    (by decide +kernel) (by decide +kernel)

/-- The fee of 0.005 is stored as 0.01, and the net amount of 9.999 as 10.00. -/
theorem netAmount_unbalanced : ¬ ∀ (parseDate : String → Except String Date) (row : Row) (settlement : Settlement),
    cleanCell (row "net_amount") = none →
      Settlement.modelValidate parseDate (rowPayload settlementFieldMap row) = .valid settlement →
        settlement.netAmount.rupees = settlement.amount.rupees - settlement.fee.rupees := by
  intro balances
  have stored := balances readDate (feeRow "10.004" "0.005") (feeSettlement ⟨1000⟩ ⟨1⟩ ⟨1000⟩)
    (by decide +kernel) (by decide +kernel)
  revert stored
  norm_num [Money.rupees, feeSettlement]

end ReconcileFlow
