import ReconcileFlow.Soundness.DecimalText

/-! # Which numbers quantize to paise

Quantizing raises unless the number of paise, rounded half up, has at most 28 digits. Rounding a difference
to the context first does not change whether it fits, so subtracting, writing, reading and quantizing
succeed together exactly when the exact difference is in range (`quantize_difference_iff`).
-/

namespace ReconcileFlow

namespace Decimal

theorem numDigits_pos (coefficient : ℕ) : 0 < numDigits coefficient := Nat.length_toDigits_pos

theorem numDigits_le_iff {coefficient count : ℕ} (positive : 0 < count) :
    numDigits coefficient ≤ count ↔ coefficient < 10 ^ count :=
  Nat.length_toDigits_le_iff (by norm_num) positive

theorem lt_pow_numDigits (coefficient : ℕ) : coefficient < 10 ^ numDigits coefficient :=
  (numDigits_le_iff (numDigits_pos coefficient)).mp le_rfl

theorem pow_le_of_pos {coefficient : ℕ} (positive : 0 < coefficient) :
    10 ^ (numDigits coefficient - 1) ≤ coefficient := by
  by_contra short
  rcases Nat.eq_zero_or_pos (numDigits coefficient - 1) with single | several
  · rw [single, pow_zero] at short
    omega
  · have := (numDigits_le_iff several).mpr (not_le.mp short)
    omega

/-- The leading digit of a number, as a power of ten. -/
theorem zpow_adjusted_le {coefficient : ℕ} (positive : 0 < coefficient) (exponent : ℤ) :
    (10 : ℚ) ^ adjusted coefficient exponent ≤ coefficient * 10 ^ exponent := by
  have digits := numDigits_pos coefficient
  have split : adjusted coefficient exponent = ((numDigits coefficient - 1 : ℕ) : ℤ) + exponent := by
    unfold adjusted
    omega
  rw [split, zpow_add₀ (by norm_num), zpow_natCast]
  gcongr
  exact_mod_cast pow_le_of_pos positive

theorem lt_zpow_adjusted (coefficient : ℕ) (exponent : ℤ) :
    (coefficient * 10 ^ exponent : ℚ) < 10 ^ (adjusted coefficient exponent + 1) := by
  have split : adjusted coefficient exponent + 1 = (numDigits coefficient : ℤ) + exponent := by
    unfold adjusted
    omega
  rw [split, zpow_add₀ (by norm_num), zpow_natCast]
  gcongr
  exact_mod_cast lt_pow_numDigits coefficient

/-- A number without its sign, in paise. -/
def inPaise (coefficient : ℕ) (exponent : ℤ) : ℚ := coefficient * 10 ^ (exponent + 2)

/-- The least number of paise that is rounded to more than 28 digits. -/
def paiseBound : ℚ := 10 ^ 28 - 1 / 2

/-- The number is in the range of amounts of money, or a quiet NaN. -/
def FitsPaise : Decimal → Prop
  | finite _ coefficient exponent => inPaise coefficient exponent < paiseBound
  | infinity _ => False
  | nan _ signaling => signaling = false

theorem not_fits_of_adjusted {coefficient : ℕ} {exponent : ℤ} (positive : 0 < coefficient)
    (large : precision ≤ adjusted coefficient (exponent + 2)) : ¬inPaise coefficient exponent < paiseBound := by
  have power : (10 : ℚ) ^ 28 ≤ 10 ^ adjusted coefficient (exponent + 2) := by
    rw [← zpow_natCast]
    exact zpow_le_zpow_right₀ (by norm_num) large
  have leading := zpow_adjusted_le positive (exponent + 2)
  unfold inPaise paiseBound
  linarith

/-- Below the leading digit of the bound a number fits. -/
theorem fits_of_adjusted {coefficient : ℕ} {exponent : ℤ}
    (small : adjusted coefficient (exponent + 2) + 1 < precision) : inPaise coefficient exponent < paiseBound := by
  have power : (10 : ℚ) ^ (adjusted coefficient (exponent + 2) + 1) ≤ 10 ^ (27 : ℤ) :=
    zpow_le_zpow_right₀ (by norm_num) (by unfold precision at small; omega)
  have leading := lt_zpow_adjusted coefficient (exponent + 2)
  unfold inPaise paiseBound
  have : (10 : ℚ) ^ (27 : ℤ) < 10 ^ 28 - 1 / 2 := by norm_num
  linarith

/-- A whole number fits exactly when it has at most 28 digits. -/
theorem natCast_lt_paiseBound_iff (count : ℕ) : (count : ℚ) < paiseBound ↔ numDigits count ≤ precision := by
  rw [numDigits_le_iff (by unfold precision; omega)]
  unfold paiseBound precision
  constructor
  · intro fits
    have : (count : ℚ) < (10 ^ 28 : ℕ) := by push_cast; linarith
    exact_mod_cast this
  · intro short
    have : ((count + 1 : ℕ) : ℚ) ≤ (10 ^ 28 : ℕ) := by exact_mod_cast short
    push_cast at this
    linarith

theorem inPaise_of_nonneg {coefficient : ℕ} {exponent : ℤ} (whole : 0 ≤ exponent + 2) :
    inPaise coefficient exponent = (coefficient * 10 ^ (exponent + 2).toNat : ℕ) := by
  unfold inPaise
  push_cast
  rw [← zpow_natCast, Int.toNat_of_nonneg whole]

theorem inPaise_of_neg {coefficient : ℕ} {exponent : ℤ} (fractional : exponent + 2 < 0) :
    inPaise coefficient exponent = coefficient / (10 : ℚ) ^ (-(exponent + 2)).toNat := by
  unfold inPaise
  rw [← zpow_natCast, Int.toNat_of_nonneg (by omega), zpow_neg, div_inv_eq_mul]

/-- Rounding half up reaches a whole number from half below it. -/
theorem le_dropHalfUp_iff (coefficient count target : ℕ) :
    target ≤ dropHalfUp coefficient count ↔ (target : ℚ) - 1 / 2 ≤ coefficient / 10 ^ count := by
  unfold dropHalfUp
  rw [Nat.le_div_iff_mul_le (by positivity), le_div_iff₀ (by positivity)]
  constructor
  · intro reach
    have : ((target * (2 * 10 ^ count) : ℕ) : ℚ) ≤ (2 * coefficient + 10 ^ count : ℕ) := by exact_mod_cast reach
    push_cast at this
    linarith
  · intro reach
    have : ((target * (2 * 10 ^ count) : ℕ) : ℚ) ≤ (2 * coefficient + 10 ^ count : ℕ) := by
      push_cast
      linarith
    exact_mod_cast this

theorem dropHalfUp_lt_iff (coefficient count : ℕ) :
    (coefficient / 10 ^ count : ℚ) < paiseBound ↔ numDigits (dropHalfUp coefficient count) ≤ precision := by
  rw [numDigits_le_iff (by unfold precision; omega), ← not_le, ← not_le (a := 10 ^ precision)]
  refine not_congr ?_
  rw [le_dropHalfUp_iff]
  unfold paiseBound precision
  norm_num

theorem isOk_guard {rejected : Prop} [Decidable rejected] (signal : DecimalSignal) (value : Decimal) :
    (if rejected then .error signal else .ok value : Except DecimalSignal Decimal).isOk = true ↔ ¬rejected := by
  split
  · next yes => exact iff_of_false (by simp [Except.isOk, Except.toBool]) (not_not.mpr yes)
  · next no => exact iff_of_true rfl no

theorem quantizePaise_finite_isOk_iff (negative : Bool) (coefficient : ℕ) (exponent : ℤ) :
    (quantizePaise (finite negative coefficient exponent)).isOk = true ↔
      inPaise coefficient exponent < paiseBound := by
  unfold quantizePaise
  dsimp only
  split
  · next zero =>
    refine iff_of_true rfl ?_
    rw [zero, inPaise, Nat.cast_zero, zero_mul]
    norm_num [paiseBound]
  · next nonzero =>
    have positive := Nat.pos_of_ne_zero nonzero
    split
    · next large =>
      refine iff_of_false (by simp [Except.isOk, Except.toBool]) (not_fits_of_adjusted positive ?_)
      unfold adjusted
      omega
    · next small =>
      rw [isOk_guard, not_lt]
      split
      · next whole => rw [inPaise_of_nonneg whole, natCast_lt_paiseBound_iff]
      · next fractional =>
        split
        · next tiny =>
          refine iff_of_true (by decide) (fits_of_adjusted ?_)
          unfold adjusted precision
          omega
        · next rounded => rw [inPaise_of_neg (not_le.mp fractional), dropHalfUp_lt_iff]

/-- Quantizing succeeds exactly in range. -/
theorem quantizePaise_isOk_iff (value : Decimal) : (quantizePaise value).isOk = true ↔ FitsPaise value := by
  cases value with
  | finite negative coefficient exponent => exact quantizePaise_finite_isOk_iff negative coefficient exponent
  | infinity negative => simp [quantizePaise, FitsPaise, Except.isOk, Except.toBool]
  | nan negative signaling =>
    cases signaling <;> simp [quantizePaise, FitsPaise, Except.isOk, Except.toBool]

theorem dropHalfEven_le {coefficient count bound : ℕ} (below : coefficient < bound * 10 ^ count) :
    dropHalfEven coefficient count ≤ bound := by
  have quotient : coefficient / 10 ^ count < bound := Nat.div_lt_of_lt_mul (by rwa [mul_comm])
  unfold dropHalfEven
  dsimp only
  split <;> omega

/-- Rounding half to even reaches an even number from half below it. -/
theorem le_dropHalfEven_iff {target : ℕ} (even : target % 2 = 0) (coefficient count : ℕ) :
    target ≤ dropHalfEven coefficient count ↔ (target : ℚ) - 1 / 2 ≤ coefficient / 10 ^ count := by
  have power : 0 < 10 ^ count := by positivity
  have digits := Nat.div_add_mod coefficient (10 ^ count)
  have remainder := Nat.mod_lt coefficient power
  have scaled : (target : ℚ) - 1 / 2 ≤ coefficient / 10 ^ count ↔
      2 * (10 ^ count * target) ≤ 2 * coefficient + 10 ^ count := by
    rw [le_div_iff₀ (by positivity)]
    constructor
    · intro reach
      have : ((2 * (10 ^ count * target) : ℕ) : ℚ) ≤ (2 * coefficient + 10 ^ count : ℕ) := by
        push_cast
        linarith
      exact_mod_cast this
    · intro reach
      have : ((2 * (10 ^ count * target) : ℕ) : ℚ) ≤ (2 * coefficient + 10 ^ count : ℕ) := by exact_mod_cast reach
      push_cast at this
      linarith
  rw [scaled]
  unfold dropHalfEven
  dsimp only
  generalize coefficient / 10 ^ count = quotient at digits ⊢
  generalize coefficient % 10 ^ count = rest at digits remainder ⊢
  generalize 10 ^ count = unit at *
  subst digits
  rcases lt_trichotomy target (quotient + 1) with below | rfl | above
  · have : unit * target ≤ unit * quotient := Nat.mul_le_mul_left _ (by omega)
    refine iff_of_true ?_ (by omega)
    split <;> omega
  · -- The quotient is odd, so a tie is rounded up to the target.
    rw [mul_add]
    split <;> omega
  · have : unit * (quotient + 2) ≤ unit * target := Nat.mul_le_mul_left _ (by omega)
    rw [mul_add] at this
    refine iff_of_false ?_ (by omega)
    split <;> omega

theorem inPaise_shift (coefficient count : ℕ) (exponent : ℤ) :
    inPaise coefficient exponent = coefficient / 10 ^ count * 10 ^ (exponent + count + 2) := by
  have split : exponent + count + 2 = (count : ℤ) + (exponent + 2) := by ring
  unfold inPaise
  rw [split, zpow_add₀ (by norm_num) (count : ℤ), zpow_natCast, ← mul_assoc, div_mul_cancel₀ _ (by positivity)]

/-- A number with at most 28 digits of which the last is below a paisa fits. -/
theorem fits_of_le {amount : ℚ} {place : ℤ} (digits : amount ≤ 10 ^ 28) (fractional : place < 0) :
    amount * 10 ^ place < paiseBound := by
  have power : (10 : ℚ) ^ place ≤ 10 ^ (-1 : ℤ) := zpow_le_zpow_right₀ (by norm_num) (by omega)
  calc
    amount * 10 ^ place ≤ 10 ^ 28 * 10 ^ (-1 : ℤ) := by gcongr
    _ < paiseBound := by norm_num [paiseBound]

/-- Rounding to the context does not change whether a number fits. -/
theorem dropHalfEven_fits_iff {coefficient count : ℕ} {exponent : ℤ} (positive : 0 < coefficient)
    (kept : numDigits coefficient ≤ precision + count)
    (place : exponent + count = leastExponent ∨ precision + count = numDigits coefficient) :
    inPaise (dropHalfEven coefficient count) (exponent + count) < paiseBound ↔
      inPaise coefficient exponent < paiseBound := by
  have short : coefficient < 10 ^ precision * 10 ^ count := by
    rw [← pow_add]
    exact (numDigits_le_iff (by unfold precision; omega)).mp kept
  rcases lt_or_ge (exponent + count + 2) 0 with fractional | whole
  · refine iff_of_true (fits_of_le ?_ fractional) ?_
    · exact_mod_cast dropHalfEven_le short
    · rw [inPaise_shift coefficient count]
      refine fits_of_le ?_ fractional
      rw [div_le_iff₀ (by positivity)]
      exact_mod_cast short.le
  · have digits : precision + count = numDigits coefficient := by
      rcases place with least | exact
      · unfold leastExponent at least
        omega
      · exact exact
    have first : 10 ^ 27 * 10 ^ count ≤ coefficient := by
      have power := pow_le_of_pos positive
      rwa [← digits, show precision + count - 1 = 27 + count by unfold precision; omega, pow_add] at power
    have leading : 10 ^ 27 ≤ dropHalfEven coefficient count := by
      rw [le_dropHalfEven_iff (by norm_num)]
      have reach : (10 ^ 27 : ℚ) ≤ coefficient / 10 ^ count := by
        rw [le_div_iff₀ (by positivity)]
        exact_mod_cast first
      push_cast
      linarith
    rcases whole.eq_or_lt with unit | above
    · -- Rounded to whole paise: the bound is half below an even number.
      rw [inPaise_shift coefficient count, inPaise, ← unit, zpow_zero, mul_one, mul_one, natCast_lt_paiseBound_iff,
        numDigits_le_iff (by unfold precision; omega), ← not_le, ← not_le, le_dropHalfEven_iff (by decide)]
      unfold paiseBound precision
      norm_num
    · refine iff_of_false (not_fits_of_adjusted (by omega) ?_) (not_fits_of_adjusted positive ?_)
      · have long : ¬numDigits (dropHalfEven coefficient count) ≤ 27 := by
          rw [numDigits_le_iff (by norm_num)]
          exact not_lt.mpr leading
        unfold adjusted precision
        omega
      · unfold adjusted
        unfold precision at *
        omega

theorem readable_of_bounds {coefficient : ℕ} {exponent : ℤ} (most : adjusted coefficient exponent ≤ maxExponent)
    (least : leastExponent ≤ exponent) : readable coefficient exponent = true := by
  unfold maxExponent at most
  unfold leastExponent at least
  unfold readable
  rw [Bool.and_eq_true, decide_eq_true_eq, decide_eq_true_eq]
  omega

theorem not_fits_of_overflow {coefficient : ℕ} {exponent : ℤ} (positive : 0 < coefficient)
    (overflow : adjusted coefficient exponent > maxExponent) : ¬inPaise coefficient exponent < paiseBound := by
  refine not_fits_of_adjusted positive ?_
  unfold adjusted maxExponent at *
  unfold precision
  omega

/-- The rounding to the context succeeds with a number that can be read back and fits exactly when the
number itself does; where it overflows, the number does not fit. -/
inductive Finalized (negative : Bool) (coefficient : ℕ) (exponent : ℤ) : Except DecimalSignal Decimal → Prop
  | overflow (beyond : ¬inPaise coefficient exponent < paiseBound) :
      Finalized negative coefficient exponent (.error .overflow)
  | rounded {kept : ℕ} {place : ℤ} (reads : (finite negative kept place).Readable)
      (same : inPaise kept place < paiseBound ↔ inPaise coefficient exponent < paiseBound) :
      Finalized negative coefficient exponent (.ok (finite negative kept place))

/-- A carry out of the last place moves the point. -/
theorem inPaise_carry (place : ℤ) : inPaise (10 ^ precision / 10) (place + 1) = inPaise (10 ^ precision) place := by
  have split : place + 1 + 2 = 1 + (place + 2) := by ring
  unfold inPaise precision
  rw [split, zpow_add₀ (by norm_num), zpow_one, ← mul_assoc]
  norm_num

theorem finalized_guard {negative : Bool} {coefficient kept : ℕ} {exponent place : ℤ}
    (beyond : adjusted kept place > maxExponent → ¬inPaise coefficient exponent < paiseBound)
    (least : leastExponent ≤ place)
    (same : inPaise kept place < paiseBound ↔ inPaise coefficient exponent < paiseBound) :
    Finalized negative coefficient exponent
      (if adjusted kept place > maxExponent then .error .overflow else .ok (finite negative kept place)) := by
  split
  · next overflow => exact .overflow (beyond overflow)
  · next bounded => exact .rounded (readable_of_bounds (not_lt.mp bounded) least) same

theorem finalized (negative : Bool) (coefficient : ℕ) (exponent : ℤ) :
    Finalized negative coefficient exponent (finalize negative coefficient exponent) := by
  unfold finalize
  split
  · next zero =>
    refine .rounded (readable_of_bounds ?_ (le_max_left _ _)) ?_
    · have single : numDigits 0 = 1 := rfl
      unfold adjusted maxExponent leastExponent
      omega
    · rw [zero, inPaise, inPaise, Nat.cast_zero, zero_mul, zero_mul]
  · next nonzero =>
    have positive := Nat.pos_of_ne_zero nonzero
    split
    · next overflow => exact .overflow (not_fits_of_overflow positive overflow)
    · next bounded =>
      dsimp only
      split
      · next exact =>
        refine .rounded (readable_of_bounds (not_lt.mp bounded) ?_) Iff.rfl
        omega
      · next excessive =>
        have enough := le_max_left ((numDigits coefficient : ℤ) - precision) (leastExponent - exponent)
        have least := le_max_right ((numDigits coefficient : ℤ) - precision) (leastExponent - exponent)
        have choice := max_choice ((numDigits coefficient : ℤ) - precision) (leastExponent - exponent)
        generalize max ((numDigits coefficient : ℤ) - precision) (leastExponent - exponent) = excess at *
        obtain ⟨count, rfl⟩ := Int.eq_ofNat_of_zero_le (not_le.mp excessive).le
        rw [Int.toNat_natCast]
        have below : coefficient < 10 ^ precision * 10 ^ count := by
          rw [← pow_add]
          exact (numDigits_le_iff (by unfold precision; omega)).mp (by omega)
        have same := dropHalfEven_fits_iff positive (by omega : numDigits coefficient ≤ precision + count)
          (by omega : exponent + count = leastExponent ∨ _)
        split
        · next carry =>
          have full : dropHalfEven coefficient count = 10 ^ precision := by
            refine le_antisymm (dropHalfEven_le below) (not_lt.mp fun short => not_le.mpr carry ?_)
            exact (numDigits_le_iff (by unfold precision; omega)).mpr short
          rw [full] at same ⊢
          rw [← inPaise_carry] at same
          refine finalized_guard (fun overflow => ?_) (by omega) same
          exact mt same.mpr (not_fits_of_overflow (by decide) overflow)
        · next noCarry =>
          dsimp only
          refine finalized_guard (fun overflow => ?_) (by omega) same
          -- Without a carry the leading digit keeps its place.
          unfold adjusted maxExponent at *
          unfold leastExponent precision at *
          omega

/-- A finite number with its sign, in paise. -/
def paise : Decimal → ℚ
  | finite negative coefficient exponent => (if negative then -1 else 1) * inPaise coefficient exponent
  | infinity _ | nan _ _ => 0

theorem paise_finite (negative : Bool) (coefficient : ℕ) (exponent : ℤ) :
    paise (finite negative coefficient exponent) =
      (if negative then -1 else 1) * (coefficient * 10 ^ (exponent + 2)) := rfl

theorem inPaise_nonneg (coefficient : ℕ) (exponent : ℤ) : 0 ≤ inPaise coefficient exponent := by
  unfold inPaise
  positivity

theorem abs_paise_finite (negative : Bool) (coefficient : ℕ) (exponent : ℤ) :
    |paise (finite negative coefficient exponent)| = inPaise coefficient exponent := by
  cases negative <;> simp [paise, abs_of_nonneg (inPaise_nonneg coefficient exponent)]

theorem FitsPaise.abs_paise_lt {value : Decimal} (fits : value.FitsPaise) : |value.paise| < paiseBound := by
  cases value with
  | finite negative coefficient exponent =>
    rw [abs_paise_finite]
    exact fits
  | infinity negative => exact fits.elim
  | nan negative signaling => norm_num [paise, paiseBound]

/-- A finite number in units of a smaller power of ten. -/
theorem paise_of_units (negative : Bool) (coefficient : ℕ) {exponent common : ℤ} (lower : common ≤ exponent) :
    paise (finite negative coefficient exponent) =
      (((if negative then -1 else 1) * coefficient * 10 ^ (exponent - common).toNat : ℤ) : ℚ) *
        10 ^ (common + 2) := by
  have split : exponent + 2 = ((exponent - common).toNat : ℤ) + (common + 2) := by omega
  rw [paise_finite, split, zpow_add₀ (by norm_num) ((exponent - common).toNat : ℤ), zpow_natCast]
  push_cast
  ring

/-- The exact difference of two finite numbers, rounded to the context. -/
theorem subFinite_finalized (negative : Bool) (coefficient : ℕ) (exponent : ℤ) (negative' : Bool)
    (coefficient' : ℕ) (exponent' : ℤ) :
    ∃ minus size place,
      Finalized minus size place (subFinite negative coefficient exponent negative' coefficient' exponent') ∧
      inPaise size place =
        |paise (finite negative coefficient exponent) - paise (finite negative' coefficient' exponent')| := by
  refine ⟨_, _, _, finalized _ _ _, ?_⟩
  rw [paise_of_units negative coefficient (min_le_left exponent exponent'),
    paise_of_units negative' coefficient' (min_le_right exponent exponent'), ← sub_mul, abs_mul,
    abs_of_pos (a := (10 : ℚ) ^ _) (by positivity), ← Int.cast_sub, ← Int.cast_abs, Int.abs_eq_natAbs]
  rfl

/-- The text reads as a number in the range of amounts of money, or as a quiet NaN. -/
def Convertible (text : String) : Prop := ∃ value, ofText text = .ok value ∧ value.FitsPaise

theorem convertible_text_iff {value : Decimal} (reads : value.Readable) :
    Convertible value.text ↔ value.FitsPaise := by
  simp [Convertible, ofText_text reads]

theorem Finalized.fits_iff {negative : Bool} {coefficient : ℕ} {exponent : ℤ}
    {result : Except DecimalSignal Decimal} (rounding : Finalized negative coefficient exponent result) :
    (∃ net, result = .ok net ∧ Convertible net.text) ↔ inPaise coefficient exponent < paiseBound := by
  cases rounding with
  | overflow beyond => exact iff_of_false (by simp) beyond
  | rounded reads same =>
    rw [← same]
    constructor
    · rintro ⟨net, ⟨⟩, converts⟩
      exact (convertible_text_iff reads).mp converts
    · exact fun fits => ⟨_, rfl, (convertible_text_iff reads).mpr fits⟩

/-- The difference of two numbers in range is computed, written and read back in range exactly when the
exact difference is in range. -/
theorem difference_fits_iff {value value' : Decimal} (fits : value.FitsPaise) (fits' : value'.FitsPaise) :
    (∃ net, value.sub value' = .ok net ∧ Convertible net.text) ↔
      |value.paise - value'.paise| < paiseBound := by
  have notNumber (negative : Bool) :
      ∃ net, (.ok (nan negative false) : Except DecimalSignal Decimal) = .ok net ∧ Convertible net.text :=
    ⟨nan negative false, rfl, nan negative false, ofText_text trivial, rfl⟩
  cases value with
  | infinity negative => exact fits.elim
  | nan negative signaling =>
    cases fits
    cases value' with
    | infinity negative' => exact fits'.elim
    | finite negative' coefficient' exponent' =>
      refine iff_of_true (notNumber negative) ?_
      rw [show paise (nan negative false) = 0 from rfl, zero_sub, abs_neg]
      exact fits'.abs_paise_lt
    | nan negative' signaling' =>
      cases fits'
      exact iff_of_true (notNumber negative) (by norm_num [paise, paiseBound])
  | finite negative coefficient exponent =>
    cases value' with
    | infinity negative' => exact fits'.elim
    | nan negative' signaling' =>
      cases fits'
      refine iff_of_true (notNumber negative') ?_
      rw [show paise (nan negative' false) = 0 from rfl, sub_zero]
      exact fits.abs_paise_lt
    | finite negative' coefficient' exponent' =>
      obtain ⟨minus, size, place, rounding, amount⟩ :=
        subFinite_finalized negative coefficient exponent negative' coefficient' exponent'
      rw [← amount]
      exact rounding.fits_iff

end Decimal

end ReconcileFlow
