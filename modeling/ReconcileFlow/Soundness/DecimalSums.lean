import ReconcileFlow.Model.Domain
import ReconcileFlow.Soundness.PaiseRange

/-! # Sums of amounts

Amounts are added and subtracted in the default context, which keeps 28 digits. A sum below that bound is
exact, and a larger one stays beyond it, so rounding moves no sum across a validated amount
(`Money.lt_total_iff`). The rounding of whole paise is the one of `finalize`, and the text of an amount is
the one of the decimal it is (`finalize_units`).
-/

namespace ReconcileFlow

namespace Decimal

theorem div_le_dropHalfEven (coefficient count : ℕ) : coefficient / 10 ^ count ≤ dropHalfEven coefficient count := by
  unfold dropHalfEven
  dsimp only
  split <;> omega

theorem roundUnits_of_short {units : ℕ} (short : numDigits units ≤ precision) : roundUnits units = units := by
  unfold roundUnits dropHalfEven
  rw [Nat.sub_eq_zero_of_le short]
  simp [Nat.mod_one]

/-- What rounding keeps of a number that is too long has all its digits. -/
theorem leading_le_dropHalfEven {units : ℕ} (long : precision < numDigits units) :
    10 ^ (precision - 1) ≤ dropHalfEven units (numDigits units - precision) := by
  refine le_trans ?_ (div_le_dropHalfEven _ _)
  have positive : 0 < units := by
    by_contra zero
    obtain rfl : units = 0 := by omega
    exact absurd long (by decide)
  have leading := pow_le_of_pos positive
  rw [Nat.le_div_iff_mul_le (by positivity), ← pow_add]
  refine le_trans (Nat.pow_le_pow_right (by norm_num) ?_) leading
  unfold precision at *
  omega

/-- What is kept of a longer number has 28 digits, or is the power of ten behind them. -/
theorem dropHalfEven_of_long {units : ℕ} (long : precision < numDigits units) :
    numDigits (dropHalfEven units (numDigits units - precision)) = precision ∨
      dropHalfEven units (numDigits units - precision) = 10 ^ precision := by
  have leading := leading_le_dropHalfEven long
  have most : dropHalfEven units (numDigits units - precision) ≤ 10 ^ precision := by
    refine dropHalfEven_le ?_
    rw [← pow_add, Nat.add_sub_cancel' long.le]
    exact lt_pow_numDigits units
  rcases most.lt_or_eq with below | whole
  · left
    apply le_antisymm
    · exact (numDigits_le_iff (by decide)).mpr below
    · by_contra fewer
      have short := (numDigits_le_iff (by decide)).mp (Nat.le_sub_one_of_lt (not_le.mp fewer))
      exact absurd short (not_lt.mpr leading)
  · exact Or.inr whole

theorem numDigits_units {kept : ℕ} (digits : numDigits kept = precision) (shift : ℕ) :
    numDigits (kept * 10 ^ shift) = precision + shift := by
  have below : kept < 10 ^ precision := (numDigits_le_iff (by decide)).mp digits.le
  have above : 10 ^ (precision - 1) ≤ kept := by
    by_contra short
    have fewer : numDigits kept ≤ precision - 1 := (numDigits_le_iff (by decide)).mpr (not_le.mp short)
    rw [digits] at fewer
    exact absurd fewer (by decide)
  apply le_antisymm
  · rw [numDigits_le_iff (by unfold precision; omega), pow_add]
    gcongr
  · by_contra short
    have fewer : numDigits (kept * 10 ^ shift) ≤ precision - 1 + shift := by
      unfold precision at *
      omega
    rw [numDigits_le_iff (by unfold precision; omega), pow_add] at fewer
    exact absurd (Nat.lt_of_mul_lt_mul_right fewer) (not_lt.mpr above)

end Decimal

open Decimal

/-- The text of a decimal with all its digits. -/
theorem Money.text_units {kept : ℕ} (digits : numDigits kept = precision) (shift : ℕ) :
    Money.text ⟨kept * 10 ^ shift⟩ = finiteText kept (shift - 2) := by
  unfold Money.text Money.decimalText
  dsimp only
  rw [Int.natAbs_natCast, numDigits_units digits, Nat.add_sub_cancel_left,
    Nat.mul_div_cancel _ (by positivity), decide_eq_false (by omega)]
  exact String.empty_append

theorem Money.text_short {units : ℕ} (short : numDigits units ≤ precision) :
    Money.text ⟨units⟩ = finiteText units (-2) := by
  unfold Money.text Money.decimalText
  dsimp only
  rw [Int.natAbs_natCast, Nat.sub_eq_zero_of_le short, pow_zero, Nat.div_one, decide_eq_false (by omega)]
  exact String.empty_append

/-- Finalizing a whole number of paise: more than 28 digits are cut, and a carry out of the last place is
cut once more. -/
theorem finalize_paise {units : ℕ} (positive : 0 < units) (bounded : (numDigits units : ℤ) ≤ maxExponent) :
    let shift := numDigits units - precision
    let rounded := dropHalfEven units shift
    finalize false units (-2) = .ok (if numDigits units ≤ precision then .finite false units (-2)
      else if numDigits rounded ≤ precision then .finite false rounded (shift - 2)
      else .finite false (rounded / 10) (shift - 1)) := by
  have inRange (kept : ℕ) (place : ℤ) (digits : place + numDigits kept ≤ numDigits units) :
      ¬adjusted kept place > maxExponent := by
    unfold adjusted
    omega
  have excess : max ((numDigits units : ℤ) - precision) (leastExponent - -2) = (numDigits units : ℤ) - precision := by
    unfold leastExponent precision
    omega
  unfold finalize
  rw [if_neg positive.ne', if_neg (inRange units (-2) (by omega))]
  dsimp only
  rw [excess]
  rcases le_or_gt (numDigits units) precision with short | long
  · rw [if_pos (by omega), if_pos short]
  have count : ((numDigits units : ℤ) - precision).toNat = numDigits units - precision := by omega
  rw [if_neg (by omega), if_neg (not_le.mpr long), count]
  have kept := dropHalfEven_of_long long
  generalize shifts : numDigits units - precision = shift at kept ⊢
  have place : (-2 : ℤ) + (numDigits units - precision) = shift - 2 := by omega
  rw [place]
  generalize dropHalfEven units shift = rounded at kept ⊢
  rcases kept with digits | rfl
  · rw [if_neg (not_lt.mpr digits.le), if_pos digits.le]
    exact if_neg (inRange rounded (shift - 2) (by omega))
  · have carried : precision < numDigits (10 ^ precision) := by decide
    have digits : numDigits (10 ^ precision / 10) = precision := by decide
    rw [if_pos carried, if_neg (not_le.mpr carried), show (shift : ℤ) - 2 + 1 = shift - 1 by omega]
    exact if_neg (inRange (10 ^ precision / 10) (shift - 1) (by omega))

/-- Finalizing a whole number of paise keeps `roundUnits` of it, and its text is the one of the amount. -/
theorem finalize_units {units : ℕ} (bounded : (numDigits units : ℤ) ≤ maxExponent) :
    ∃ kept place, finalize false units (-2) = .ok (.finite false kept place) ∧
      inPaise kept place = roundUnits units ∧
      (Decimal.finite false kept place).text = Money.text ⟨roundUnits units⟩ := by
  have written (kept : ℕ) (place : ℤ) : (Decimal.finite false kept place).text = finiteText kept place :=
    String.empty_append
  rcases Nat.eq_zero_or_pos units with rfl | positive
  · refine ⟨0, -2, by decide, ?_, by decide⟩
    simp [inPaise, roundUnits_of_short (show numDigits 0 ≤ precision by decide)]
  have finalized := finalize_paise positive bounded
  dsimp only at finalized
  rcases le_or_gt (numDigits units) precision with short | long
  · rw [if_pos short] at finalized
    refine ⟨units, -2, finalized, ?_, ?_⟩
    · simp [inPaise, roundUnits_of_short short]
    · rw [written, roundUnits_of_short short, Money.text_short short]
  have whole : roundUnits units =
    dropHalfEven units (numDigits units - precision) * 10 ^ (numDigits units - precision) := rfl
  rw [if_neg (not_le.mpr long)] at finalized
  rw [whole]
  have cases := dropHalfEven_of_long long
  generalize dropHalfEven units (numDigits units - precision) = rounded at cases finalized ⊢
  generalize numDigits units - precision = shift at finalized ⊢
  rcases cases with digits | rfl
  · rw [if_pos digits.le] at finalized
    refine ⟨rounded, shift - 2, finalized, ?_, ?_⟩
    · rw [inPaise, sub_add_cancel, zpow_natCast]
      push_cast
      rfl
    · rw [written, Money.text_units digits]
  · -- One digit, followed by zeros: the carry moved into the power of ten.
    have moved : 10 ^ precision * 10 ^ shift = 10 ^ precision / 10 * 10 ^ (shift + 1) := by
      rw [pow_succ 10 shift, mul_comm (10 ^ shift) 10, ← mul_assoc]
      congr 1
    rw [if_neg (by decide)] at finalized
    rw [moved]
    refine ⟨10 ^ precision / 10, shift - 1, finalized, ?_, ?_⟩
    · have power : ((shift : ℤ) - 1 + 2) = ((shift + 1 : ℕ) : ℤ) := by
        push_cast
        ring
      rw [inPaise, power, zpow_natCast, Nat.cast_mul, Nat.cast_pow]
      rfl
    · rw [written, Money.text_units (by decide)]
      congr 1
      push_cast
      ring

namespace Money

theorem paise_sum (amounts : List Money) : amounts.sum.paise = (amounts.map Money.paise).sum := by
  induction amounts with
  | nil => rfl
  | cons amount rest ih => rw [List.sum_cons, paise_add, ih, List.map_cons, List.sum_cons]

/-- An exact total does not depend on the order of the amounts. -/
theorem sum_perm {first second : List Money} (perm : first.Perm second) : first.sum = second.sum := by
  have paise : first.sum.paise = second.sum.paise := by
    rw [paise_sum, paise_sum]
    exact (perm.map Money.paise).sum_eq
  exact congrArg Money.mk paise

theorem validated_iff {amount : Money} : amount.Validated ↔ amount.paise < 10 ^ precision :=
  numDigits_le_iff (by decide)

theorem roundUnits_of_lt {units : ℕ} (small : units < 10 ^ precision) : roundUnits units = units :=
  roundUnits_of_short ((numDigits_le_iff (by decide)).mpr small)

theorem le_roundUnits {units : ℕ} (large : 10 ^ precision ≤ units) : 10 ^ precision ≤ roundUnits units := by
  have long : precision < numDigits units := by
    by_contra short
    exact absurd ((numDigits_le_iff (by decide)).mp (not_lt.mp short)) (not_lt.mpr large)
  calc
    10 ^ precision = 10 ^ (precision - 1) * 10 ^ 1 := by decide
    _ ≤ dropHalfEven units (numDigits units - precision) * 10 ^ (numDigits units - precision) := by
      refine Nat.mul_le_mul (leading_le_dropHalfEven long) (Nat.pow_le_pow_right (by norm_num) ?_)
      omega

/-- The rounded sum is the exact one, or both are beyond 28 digits. -/
def Tracks (sum exact : Money) : Prop :=
  (exact.paise < 10 ^ precision ∧ sum = exact) ∨ (10 ^ precision ≤ exact.paise ∧ 10 ^ precision ≤ sum.paise)

theorem Tracks.plus {sum exact : Money} (tracks : Tracks sum exact) (amount : Money) :
    Tracks (sum.plus amount) (exact + amount) := by
  rcases tracks with ⟨-, rfl⟩ | ⟨exactly, rounded⟩
  · rcases lt_or_ge (sum.paise + amount.paise) (10 ^ precision) with small | large
    · exact .inl ⟨small, congrArg Money.mk (roundUnits_of_lt small)⟩
    · exact .inr ⟨large, le_roundUnits large⟩
  · exact .inr ⟨exactly.trans (Nat.le_add_right _ _), le_roundUnits (rounded.trans (Nat.le_add_right _ _))⟩

theorem total_tracks (amounts : List Money) : Tracks (total amounts) amounts.sum := by
  suffices all : ∀ sum exact : Money, Tracks sum exact → Tracks (amounts.foldl Money.plus sum) (exact + amounts.sum) by
    have start := all 0 0 (.inl ⟨by decide, rfl⟩)
    have none : (0 : Money) + amounts.sum = amounts.sum := congrArg Money.mk (Nat.zero_add _)
    rwa [none] at start
  induction amounts with
  | nil => exact fun sum exact tracks => tracks
  | cons amount rest ih =>
    intro sum exact tracks
    have next := ih _ _ (tracks.plus amount)
    have assoc : exact + amount + rest.sum = exact + (amount :: rest).sum :=
      congrArg Money.mk (Nat.add_assoc _ _ _)
    rwa [assoc] at next

/-- A total of at most 28 digits is exact. -/
theorem total_of_validated {amounts : List Money} (small : amounts.sum.Validated) : total amounts = amounts.sum := by
  rcases total_tracks amounts with ⟨-, same⟩ | ⟨large, -⟩
  · exact same
  · exact absurd (validated_iff.mp small) (not_lt.mpr large)

/-- Rounding moves no total across a validated amount. -/
theorem lt_total_iff {amount : Money} (valid : amount.Validated) (amounts : List Money) :
    amount.paise < (total amounts).paise ↔ amount.paise < amounts.sum.paise := by
  have small := validated_iff.mp valid
  rcases total_tracks amounts with ⟨-, same⟩ | ⟨exact, rounded⟩
  · rw [same]
  · exact iff_of_true (small.trans_le rounded) (small.trans_le exact)

/-- The difference of two validated amounts is exact. -/
theorem minus_of_validated {left right : Money} (validLeft : left.Validated) (validRight : right.Validated) :
    left.minus right = left.paise - right.paise := by
  have smallLeft := validated_iff.mp validLeft
  have smallRight := validated_iff.mp validRight
  unfold minus
  dsimp only
  rw [roundUnits_of_lt (by omega)]
  exact Int.sign_mul_natAbs _

theorem rupees_minus_of_validated {left right : Money} (validLeft : left.Validated)
    (validRight : right.Validated) : (left.minus right : ℚ) / 100 = left.rupees - right.rupees := by
  rw [minus_of_validated validLeft validRight]
  unfold rupees
  push_cast
  exact sub_div ..

end Money

end ReconcileFlow
