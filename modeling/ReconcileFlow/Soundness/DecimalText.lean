import ReconcileFlow.Model.Decimal

/-! # A decimal is read back from its text

`str` writes a finite number plainly or in scientific notation, depending on its exponent. Reading the text
gives back the same sign, coefficient and exponent (`Decimal.ofText_text`).
-/

namespace ReconcileFlow

/-- A character that reading leaves alone. -/
def isPlain (c : Char) : Prop := 0 < c.toNat ∧ c.toNat ≤ 127 ∧ isSpace c = false ∧ c ≠ '_'

instance (c : Char) : Decidable (isPlain c) := by
  unfold isPlain
  infer_instance

theorem toNat_of_isDigit {c : Char} (digit : c.isDigit = true) : 48 ≤ c.toNat ∧ c.toNat ≤ 57 := by
  simp only [Char.isDigit, Bool.and_eq_true, decide_eq_true_eq, ge_iff_le, UInt32.le_iff_toNat_le] at digit
  exact digit

theorem isPlain_of_isDigit {c : Char} (digit : c.isDigit = true) : isPlain c := by
  obtain ⟨least, most⟩ := toNat_of_isDigit digit
  refine ⟨by omega, by omega, ?_, ?_⟩
  · simp only [isSpace, Bool.or_eq_false_iff, Bool.and_eq_false_iff, decide_eq_false_iff_not, not_le,
      List.contains_eq_mem, List.mem_cons, List.not_mem_nil, or_false]
    omega
  · rintro rfl
    cases digit

theorem toLower_of_isDigit {c : Char} (digit : c.isDigit = true) : c.toLower = c := by
  obtain ⟨least, most⟩ := toNat_of_isDigit digit
  have notUpper : ¬c.isUpper = true := by
    simp only [Char.isUpper, decide_eq_true_eq, ge_iff_le, UInt32.le_iff_toNat_le]
    rintro ⟨upper, -⟩
    have : 65 ≤ c.toNat := upper
    omega
  exact Char.toLower_eq_of_not_isUpper notUpper

theorem strip_of_plain {text : List Char} (plain : ∀ c ∈ text, isSpace c = false) : strip text = text := by
  unfold strip
  cases text with
  | nil => rfl
  | cons first rest =>
    rw [List.dropWhile_cons_of_neg (by simp [plain first List.mem_cons_self])]
    refine List.rdropWhile_eq_self_iff.mpr fun nonempty => ?_
    simp [plain _ (List.getLast_mem nonempty)]

theorem mapM_numericChar_of_plain {text : List Char} (plain : ∀ c ∈ text, isPlain c) :
    text.mapM numericChar = some text := by
  induction text with
  | nil => rfl
  | cons first rest ih =>
    obtain ⟨now, later⟩ := List.forall_mem_cons.mp plain
    have kept : numericChar first = some first := if_pos ⟨now.1, now.2.1⟩
    simp [List.mapM_cons, kept, ih later]

theorem numericAsAscii_of_plain {text : String} (plain : ∀ c ∈ text.toList, isPlain c) :
    numericAsAscii text = some text.toList := by
  unfold numericAsAscii
  rw [strip_of_plain fun c member => (plain c member).2.2.1,
    List.filter_eq_self.mpr fun c member => by simpa using (plain c member).2.2.2,
    mapM_numericChar_of_plain plain]

namespace Decimal

theorem natOfDigits_eq (digits : List Char) : natOfDigits digits = Nat.ofDigitChars 10 digits 0 := by
  rw [Nat.ofDigitChars_eq_foldl]
  rfl

theorem natOfDigits_toDigits (coefficient : ℕ) : natOfDigits (Nat.toDigits 10 coefficient) = coefficient := by
  rw [natOfDigits_eq, Nat.ofDigitChars_ten_toDigits]

/-- Zeros in front do not change the number. -/
theorem natOfDigits_replicate_append (count : ℕ) (digits : List Char) :
    natOfDigits (List.replicate count '0' ++ digits) = natOfDigits digits := by
  rw [natOfDigits_eq, natOfDigits_eq, Nat.ofDigitChars_append, Nat.ofDigitChars_replicate_zero, mul_zero]

theorem isDigit_of_mem_toDigits {coefficient : ℕ} {c : Char} (member : c ∈ Nat.toDigits 10 coefficient) :
    c.isDigit = true :=
  Nat.isDigit_of_mem_toDigits (by norm_num) (by norm_num) member

/-- What follows the digits does not continue them. -/
def Stops (rest : List Char) : Prop := ∀ c ∈ rest.head?, c.isDigit = false

theorem takeWhile_digits {digits rest : List Char} (all : ∀ c ∈ digits, c.isDigit = true) (stops : Stops rest) :
    (digits ++ rest).takeWhile Char.isDigit = digits := by
  rw [List.takeWhile_append_of_pos all]
  cases rest with
  | nil => simp
  | cons first more => rw [List.takeWhile_cons_of_neg (by simp [stops first rfl]), List.append_nil]

theorem dropWhile_digits {digits rest : List Char} (all : ∀ c ∈ digits, c.isDigit = true) (stops : Stops rest) :
    (digits ++ rest).dropWhile Char.isDigit = rest := by
  rw [List.dropWhile_append_of_pos all]
  cases rest with
  | nil => simp
  | cons first more => rw [List.dropWhile_cons_of_neg (by simp [stops first rfl])]

/-- A number with a point. -/
theorem readFinite_point {whole fraction rest : List Char} {exponent : ℤ}
    (wholeDigits : ∀ c ∈ whole, c.isDigit = true) (nonempty : whole ≠ [])
    (fractionDigits : ∀ c ∈ fraction, c.isDigit = true) (stops : Stops rest)
    (read : readExponent rest = some exponent) :
    readFinite (whole ++ '.' :: (fraction ++ rest)) =
      some (natOfDigits (whole ++ fraction), exponent - fraction.length) := by
  have point : Stops ('.' :: (fraction ++ rest)) := by
    rintro c ⟨⟩
    decide
  simp [readFinite, takeWhile_digits wholeDigits point, dropWhile_digits wholeDigits point,
    takeWhile_digits fractionDigits stops, dropWhile_digits fractionDigits stops, nonempty, read]

/-- A number without a point. -/
theorem readFinite_whole {whole rest : List Char} {exponent : ℤ} (wholeDigits : ∀ c ∈ whole, c.isDigit = true)
    (nonempty : whole ≠ []) (stops : Stops rest) (noPoint : rest.head? ≠ some '.')
    (read : readExponent rest = some exponent) :
    readFinite (whole ++ rest) = some (natOfDigits whole, exponent) := by
  unfold readFinite
  rw [takeWhile_digits wholeDigits stops, dropWhile_digits wholeDigits stops]
  cases rest with
  | nil => simp [nonempty, read]
  | cons first more =>
    have other : first ≠ '.' := fun same => noPoint (by rw [same]; rfl)
    dsimp only
    split
    · next same => exact absurd (List.cons.inj same).1 other
    · simp [nonempty, read]

/-- The exponent that scientific notation writes. -/
theorem readExponent_written (leading : ℤ) :
    readExponent ('E' :: (if 0 ≤ leading then '+' else '-') :: Nat.toDigits 10 leading.natAbs) =
      some leading := by
  have digits : (Nat.toDigits 10 leading.natAbs).all Char.isDigit = true :=
    List.all_eq_true.mpr fun _ member => isDigit_of_mem_toDigits member
  by_cases sign : 0 ≤ leading
  · simp [readExponent, splitSign, sign, digits, natOfDigits_toDigits]
  · simp [readExponent, splitSign, sign, digits, natOfDigits_toDigits, abs_of_neg (not_le.mp sign)]

/-- A fraction after its point; no point without a fraction. -/
def pointed : List Char → List Char
  | [] => []
  | first :: rest => '.' :: first :: rest

theorem pointed_of_ne_nil {fraction : List Char} (nonempty : fraction ≠ []) :
    pointed fraction = '.' :: fraction := by
  obtain ⟨first, rest, rfl⟩ := List.exists_cons_of_ne_nil nonempty
  rfl

/-- The exponent part of a plain number is empty. -/
inductive Ending : List Char → ℤ → Prop
  | plain : Ending [] 0
  | scientific (leading : ℤ) :
      Ending ('E' :: (if 0 ≤ leading then '+' else '-') :: Nat.toDigits 10 leading.natAbs) leading

/-- A text in the form that `str` gives a finite number. -/
inductive Written : List Char → ℕ → ℤ → Prop
  | parts (whole fraction : List Char) {ending : List Char} {shift : ℤ}
      (wholeDigits : ∀ c ∈ whole, c.isDigit = true) (nonempty : whole ≠ [])
      (fractionDigits : ∀ c ∈ fraction, c.isDigit = true) (ends : Ending ending shift) :
      Written (whole ++ (pointed fraction ++ ending)) (natOfDigits (whole ++ fraction)) (shift - fraction.length)

theorem Ending.read {ending : List Char} {shift : ℤ} (ends : Ending ending shift) :
    Stops ending ∧ ending.head? ≠ some '.' ∧ readExponent ending = some shift := by
  cases ends with
  | plain => exact ⟨by rintro c ⟨⟩, by simp, rfl⟩
  | scientific =>
    refine ⟨?_, by simp, readExponent_written shift⟩
    rintro c ⟨⟩
    decide

theorem Ending.isPlain {ending : List Char} {shift : ℤ} (ends : Ending ending shift) {c : Char}
    (member : c ∈ ending) : isPlain c := by
  cases ends with
  | plain => cases member
  | scientific leading =>
    rcases List.mem_cons.mp member with rfl | later
    · decide
    · rcases List.mem_cons.mp later with rfl | digit
      · split <;> decide
      · exact isPlain_of_isDigit (isDigit_of_mem_toDigits digit)

namespace Written

variable {text : List Char} {coefficient : ℕ} {exponent : ℤ}

theorem readFinite_eq (written : Written text coefficient exponent) :
    readFinite text = some (coefficient, exponent) := by
  obtain ⟨whole, fraction, wholeDigits, nonempty, fractionDigits, ends⟩ := written
  obtain ⟨stops, noPoint, read⟩ := ends.read
  cases fraction with
  | nil => simpa [pointed] using readFinite_whole wholeDigits nonempty stops noPoint read
  | cons first rest => exact readFinite_point wholeDigits nonempty fractionDigits stops read

theorem isPlain (written : Written text coefficient exponent) {c : Char} (member : c ∈ text) :
    ReconcileFlow.isPlain c := by
  obtain ⟨whole, fraction, wholeDigits, nonempty, fractionDigits, ends⟩ := written
  rcases List.mem_append.mp member with inWhole | later
  · exact isPlain_of_isDigit (wholeDigits c inWhole)
  · rcases List.mem_append.mp later with inFraction | inEnding
    · cases fraction with
      | nil => cases inFraction
      | cons first rest =>
        rcases List.mem_cons.mp inFraction with rfl | digit
        · decide
        · exact isPlain_of_isDigit (fractionDigits c digit)
    · exact ends.isPlain inEnding

theorem starts_with_digit (written : Written text coefficient exponent) :
    ∃ first rest, text = first :: rest ∧ first.isDigit = true := by
  obtain ⟨whole, fraction, wholeDigits, nonempty, fractionDigits, ends⟩ := written
  obtain ⟨first, rest, rfl⟩ := List.exists_cons_of_ne_nil nonempty
  exact ⟨first, _, rfl, wholeDigits first List.mem_cons_self⟩

/-- A written number is read unless its exponent is beyond the largest ones. -/
theorem readUnsigned_eq (written : Written text coefficient exponent) (negative : Bool)
    (reads : readable coefficient exponent = true) :
    readUnsigned negative text = some (finite negative coefficient exponent) := by
  obtain ⟨first, rest, starts, digit⟩ := written.starts_with_digit
  have letters : first ≠ 'i' ∧ first ≠ 'n' ∧ first ≠ 's' := by
    refine ⟨?_, ?_, ?_⟩ <;> (rintro rfl; cases digit)
  obtain ⟨notI, notN, notS⟩ := letters
  unfold readUnsigned
  rw [written.readFinite_eq, starts]
  simp [toLower_of_isDigit digit, notI, notN.symm, notS.symm, reads]

end Written

section Forms

variable {digits : List Char} (allDigits : ∀ c ∈ digits, c.isDigit = true)

include allDigits

/-- The point falls among the digits. -/
theorem written_among {before : ℕ} (positive : 0 < before) (short : before < digits.length) :
    Written (digits.take before ++ '.' :: digits.drop before) (natOfDigits digits) (before - digits.length) := by
  have ahead : digits.take before ≠ [] := by
    apply List.ne_nil_of_length_pos
    simp only [List.length_take]
    omega
  have behind : digits.drop before ≠ [] := by
    apply List.ne_nil_of_length_pos
    simp only [List.length_drop]
    omega
  have written := Written.parts (digits.take before) (digits.drop before)
    (fun c member => allDigits c (List.mem_of_mem_take member)) ahead
    (fun c member => allDigits c (List.mem_of_mem_drop member)) .plain
  rw [pointed_of_ne_nil behind, List.append_nil, List.take_append_drop, List.length_drop,
    Nat.cast_sub short.le, zero_sub, neg_sub] at written
  exact written

/-- The point stands before zeros that precede the digits. -/
theorem written_below (nonempty : digits ≠ []) (zeros : ℕ) :
    Written ('0' :: '.' :: (List.replicate zeros '0' ++ digits)) (natOfDigits digits)
      (-(zeros + digits.length : ℤ)) := by
  have all : ∀ c ∈ List.replicate zeros '0' ++ digits, c.isDigit = true := by
    intro c member
    rcases List.mem_append.mp member with zero | digit
    · rw [List.eq_of_mem_replicate zero]
      rfl
    · exact allDigits c digit
  have written := Written.parts ['0'] (List.replicate zeros '0' ++ digits) (by simp) (by simp) all .plain
  have value : natOfDigits (['0'] ++ (List.replicate zeros '0' ++ digits)) = natOfDigits digits := by
    rw [← List.append_assoc, ← List.replicate_one, List.replicate_append_replicate, natOfDigits_replicate_append]
  rw [value, pointed_of_ne_nil (by simp [nonempty]), List.append_nil, List.length_append, List.length_replicate,
    Nat.cast_add, zero_sub] at written
  exact written

end Forms

theorem toList_mark (positive : Prop) [Decidable positive] :
    (if positive then "+" else "-").toList = [if positive then '+' else '-'] := by
  split <;> rfl

theorem written_finiteText (coefficient : ℕ) (exponent : ℤ) :
    Written (finiteText coefficient exponent).toList coefficient exponent := by
  have allDigits : ∀ c ∈ Nat.toDigits 10 coefficient, c.isDigit = true := fun _ => isDigit_of_mem_toDigits
  have value := natOfDigits_toDigits coefficient
  have count : 0 < (Nat.toDigits 10 coefficient).length := Nat.length_toDigits_pos
  unfold finiteText adjusted numDigits
  generalize Nat.toDigits 10 coefficient = digits at allDigits value count ⊢
  subst value
  have nonempty : digits ≠ [] := List.ne_nil_of_length_pos count
  dsimp only
  split
  · next plain =>
    split
    · next exact =>
      have written := Written.parts digits [] allDigits nonempty (by simp) .plain
      simpa [pointed, exact] using written
    · next fractional =>
      split
      · next point =>
        have written := written_among allDigits point (by omega)
        have place : ((digits.length + exponent).toNat : ℤ) - digits.length = exponent := by omega
        rw [place] at written
        simpa using written
      · next point =>
        have written := written_below allDigits nonempty (-(digits.length + exponent)).toNat
        have place : -(((-(digits.length + exponent)).toNat : ℤ) + digits.length) = exponent := by omega
        rw [place] at written
        simpa using written
  · obtain ⟨first, rest, rfl⟩ := List.exists_cons_of_ne_nil nonempty
    obtain ⟨head, tail⟩ := List.forall_mem_cons.mp allDigits
    have written := Written.parts [first] rest (by simpa using head) (by simp) tail
      (.scientific (exponent + (first :: rest).length - 1))
    have place : exponent + (first :: rest).length - 1 - (rest.length : ℤ) = exponent := by
      rw [List.length_cons]
      omega
    rw [place] at written
    cases rest with
    | nil => simpa [pointed, toList_mark] using written
    | cons second rest => simpa [pointed, toList_mark] using written

/-- A number whose exponents are within the largest ones. -/
def Readable : Decimal → Prop
  | finite _ coefficient exponent => readable coefficient exponent = true
  | _ => True

theorem splitSign_of_digit {first : Char} (digit : first.isDigit = true) (rest : List Char) :
    splitSign (first :: rest) = (false, first :: rest) := by
  unfold splitSign
  split
  · next same => cases same; cases digit
  · next same => cases same; cases digit
  · rfl

theorem Written.isPlain_signed {unsigned : String} {coefficient : ℕ} {exponent : ℤ}
    (written : Written unsigned.toList coefficient exponent) (negative : Bool) :
    ∀ c ∈ (signText negative ++ unsigned).toList, ReconcileFlow.isPlain c := by
  intro c member
  rw [String.toList_append, List.mem_append] at member
  rcases member with sign | inside
  · cases negative with
    | true => cases List.mem_singleton.mp sign; decide
    | false => cases sign
  · exact written.isPlain inside

/-- A sign, then a number. -/
theorem ofText_signed (negative : Bool) {unsigned : String} {coefficient : ℕ} {exponent : ℤ}
    (written : Written unsigned.toList coefficient exponent) (reads : readable coefficient exponent = true) :
    ofText (signText negative ++ unsigned) = .ok (finite negative coefficient exponent) := by
  obtain ⟨first, rest, starts, digit⟩ := written.starts_with_digit
  have split : splitSign (signText negative ++ unsigned).toList = (negative, unsigned.toList) := by
    rw [String.toList_append, starts]
    cases negative with
    | true => rfl
    | false => exact splitSign_of_digit digit rest
  unfold ofText
  rw [numericAsAscii_of_plain (written.isPlain_signed negative), Option.bind_some, split, written.readUnsigned_eq negative reads]

/-- Reading the text of a number gives back the number. -/
theorem ofText_text {value : Decimal} (reads : value.Readable) : ofText value.text = .ok value := by
  cases value with
  | finite negative coefficient exponent =>
    exact ofText_signed negative (written_finiteText coefficient exponent) reads
  | infinity negative => cases negative <;> rfl
  | nan negative signaling => cases negative <;> cases signaling <;> rfl

/-- The text of a number is not blank. -/
theorem text_nonblank (value : Decimal) : strip value.text.toList ≠ [] := by
  cases value with
  | finite negative coefficient exponent =>
    have written := written_finiteText coefficient exponent
    have plain := written.isPlain_signed negative
    obtain ⟨first, rest, starts, -⟩ := written.starts_with_digit
    rw [text, strip_of_plain fun c member => (plain c member).2.2.1, String.toList_append, starts]
    simp
  | infinity negative => cases negative <;> decide
  | nan negative signaling => cases negative <;> cases signaling <;> decide

end Decimal

end ReconcileFlow
