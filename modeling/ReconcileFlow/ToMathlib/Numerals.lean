import Mathlib

/-! # Numerals at the start of a text

A decimal numeral that is followed by a character other than a digit can be read back from the text.
-/

namespace Numerals

theorem isDigit_of_mem_toString {count : ℕ} {c : Char} (member : c ∈ (toString count).toList) :
    c.isDigit = true := by
  have digits : (toString count).toList = Nat.toDigits 10 count := Nat.toList_repr
  rw [digits] at member
  exact Nat.isDigit_of_mem_toDigits (by norm_num) (by norm_num) member

theorem takeWhile_numeral (count : ℕ) {c : Char} (stops : c.isDigit = false) (rest : List Char) :
    ((toString count).toList ++ c :: rest).takeWhile Char.isDigit = (toString count).toList := by
  rw [List.takeWhile_append_of_pos fun _ member => isDigit_of_mem_toString member,
    List.takeWhile_cons_of_neg (by simp [stops]), List.append_nil]

/-- Two texts that agree start with the same number. -/
theorem eq_of_numeral {count count' : ℕ} {c c' : Char} {rest rest' : List Char} (stops : c.isDigit = false)
    (stops' : c'.isDigit = false)
    (same : (toString count).toList ++ c :: rest = (toString count').toList ++ c' :: rest') :
    count = count' := by
  have read := congrArg (List.takeWhile Char.isDigit) same
  rw [takeWhile_numeral count stops, takeWhile_numeral count' stops'] at read
  exact Nat.repr_injective (String.toList_injective read)

end Numerals
