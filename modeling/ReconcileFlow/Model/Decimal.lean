import Mathlib

/-! # Decimal arithmetic

What the row validators use of `decimal.Decimal`: reading a text, subtracting in the default context
(28 digits, half-even, exponents within ±999999), quantizing to paise with half-up rounding, and `str`.
Reading is exact and bounded only by the largest exponents of the C implementation. The diagnostic
digits of a NaN are not kept: nothing reads them.
-/

namespace ReconcileFlow

/-- `str.isspace` of one character. -/
def isSpace (c : Char) : Bool :=
  let code := c.toNat
  (9 ≤ code && code ≤ 13) || (28 ≤ code && code ≤ 32) || (0x2000 ≤ code && code ≤ 0x200a) ||
    [0x85, 0xa0, 0x1680, 0x2028, 0x2029, 0x202f, 0x205f, 0x3000].contains code

/-- `str.strip`. -/
def strip (text : List Char) : List Char := text.dropWhile isSpace |>.rdropWhile isSpace

/-- The code points of the digits zero; the other nine digits follow each of them. -/
def digitZeros : List ℕ :=
  [0x30, 0x660, 0x6f0, 0x7c0, 0x966, 0x9e6, 0xa66, 0xae6, 0xb66, 0xbe6, 0xc66, 0xce6, 0xd66, 0xde6, 0xe50,
    0xed0, 0xf20, 0x1040, 0x1090, 0x17e0, 0x1810, 0x1946, 0x19d0, 0x1a80, 0x1a90, 0x1b50, 0x1bb0, 0x1c40,
    0x1c50, 0xa620, 0xa8d0, 0xa900, 0xa9d0, 0xa9f0, 0xaa50, 0xabf0, 0xff10, 0x104a0, 0x10d30, 0x11066,
    0x110f0, 0x11136, 0x111d0, 0x112f0, 0x11450, 0x114d0, 0x11650, 0x116c0, 0x11730, 0x118e0, 0x11950,
    0x11c50, 0x11d50, 0x11da0, 0x16a60, 0x16ac0, 0x16b50, 0x1d7ce, 0x1d7d8, 0x1d7e2, 0x1d7ec, 0x1d7f6,
    0x1e140, 0x1e2f0, 0x1e950, 0x1fbf0]

/-- The value of a decimal digit of any script. -/
def digitValue (c : Char) : Option ℕ :=
  (digitZeros.find? fun start => start ≤ c.toNat && c.toNat ≤ start + 9).map fun start => c.toNat - start

/-- The ASCII form of a character of a number; `none` where there is no such form. -/
def numericChar (c : Char) : Option Char :=
  if 0 < c.toNat ∧ c.toNat ≤ 127 then some c
  else if isSpace c then some ' '
  else (digitValue c).map fun digit => Char.ofNat (48 + digit)

/-- The text of a number without outer white space and underscores, in ASCII. -/
def numericAsAscii (text : String) : Option (List Char) :=
  ((strip text.toList).filter fun c => c != '_').mapM numericChar

inductive Decimal where
  | finite (negative : Bool) (coefficient : ℕ) (exponent : ℤ)
  | infinity (negative : Bool)
  | nan (negative signaling : Bool)
deriving DecidableEq, Repr

/-- The trapped signals; both are raised as an `ArithmeticError`. -/
inductive DecimalSignal where
  | invalidOperation | overflow
deriving DecidableEq, Repr

namespace Decimal

/-- The precision of the default context. -/
def precision : ℕ := 28

/-- The largest exponent of the default context; the smallest is its negative. -/
def maxExponent : ℤ := 999999

/-- The least exponent of a subnormal number in the default context. -/
def leastExponent : ℤ := -1000026

def numDigits (coefficient : ℕ) : ℕ := (Nat.toDigits 10 coefficient).length

/-- The exponent of the leading digit. -/
def adjusted (coefficient : ℕ) (exponent : ℤ) : ℤ := exponent + numDigits coefficient - 1

def natOfDigits (digits : List Char) : ℕ :=
  digits.foldl (fun value digit => 10 * value + (digit.toNat - 48)) 0

/-- A sign, if there is one. -/
def splitSign : List Char → Bool × List Char
  | '-' :: rest => (true, rest)
  | '+' :: rest => (false, rest)
  | text => (false, text)

/-- An exponent part, or its absence. -/
def readExponent : List Char → Option ℤ
  | [] => some 0
  | marker :: rest =>
    let (negative, digits) := splitSign rest
    if (marker = 'e' ∨ marker = 'E') ∧ digits ≠ [] ∧ digits.all Char.isDigit then
      some (if negative then -(natOfDigits digits : ℤ) else natOfDigits digits)
    else none

/-- The coefficient and the exponent of a finite number. -/
def readFinite (text : List Char) : Option (ℕ × ℤ) :=
  let whole := text.takeWhile Char.isDigit
  let afterWhole := text.dropWhile Char.isDigit
  let (fraction, rest) := match afterWhole with
    | '.' :: more => (more.takeWhile Char.isDigit, more.dropWhile Char.isDigit)
    | _ => ([], afterWhole)
  if whole = [] ∧ fraction = [] then none
  else (readExponent rest).map fun exponent => (natOfDigits (whole ++ fraction), exponent - fraction.length)

/-- The exponents that a number is read with. -/
def readable (coefficient : ℕ) (exponent : ℤ) : Bool :=
  decide (adjusted coefficient exponent ≤ 999999999999999999) && decide (-1999999999999999997 ≤ exponent)

/-- A number after its sign. -/
def readUnsigned (negative : Bool) (text : List Char) : Option Decimal :=
  let lower := text.map Char.toLower
  if lower = "inf".toList ∨ lower = "infinity".toList then some (infinity negative)
  else if "nan".toList.isPrefixOf lower ∧ (text.drop 3).all Char.isDigit then some (nan negative false)
  else if "snan".toList.isPrefixOf lower ∧ (text.drop 4).all Char.isDigit then some (nan negative true)
  else match readFinite text with
    | some (coefficient, exponent) =>
      if readable coefficient exponent then some (finite negative coefficient exponent) else none
    | none => none

/-- `Decimal(text)`. -/
def ofText (text : String) : Except DecimalSignal Decimal :=
  let read := (numericAsAscii text).bind fun ascii => readUnsigned (splitSign ascii).1 (splitSign ascii).2
  match read with
  | some value => .ok value
  | none => .error .invalidOperation

/-- The coefficient without its last digits, rounded half up. -/
def dropHalfUp (coefficient count : ℕ) : ℕ := (2 * coefficient + 10 ^ count) / (2 * 10 ^ count)

/-- The coefficient without its last digits, rounded half to even. -/
def dropHalfEven (coefficient count : ℕ) : ℕ :=
  let quotient := coefficient / 10 ^ count
  let twice := 2 * (coefficient % 10 ^ count)
  if twice < 10 ^ count ∨ (twice = 10 ^ count ∧ quotient % 2 = 0) then quotient else quotient + 1

/-- `quantize(Decimal("0.01"), rounding=ROUND_HALF_UP)`. -/
def quantizePaise : Decimal → Except DecimalSignal Decimal
  | nan negative false => .ok (nan negative false)
  | nan _ true | infinity _ => .error .invalidOperation
  | finite negative coefficient exponent =>
    let shift := exponent + 2
    if coefficient = 0 then .ok (finite negative 0 (-2))
    else if numDigits coefficient + shift > precision then .error .invalidOperation
    else
      let paise :=
        if 0 ≤ shift then coefficient * 10 ^ shift.toNat
        -- Less than a tenth of a paisa: the power of ten is not worth computing.
        else if numDigits coefficient + shift < 0 then 0
        else dropHalfUp coefficient (-shift).toNat
      if numDigits paise > precision then .error .invalidOperation else .ok (finite negative paise (-2))

/-- Round an exact result to the default context. -/
def finalize (negative : Bool) (coefficient : ℕ) (exponent : ℤ) : Except DecimalSignal Decimal :=
  if coefficient = 0 then .ok (finite negative 0 (max leastExponent (min exponent maxExponent)))
  else if adjusted coefficient exponent > maxExponent then .error .overflow
  else
    let excess := max ((numDigits coefficient : ℤ) - precision) (leastExponent - exponent)
    if excess ≤ 0 then .ok (finite negative coefficient exponent)
    else
      let rounded := dropHalfEven coefficient excess.toNat
      -- A carry out of the last place leaves one digit too many.
      let (kept, place) := if numDigits rounded > precision then (rounded / 10, exponent + excess + 1)
        else (rounded, exponent + excess)
      if adjusted kept place > maxExponent then .error .overflow else .ok (finite negative kept place)

/-- A whole number of units, rounded to the precision of the default context. -/
def roundUnits (units : ℕ) : ℕ :=
  let excess := numDigits units - precision
  dropHalfEven units excess * 10 ^ excess

/-- The exact difference of two finite numbers, rounded to the default context. -/
def subFinite (negative : Bool) (coefficient : ℕ) (exponent : ℤ) (negative' : Bool) (coefficient' : ℕ)
    (exponent' : ℤ) : Except DecimalSignal Decimal :=
  let common := min exponent exponent'
  let signed (minus : Bool) (digits : ℕ) (place : ℤ) : ℤ :=
    (if minus then -1 else 1) * digits * 10 ^ (place - common).toNat
  let difference := signed negative coefficient exponent - signed negative' coefficient' exponent'
  -- A zero difference is negative only as minus zero less zero.
  let minus := if difference = 0 then negative && !negative' else decide (difference < 0)
  finalize minus difference.natAbs common

/-- Subtraction in the default context. -/
def sub : Decimal → Decimal → Except DecimalSignal Decimal
  | nan _ true, _ | _, nan _ true => .error .invalidOperation
  | nan negative false, _ | _, nan negative false => .ok (nan negative false)
  | infinity negative, infinity negative' =>
    if negative = negative' then .error .invalidOperation else .ok (infinity negative)
  | infinity negative, finite _ _ _ => .ok (infinity negative)
  | finite _ _ _, infinity negative => .ok (infinity !negative)
  | finite negative coefficient exponent, finite negative' coefficient' exponent' =>
    subFinite negative coefficient exponent negative' coefficient' exponent'

def signText (negative : Bool) : String := if negative then "-" else ""

/-- `str` of a finite number without its sign. -/
def finiteText (coefficient : ℕ) (exponent : ℤ) : String :=
  let digits := Nat.toDigits 10 coefficient
  let leading := adjusted coefficient exponent
  if exponent ≤ 0 ∧ -6 ≤ leading then
    let before := (digits.length + exponent).toNat
    if exponent = 0 then String.ofList digits
    else if 0 < before then
      String.ofList (digits.take before ++ '.' :: digits.drop before)
    else "0." ++ String.ofList (List.replicate (-(digits.length + exponent)).toNat '0' ++ digits)
  else
    let mantissa := match digits with
      | first :: second :: rest => first :: '.' :: second :: rest
      | single => single
    String.ofList mantissa ++ "E" ++ (if 0 ≤ leading then "+" else "-") ++ toString leading.natAbs

/-- `str`. -/
def text : Decimal → String
  | finite negative coefficient exponent => signText negative ++ finiteText coefficient exponent
  | infinity negative => signText negative ++ "Infinity"
  | nan negative signaling => signText negative ++ (if signaling then "sNaN" else "NaN")

end Decimal

end ReconcileFlow
