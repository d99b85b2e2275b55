import Mathlib

/-! # JSON texts and files of JSON lines

A writer of JSON that escapes everything outside printable ASCII, and a reader of any JSON text. The reader
takes back what the writer wrote, in any layout of blanks (`loads_dumps`). In the compact layout a text has
no line break of any kind, so a file with one text on each line is read back line by line
(`write_printable`, `splitLines_fileOf`).

Numbers are read as they are spelled; nothing is said about writing them.
-/

namespace JsonLines

/-- A JSON value; a number is the text that spells it. -/
inductive Json where
  | null
  | bool (value : Bool)
  | num (spelled : List Char)
  | str (text : List Char)
  | arr (items : List Json)
  | obj (fields : List (List Char × Json))

/-- The value of a hexadecimal digit. -/
def hexDigit? (c : Char) : Option ℕ :=
  if '0' ≤ c ∧ c ≤ '9' then some (c.toNat - 48)
  else if 'a' ≤ c ∧ c ≤ 'f' then some (c.toNat - 87)
  else if 'A' ≤ c ∧ c ≤ 'F' then some (c.toNat - 55)
  else none

theorem hexDigit?_digitChar : ∀ digit < 16, hexDigit? (Nat.digitChar digit) = some digit := by decide

/-- The code unit of four hexadecimal digits. -/
def hexUnit? (a b c d : Char) : Option ℕ := do
  let a ← hexDigit? a
  let b ← hexDigit? b
  let c ← hexDigit? c
  let d ← hexDigit? d
  pure (4096 * a + 256 * b + 16 * c + d)

/-- The escape of a code unit. -/
def unitText (unit : ℕ) : List Char :=
  ['\\', 'u', Nat.digitChar (unit / 4096), Nat.digitChar (unit / 256 % 16), Nat.digitChar (unit / 16 % 16),
    Nat.digitChar (unit % 16)]

theorem hexUnit?_unitText {unit : ℕ} (small : unit < 65536) :
    hexUnit? (Nat.digitChar (unit / 4096)) (Nat.digitChar (unit / 256 % 16)) (Nat.digitChar (unit / 16 % 16))
      (Nat.digitChar (unit % 16)) = some unit := by
  unfold hexUnit?
  rw [hexDigit?_digitChar _ (by omega), hexDigit?_digitChar _ (by omega), hexDigit?_digitChar _ (by omega),
    hexDigit?_digitChar _ (by omega)]
  have value : 4096 * (unit / 4096) + 256 * (unit / 256 % 16) + 16 * (unit / 16 % 16) + unit % 16 = unit := by omega
  exact congrArg some value

/-- The characters with an escape of their own, each with the letter of its escape. -/
def shortEscapes : List (Char × Char) :=
  [('"', '"'), ('\\', '\\'), ('\x08', 'b'), ('\x0c', 'f'), ('\n', 'n'), ('\r', 'r'), ('\t', 't')]

/-- What a letter behind a backslash stands for; a slash may be escaped too. -/
def shortEscape? (letter : Char) : Option Char :=
  (('/', '/') :: shortEscapes.map Prod.swap).lookup letter

theorem shortEscape?_of_mem : ∀ pair ∈ shortEscapes, pair.2 ≠ 'u' ∧ shortEscape? pair.2 = some pair.1 := by decide

/-- A character that is written as it is, unless it has a short escape. -/
def Printable (c : Char) : Prop := 0x20 ≤ c.toNat ∧ c.toNat ≤ 0x7e

instance : DecidablePred Printable := fun c => inferInstanceAs (Decidable (0x20 ≤ c.toNat ∧ c.toNat ≤ 0x7e))

/-- A character as it stands in a written string. -/
def escapeChar (c : Char) : List Char :=
  match shortEscapes.lookup c with
  | some letter => ['\\', letter]
  | none =>
    if Printable c then [c]
    else if c.toNat < 0x10000 then unitText c.toNat
    else
      -- A surrogate pair.
      unitText (0xd800 + (c.toNat - 0x10000) / 1024) ++ unitText (0xdc00 + (c.toNat - 0x10000) % 1024)

/-- A string in quotes. -/
def quote (text : List Char) : List Char := '"' :: text.flatMap escapeChar ++ ['"']

/-- The rest of a string behind its opening quote, and what follows it. A surrogate without its partner has
no character here and is refused. -/
def scanString : List Char → Option (List Char × List Char)
  | [] => none
  | c :: rest =>
    if c = '"' then some ([], rest)
    else if c = '\\' then
      match rest with
      | [] => none
      | e :: rest =>
        if e = 'u' then
          match rest with
          | a :: b :: c :: d :: rest =>
            match hexUnit? a b c d with
            | none => none
            | some unit =>
              if 0xd800 ≤ unit ∧ unit ≤ 0xdbff then
                match rest with
                | s :: u :: a :: b :: c :: d :: rest =>
                  match hexUnit? a b c d with
                  | none => none
                  | some low =>
                    if s = '\\' ∧ u = 'u' ∧ 0xdc00 ≤ low ∧ low ≤ 0xdfff then
                      (scanString rest).map fun scanned =>
                        (Char.ofNat (0x10000 + (unit - 0xd800) * 1024 + (low - 0xdc00)) :: scanned.1, scanned.2)
                    else none
                | _ => none
              else if 0xdc00 ≤ unit ∧ unit ≤ 0xdfff then none
              else (scanString rest).map fun scanned => (Char.ofNat unit :: scanned.1, scanned.2)
          | _ => none
        else
          match shortEscape? e with
          | none => none
          | some meant => (scanString rest).map fun scanned => (meant :: scanned.1, scanned.2)
    else if c.toNat < 0x20 then none
    else (scanString rest).map fun scanned => (c :: scanned.1, scanned.2)

theorem scanString_unitText {unit : ℕ} (small : unit < 65536) (notSurrogate : unit < 0xd800 ∨ 0xdfff < unit)
    (rest : List Char) : scanString (unitText unit ++ rest) =
      (scanString rest).map fun scanned => (Char.ofNat unit :: scanned.1, scanned.2) := by
  unfold unitText
  simp only [List.cons_append, List.nil_append]
  rw [scanString.eq_def]
  dsimp only
  rw [if_neg (by decide), if_pos rfl, if_pos rfl, hexUnit?_unitText small]
  dsimp only
  rw [if_neg (by omega), if_neg (by omega)]

theorem scanString_surrogates {high low : ℕ} (isHigh : 0xd800 ≤ high ∧ high ≤ 0xdbff)
    (isLow : 0xdc00 ≤ low ∧ low ≤ 0xdfff) (rest : List Char) :
    scanString (unitText high ++ unitText low ++ rest) = (scanString rest).map fun scanned =>
      (Char.ofNat (0x10000 + (high - 0xd800) * 1024 + (low - 0xdc00)) :: scanned.1, scanned.2) := by
  unfold unitText
  simp only [List.cons_append, List.nil_append]
  rw [scanString.eq_def]
  dsimp only
  rw [if_neg (by decide), if_pos rfl, if_pos rfl, hexUnit?_unitText (by omega)]
  dsimp only
  rw [if_pos isHigh, hexUnit?_unitText (by omega)]
  dsimp only
  rw [if_pos ⟨rfl, rfl, isLow⟩]

theorem toNat_not_surrogate (c : Char) : c.toNat < 0xd800 ∨ 0xdfff < c.toNat ∧ c.toNat < 0x110000 := c.valid

/-- A written character is read back. -/
theorem scanString_escapeChar (c : Char) (rest : List Char) :
    scanString (escapeChar c ++ rest) = (scanString rest).map fun scanned => (c :: scanned.1, scanned.2) := by
  have valid := toNat_not_surrogate c
  unfold escapeChar
  split
  · next letter found =>
    obtain ⟨before, after, table, -⟩ := List.lookup_eq_some_iff.mp found
    have listed : (c, letter) ∈ shortEscapes := table ▸ List.mem_append_right _ List.mem_cons_self
    obtain ⟨notUnit, meant⟩ := shortEscape?_of_mem _ listed
    rw [List.cons_append, List.cons_append, List.nil_append, scanString.eq_def]
    dsimp only
    rw [if_neg (by decide), if_pos rfl, if_neg notUnit, meant]
  · next missing =>
    have plain := List.lookup_eq_none_iff.mp missing
    split
    · next printable =>
      have notQuote : c ≠ '"' := fun same => by simpa [same] using plain ('"', '"') (by decide)
      have notBackslash : c ≠ '\\' := fun same => by simpa [same] using plain ('\\', '\\') (by decide)
      rw [List.singleton_append, scanString.eq_def]
      dsimp only
      rw [if_neg notQuote, if_neg notBackslash, if_neg (not_lt.mpr printable.1)]
    · split
      · next small =>
        rw [scanString_unitText small (by omega), Char.ofNat_toNat]
      · next big =>
        rw [scanString_surrogates (by omega) (by omega)]
        have value : 0x10000 + (0xd800 + (c.toNat - 0x10000) / 1024 - 0xd800) * 1024 +
            (0xdc00 + (c.toNat - 0x10000) % 1024 - 0xdc00) = c.toNat := by omega
        rw [value, Char.ofNat_toNat]

/-- A written string is read back. -/
theorem scanString_quoted (text rest : List Char) :
    scanString (text.flatMap escapeChar ++ '"' :: rest) = some (text, rest) := by
  induction text with
  | nil =>
    rw [List.flatMap_nil, List.nil_append, scanString.eq_def]
    exact if_pos rfl
  | cons c text ih =>
    rw [List.flatMap_cons, List.append_assoc, scanString_escapeChar, ih]
    rfl

/-! ## Reading values -/

def isBlank (c : Char) : Bool := c == ' ' || c == '\t' || c == '\n' || c == '\r'

def skipBlanks (text : List Char) : List Char := text.dropWhile isBlank

/-- The digits at the front, at least one. -/
def scanDigits (text : List Char) : Option (List Char × List Char) :=
  match text.span Char.isDigit with
  | ([], _) => none
  | (digits, rest) => some (digits, rest)

/-- The longest prefix that is an optional part of a number. -/
def scanFraction : List Char → List Char × List Char
  | '.' :: rest => ((scanDigits rest).map fun scanned => ('.' :: scanned.1, scanned.2)).getD ([], '.' :: rest)
  | text => ([], text)

def scanExponent (text : List Char) : List Char × List Char :=
  match text with
  | e :: sign :: rest =>
    if e = 'e' ∨ e = 'E' then
      let signed := if sign = '+' ∨ sign = '-' then ([e, sign], rest) else ([e], sign :: rest)
      ((scanDigits signed.2).map fun scanned => (signed.1 ++ scanned.1, scanned.2)).getD ([], text)
    else ([], text)
  | _ => ([], text)

/-- A number: no leading zeros, and the fraction and the exponent only where they are whole. -/
def scanNumber (text : List Char) : Option (Json × List Char) := do
  let (sign, unsigned) := match text with
    | '-' :: rest => (['-'], rest)
    | _ => ([], text)
  let (whole, rest) ← match unsigned with
    | '0' :: rest => some (['0'], rest)
    | _ => scanDigits unsigned
  let (fraction, rest) := scanFraction rest
  let (exponent, rest) := scanExponent rest
  pure (.num (sign ++ whole ++ fraction ++ exponent), rest)

/-- The words that are values; Python reads three more than the standard has. -/
def scanWord : List Char → Option (Json × List Char)
  | 'n' :: 'u' :: 'l' :: 'l' :: rest => some (.null, rest)
  | 't' :: 'r' :: 'u' :: 'e' :: rest => some (.bool true, rest)
  | 'f' :: 'a' :: 'l' :: 's' :: 'e' :: rest => some (.bool false, rest)
  | 'N' :: 'a' :: 'N' :: rest => some (.num ['N', 'a', 'N'], rest)
  | 'I' :: 'n' :: 'f' :: 'i' :: 'n' :: 'i' :: 't' :: 'y' :: rest =>
    some (.num ['I', 'n', 'f', 'i', 'n', 'i', 't', 'y'], rest)
  | '-' :: 'I' :: 'n' :: 'f' :: 'i' :: 'n' :: 'i' :: 't' :: 'y' :: rest =>
    some (.num ['-', 'I', 'n', 'f', 'i', 'n', 'i', 't', 'y'], rest)
  | _ => none

mutual

/-- One value at the front of a text. Each nested value and each further item takes one unit of fuel. -/
def scanValue : ℕ → List Char → Option (Json × List Char)
  | 0, _ => none
  | fuel + 1, text =>
    match text with
    | [] => none
    | c :: rest =>
      if c = '"' then (scanString rest).map fun scanned => (.str scanned.1, scanned.2)
      else if c = '{' then
        if (skipBlanks rest).head? = some '}' then some (.obj [], (skipBlanks rest).tail)
        else (scanFields fuel (skipBlanks rest)).map fun scanned => (.obj scanned.1, scanned.2)
      else if c = '[' then
        if (skipBlanks rest).head? = some ']' then some (.arr [], (skipBlanks rest).tail)
        else (scanItems fuel (skipBlanks rest)).map fun scanned => (.arr scanned.1, scanned.2)
      else scanWord text <|> scanNumber text

/-- The fields of an object, the first of which starts here. -/
def scanFields : ℕ → List Char → Option (List (List Char × Json) × List Char)
  | 0, _ => none
  | fuel + 1, text =>
    match text with
    | [] => none
    | c :: rest =>
      if c = '"' then do
        let (key, rest) ← scanString rest
        let rest ← (skipBlanks rest).dropPrefix? [':']
        let (value, rest) ← scanValue fuel (skipBlanks rest)
        match skipBlanks rest with
        | [] => none
        | c :: rest =>
          if c = '}' then some ([(key, value)], rest)
          else if c = ',' then
            (scanFields fuel (skipBlanks rest)).map fun scanned => ((key, value) :: scanned.1, scanned.2)
          else none
      else none

/-- The items of an array, the first of which starts here. -/
def scanItems : ℕ → List Char → Option (List Json × List Char)
  | 0, _ => none
  | fuel + 1, text => do
    let (value, rest) ← scanValue fuel text
    match skipBlanks rest with
    | [] => none
    | c :: rest =>
      if c = ']' then some ([value], rest)
      else if c = ',' then (scanItems fuel (skipBlanks rest)).map fun scanned => (value :: scanned.1, scanned.2)
      else none

end

/-- A text that is one value between blanks. -/
def loads (text : List Char) : Option Json := do
  let (value, rest) ← scanValue (text.length + 1) (skipBlanks text)
  if skipBlanks rest = [] then pure value else none

/-! ## Writing values -/

/-- The blanks around the items of an object or array at some depth. -/
structure Layout where
  opening : ℕ → List Char
  between : ℕ → List Char
  closing : ℕ → List Char

namespace Layout

/-- All on one line, a blank behind each comma. -/
def compact : Layout where
  opening _ := []
  between _ := [' ']
  closing _ := []

/-- Every item on a line of its own, indented by its depth. -/
def indented (width : ℕ) : Layout where
  opening depth := '\n' :: List.replicate (width * (depth + 1)) ' '
  between depth := '\n' :: List.replicate (width * (depth + 1)) ' '
  closing depth := '\n' :: List.replicate (width * depth) ' '

/-- The layout puts blanks only. -/
structure Blank (layout : Layout) : Prop where
  opening : ∀ depth, ∀ c ∈ layout.opening depth, isBlank c = true
  between : ∀ depth, ∀ c ∈ layout.between depth, isBlank c = true
  closing : ∀ depth, ∀ c ∈ layout.closing depth, isBlank c = true

end Layout

section Write

variable (layout : Layout)

mutual

/-- The text of a value at some depth. -/
def write (depth : ℕ) : Json → List Char
  | .null => ['n', 'u', 'l', 'l']
  | .bool true => ['t', 'r', 'u', 'e']
  | .bool false => ['f', 'a', 'l', 's', 'e']
  | .num spelled => spelled
  | .str text => quote text
  | .arr [] => ['[', ']']
  | .arr (first :: rest) =>
    '[' :: (layout.opening depth ++ writeItems depth (first :: rest) ++ layout.closing depth ++ [']'])
  | .obj [] => ['{', '}']
  | .obj (first :: rest) =>
    '{' :: (layout.opening depth ++ writeFields depth (first :: rest) ++ layout.closing depth ++ ['}'])

def writeItems (depth : ℕ) : List Json → List Char
  | [] => []
  | [item] => write (depth + 1) item
  | item :: next :: rest =>
    write (depth + 1) item ++ ',' :: (layout.between depth ++ writeItems depth (next :: rest))

def writeFields (depth : ℕ) : List (List Char × Json) → List Char
  | [] => []
  | [field] => writeField depth field
  | field :: next :: rest =>
    writeField depth field ++ ',' :: (layout.between depth ++ writeFields depth (next :: rest))

def writeField (depth : ℕ) : List Char × Json → List Char
  | (key, value) => quote key ++ [':', ' '] ++ write (depth + 1) value

end

end Write

/-- `json.dumps`: the text of a value in a layout. -/
def dumps (layout : Layout) (value : Json) : List Char := write layout 0 value

/-! ## Reading back what was written -/

mutual

/-- No number is part of the value. -/
def Numberless : Json → Prop
  | .num _ => False
  | .arr items => NumberlessItems items
  | .obj fields => NumberlessFields fields
  | _ => True

def NumberlessItems : List Json → Prop
  | [] => True
  | item :: rest => Numberless item ∧ NumberlessItems rest

def NumberlessFields : List (List Char × Json) → Prop
  | [] => True
  | field :: rest => NumberlessField field ∧ NumberlessFields rest

def NumberlessField : List Char × Json → Prop
  | (_, value) => Numberless value

end

theorem skipBlanks_append {blanks : List Char} (blank : ∀ c ∈ blanks, isBlank c = true) (text : List Char) :
    skipBlanks (blanks ++ text) = skipBlanks text := List.dropWhile_append_of_pos blank

theorem skipBlanks_cons {c : Char} (solid : isBlank c = false) (text : List Char) :
    skipBlanks (c :: text) = c :: text := List.dropWhile_cons_of_neg (by simp [solid])

/-- A written value starts with something that is neither a blank nor the end of an array. -/
theorem write_head (layout : Layout) (depth : ℕ) {value : Json} (numberless : Numberless value) :
    ∃ c tail, write layout depth value = c :: tail ∧ isBlank c = false ∧ c ≠ ']' := by
  cases value with
  | null => exact ⟨'n', _, rfl, by decide, by decide⟩
  | bool value => cases value <;> exact ⟨_, _, rfl, by decide, by decide⟩
  | num spelled => exact numberless.elim
  | str text => exact ⟨'"', _, rfl, by decide, by decide⟩
  | arr items => cases items <;> exact ⟨'[', _, rfl, by decide, by decide⟩
  | obj fields => cases fields <;> exact ⟨'{', _, rfl, by decide, by decide⟩

theorem skipBlanks_write (layout : Layout) (depth : ℕ) {value : Json} (numberless : Numberless value)
    (rest : List Char) : skipBlanks (write layout depth value ++ rest) = write layout depth value ++ rest := by
  obtain ⟨c, tail, head, solid, -⟩ := write_head layout depth numberless
  rw [head, List.cons_append, skipBlanks_cons solid]

/-- The items of an array start with the first of them. -/
theorem writeItems_head (layout : Layout) (depth : ℕ) {first : Json} (numberless : Numberless first)
    (items : List Json) : ∃ c tail, writeItems layout depth (first :: items) = c :: tail ∧ isBlank c = false ∧ c ≠ ']' := by
  obtain ⟨c, tail, head, solid⟩ := write_head layout (depth + 1) numberless
  cases items with
  | nil => exact ⟨c, tail, head, solid⟩
  | cons next rest =>
    rw [writeItems, head]
    exact ⟨c, _, rfl, solid⟩

/-- The fields of an object start with the quote of the first key. -/
theorem writeFields_head (layout : Layout) (depth : ℕ) (first : List Char × Json) (fields : List (List Char × Json)) :
    ∃ tail, writeFields layout depth (first :: fields) = '"' :: tail := by
  obtain ⟨key, value⟩ := first
  cases fields <;> exact ⟨_, rfl⟩

/-- Behind the colon of a field stands a blank, and then the value. -/
theorem skipBlanks_field (layout : Layout) (depth : ℕ) {value : Json} (numberless : Numberless value)
    (rest : List Char) : skipBlanks (' ' :: (write layout depth value ++ rest)) = write layout depth value ++ rest :=
  skipBlanks_write layout depth numberless rest

theorem scanItems_last {fuel : ℕ} {text between after : List Char} {item : Json}
    (scans : scanValue fuel text = some (item, between)) (ends : skipBlanks between = ']' :: after) :
    scanItems (fuel + 1) text = some ([item], after) := by
  rw [scanItems, scans]
  simp [ends]

theorem scanItems_more {fuel : ℕ} {text between later after : List Char} {item : Json} {items : List Json}
    (scans : scanValue fuel text = some (item, between)) (continues : skipBlanks between = ',' :: later)
    (others : scanItems fuel (skipBlanks later) = some (items, after)) :
    scanItems (fuel + 1) text = some (item :: items, after) := by
  rw [scanItems, scans]
  simp [continues, others]

theorem scanFields_last {fuel : ℕ} {key text between after : List Char} {value : Json}
    (scans : scanValue fuel (skipBlanks text) = some (value, between)) (ends : skipBlanks between = '}' :: after) :
    scanFields (fuel + 1) (quote key ++ ':' :: text) = some ([(key, value)], after) := by
  have keyed : quote key ++ ':' :: text = '"' :: (key.flatMap escapeChar ++ '"' :: ':' :: text) := by
    simp [quote]
  rw [keyed, scanFields, if_pos rfl, scanString_quoted]
  simp [skipBlanks_cons, isBlank, List.dropPrefix?, scans, ends]

theorem scanFields_more {fuel : ℕ} {key text between later after : List Char} {value : Json}
    {fields : List (List Char × Json)} (scans : scanValue fuel (skipBlanks text) = some (value, between))
    (continues : skipBlanks between = ',' :: later)
    (others : scanFields fuel (skipBlanks later) = some (fields, after)) :
    scanFields (fuel + 1) (quote key ++ ':' :: text) = some ((key, value) :: fields, after) := by
  have keyed : quote key ++ ':' :: text = '"' :: (key.flatMap escapeChar ++ '"' :: ':' :: text) := by
    simp [quote]
  rw [keyed, scanFields, if_pos rfl, scanString_quoted]
  simp [skipBlanks_cons, isBlank, List.dropPrefix?, scans, continues, others]

section RoundTrip

variable {layout : Layout} (blank : layout.Blank)
include blank

mutual

/-- A written value is read back, whatever follows it. -/
theorem scanValue_write (value : Json) (depth fuel : ℕ) (rest : List Char) (numberless : Numberless value)
    (enough : (write layout depth value).length ≤ fuel) :
    scanValue fuel (write layout depth value ++ rest) = some (value, rest) := by
  obtain ⟨c, tail, head, -⟩ := write_head layout depth numberless
  cases fuel with
  | zero =>
    rw [head] at enough
    cases enough
  | succ fuel =>
    match value with
    | .null => rfl
    | .bool true => rfl
    | .bool false => rfl
    | .num spelled => exact numberless.elim
    | .str text =>
      have text_eq : write layout depth (.str text) ++ rest = '"' :: (text.flatMap escapeChar ++ '"' :: rest) := by
        simp [write, quote]
      rw [text_eq, scanValue, if_pos rfl, scanString_quoted]
      rfl
    | .arr [] => rfl
    | .arr (first :: items) =>
      rw [write] at enough ⊢
      simp only [List.length_cons, List.length_append] at enough
      have scans := scanItems_write (first :: items) depth fuel rest numberless (List.cons_ne_nil _ _) (by omega)
      obtain ⟨c, tail, starts, solid, notEnd⟩ := writeItems_head layout depth numberless.1 items
      have text_eq : '[' :: (layout.opening depth ++ writeItems layout depth (first :: items) ++ layout.closing depth ++
          [']']) ++ rest = '[' :: (layout.opening depth ++ (writeItems layout depth (first :: items) ++
            (layout.closing depth ++ ']' :: rest))) := by simp
      have inside : skipBlanks (layout.opening depth ++ (writeItems layout depth (first :: items) ++
          (layout.closing depth ++ ']' :: rest))) = writeItems layout depth (first :: items) ++
            (layout.closing depth ++ ']' :: rest) := by
        rw [skipBlanks_append (blank.opening depth), starts, List.cons_append, skipBlanks_cons solid]
      rw [text_eq, scanValue, if_neg (by decide), if_neg (by decide), if_pos rfl, inside, if_neg ?_, scans]
      · rfl
      · rw [starts]
        exact fun same => notEnd (Option.some.inj same)
    | .obj [] => rfl
    | .obj (first :: fields) =>
      rw [write] at enough ⊢
      simp only [List.length_cons, List.length_append] at enough
      have scans := scanFields_write (first :: fields) depth fuel rest numberless (List.cons_ne_nil _ _) (by omega)
      obtain ⟨tail, starts⟩ := writeFields_head layout depth first fields
      have text_eq : '{' :: (layout.opening depth ++ writeFields layout depth (first :: fields) ++ layout.closing depth ++
          ['}']) ++ rest = '{' :: (layout.opening depth ++ (writeFields layout depth (first :: fields) ++
            (layout.closing depth ++ '}' :: rest))) := by simp
      have inside : skipBlanks (layout.opening depth ++ (writeFields layout depth (first :: fields) ++
          (layout.closing depth ++ '}' :: rest))) = writeFields layout depth (first :: fields) ++
            (layout.closing depth ++ '}' :: rest) := by
        rw [skipBlanks_append (blank.opening depth), starts, List.cons_append, skipBlanks_cons (by decide)]
      rw [text_eq, scanValue, if_neg (by decide), if_pos rfl, inside, if_neg ?_, scans]
      · rfl
      · rw [starts]
        exact fun same => absurd (Option.some.inj same) (by decide)

/-- The items of a written array are read back. -/
theorem scanItems_write (items : List Json) (depth fuel : ℕ) (rest : List Char) (numberless : NumberlessItems items)
    (nonempty : items ≠ []) (enough : (writeItems layout depth items).length < fuel) :
    scanItems fuel (writeItems layout depth items ++ (layout.closing depth ++ ']' :: rest)) = some (items, rest) := by
  obtain ⟨fuel, rfl⟩ := Nat.exists_eq_succ_of_ne_zero (Nat.ne_zero_of_lt enough)
  match items with
  | [] => exact (nonempty rfl).elim
  | [item] =>
    refine scanItems_last (scanValue_write item (depth + 1) fuel _ numberless.1 (Nat.le_of_lt_succ enough)) ?_
    rw [skipBlanks_append (blank.closing depth), skipBlanks_cons (by decide)]
  | item :: next :: later =>
    rw [writeItems] at enough ⊢
    simp only [List.length_cons, List.length_append] at enough
    have others := scanItems_write (next :: later) depth fuel rest numberless.2 (List.cons_ne_nil _ _) (by omega)
    obtain ⟨c, tail, starts, solid, -⟩ := writeItems_head layout depth numberless.2.1 later
    have text_eq : write layout (depth + 1) item ++ ',' :: (layout.between depth ++ writeItems layout depth (next :: later)) ++
        (layout.closing depth ++ ']' :: rest) = write layout (depth + 1) item ++ ',' :: (layout.between depth ++
          (writeItems layout depth (next :: later) ++ (layout.closing depth ++ ']' :: rest))) := by simp
    rw [text_eq]
    refine scanItems_more (scanValue_write item (depth + 1) fuel _ numberless.1 (by omega))
      (skipBlanks_cons (by decide) _) ?_
    rwa [skipBlanks_append (blank.between depth), starts, List.cons_append, skipBlanks_cons solid, ← List.cons_append,
      ← starts]

/-- The fields of a written object are read back. -/
theorem scanFields_write (fields : List (List Char × Json)) (depth fuel : ℕ) (rest : List Char)
    (numberless : NumberlessFields fields) (nonempty : fields ≠ [])
    (enough : (writeFields layout depth fields).length < fuel) :
    scanFields fuel (writeFields layout depth fields ++ (layout.closing depth ++ '}' :: rest)) =
      some (fields, rest) := by
  obtain ⟨fuel, rfl⟩ := Nat.exists_eq_succ_of_ne_zero (Nat.ne_zero_of_lt enough)
  match fields with
  | [] => exact (nonempty rfl).elim
  | [(key, value)] =>
    rw [writeFields, writeField] at enough ⊢
    simp only [List.length_cons, List.length_append] at enough
    have scans := scanValue_write value (depth + 1) fuel (layout.closing depth ++ '}' :: rest) numberless.1 (by omega)
    have text_eq : quote key ++ [':', ' '] ++ write layout (depth + 1) value ++ (layout.closing depth ++ '}' :: rest) =
        quote key ++ ':' :: ' ' :: (write layout (depth + 1) value ++ (layout.closing depth ++ '}' :: rest)) := by simp
    rw [← skipBlanks_field layout (depth + 1) numberless.1] at scans
    rw [text_eq]
    refine scanFields_last scans ?_
    rw [skipBlanks_append (blank.closing depth), skipBlanks_cons (by decide)]
  | (key, value) :: next :: later =>
    rw [writeFields, writeField] at enough ⊢
    simp only [List.length_cons, List.length_append] at enough
    let following := layout.between depth ++ (writeFields layout depth (next :: later) ++
      (layout.closing depth ++ '}' :: rest))
    have scans := scanValue_write value (depth + 1) fuel (',' :: following) numberless.1 (by omega)
    have others := scanFields_write (next :: later) depth fuel rest numberless.2 (List.cons_ne_nil _ _) (by omega)
    obtain ⟨tail, starts⟩ := writeFields_head layout depth next later
    have text_eq : quote key ++ [':', ' '] ++ write layout (depth + 1) value ++ ',' :: (layout.between depth ++
        writeFields layout depth (next :: later)) ++ (layout.closing depth ++ '}' :: rest) =
          quote key ++ ':' :: ' ' :: (write layout (depth + 1) value ++ ',' :: following) := by simp [following]
    rw [← skipBlanks_field layout (depth + 1) numberless.1] at scans
    rw [text_eq]
    refine scanFields_more scans (skipBlanks_cons (by decide) _) ?_
    rwa [skipBlanks_append (blank.between depth), starts, List.cons_append, skipBlanks_cons (by decide),
      ← List.cons_append, ← starts]

end

/-- The reader takes back what the writer wrote. -/
theorem loads_dumps {value : Json} (numberless : Numberless value) : loads (dumps layout value) = some value := by
  have whole := skipBlanks_write layout 0 numberless []
  have scans := scanValue_write blank value 0 ((write layout 0 value).length + 1) [] numberless (Nat.le_succ _)
  rw [List.append_nil] at whole scans
  unfold loads dumps
  rw [whole, scans]
  rfl

end RoundTrip

theorem compact_blank : Layout.compact.Blank where
  opening _ _ member := (List.not_mem_nil member).elim
  between _ c member := by
    rw [List.mem_singleton.mp member]
    rfl
  closing _ _ member := (List.not_mem_nil member).elim

theorem indented_blank (width : ℕ) : (Layout.indented width).Blank := by
  have lines (count : ℕ) : ∀ c ∈ '\n' :: List.replicate count ' ', isBlank c = true := by
    refine List.forall_mem_cons.mpr ⟨rfl, fun c member => ?_⟩
    rw [List.eq_of_mem_replicate member]
    rfl
  exact ⟨fun _ => lines _, fun _ => lines _, fun _ => lines _⟩

/-! ## Files of lines -/

/-- The characters at which `str.splitlines` ends a line. -/
def isBreak (c : Char) : Bool :=
  ['\n', '\r', '\x0b', '\x0c', '\x1c', '\x1d', '\x1e', '\x85', '\u2028', '\u2029'].contains c

/-- `str.splitlines`: the lines without their ends; a carriage return belongs to the line feed behind it. -/
def splitLines : List Char → List (List Char)
  | [] => []
  | c :: rest =>
    if c = '\r' ∧ rest.head? = some '\n' then splitLines rest
    else if isBreak c then [] :: splitLines rest
    else
      match splitLines rest with
      | [] => [[c]]
      | line :: lines => (c :: line) :: lines

/-- A line that is ended by a line feed, and what follows it. -/
theorem splitLines_line {line : List Char} (whole : ∀ c ∈ line, isBreak c = false) (rest : List Char) :
    splitLines (line ++ '\n' :: rest) = line :: splitLines rest := by
  induction line with
  | nil => rfl
  | cons c line ih =>
    obtain ⟨first, later⟩ := List.forall_mem_cons.mp whole
    have notReturn : c ≠ '\r' := by
      rintro rfl
      cases first
    rw [List.cons_append, splitLines, if_neg fun both => notReturn both.1, first, if_neg Bool.false_ne_true, ih later]

/-- The lines of a file. -/
theorem splitLines_lines {lines : List (List Char)} (whole : ∀ line ∈ lines, ∀ c ∈ line, isBreak c = false) :
    splitLines (lines.flatMap (· ++ ['\n'])) = lines := by
  induction lines with
  | nil => rfl
  | cons line lines ih =>
    obtain ⟨first, later⟩ := List.forall_mem_cons.mp whole
    rw [List.flatMap_cons, List.append_assoc, List.singleton_append, splitLines_line first, ih later]

theorem not_break_of_printable {c : Char} (printable : Printable c) : isBreak c = false := by
  by_contra broken
  rw [Bool.not_eq_false] at broken
  have listed := List.contains_iff_mem.mp broken
  simp only [List.mem_cons, List.not_mem_nil, or_false] at listed
  rcases listed with rfl | rfl | rfl | rfl | rfl | rfl | rfl | rfl | rfl | rfl <;> simp [Printable] at printable

theorem digitChar_printable : ∀ digit < 16, Printable (Nat.digitChar digit) := by decide

theorem unitText_printable {unit : ℕ} (small : unit < 65536) : ∀ c ∈ unitText unit, Printable c := by
  unfold unitText
  simp only [List.forall_mem_cons]
  exact ⟨by decide, by decide, digitChar_printable _ (by omega), digitChar_printable _ (by omega),
    digitChar_printable _ (by omega), digitChar_printable _ (by omega), nofun⟩

theorem escapeChar_printable (c : Char) : ∀ d ∈ escapeChar c, Printable d := by
  unfold escapeChar
  split
  · next letter found =>
    obtain ⟨before, after, table, -⟩ := List.lookup_eq_some_iff.mp found
    have listed : (c, letter) ∈ shortEscapes := table ▸ List.mem_append_right _ List.mem_cons_self
    have letters : ∀ pair ∈ shortEscapes, Printable pair.2 := by decide
    exact List.forall_mem_cons.mpr ⟨by decide, List.forall_mem_singleton.mpr (letters _ listed)⟩
  · have valid := toNat_not_surrogate c
    split_ifs with printable small
    · exact List.forall_mem_singleton.mpr printable
    · exact unitText_printable small
    · exact List.forall_mem_append.mpr ⟨unitText_printable (by omega), unitText_printable (by omega)⟩

theorem quote_printable (text : List Char) : ∀ c ∈ quote text, Printable c := by
  refine List.forall_mem_cons.mpr ⟨by decide, List.forall_mem_append.mpr ⟨?_, ?_⟩⟩
  · intro c member
    obtain ⟨d, -, written⟩ := List.mem_flatMap.mp member
    exact escapeChar_printable d c written
  · exact List.forall_mem_singleton.mpr (by decide)

mutual

/-- On one line, a value is written in printable ASCII. -/
theorem write_printable (value : Json) (depth : ℕ) (numberless : Numberless value) :
    ∀ c ∈ write .compact depth value, Printable c := by
  match value with
  | .null =>
    simp [write, Printable]
  | .bool true =>
    simp [write, Printable]
  | .bool false =>
    simp [write, Printable]
  | .num spelled => exact numberless.elim
  | .str text => exact quote_printable text
  | .arr [] =>
    simp [write, Printable]
  | .arr (first :: items) =>
    have inner := writeItems_printable (first :: items) depth numberless
    rw [write]
    simp only [Layout.compact, List.nil_append, List.append_nil]
    exact List.forall_mem_cons.mpr ⟨by decide, List.forall_mem_append.mpr ⟨inner,
      List.forall_mem_singleton.mpr (by decide)⟩⟩
  | .obj [] =>
    simp [write, Printable]
  | .obj (first :: fields) =>
    have inner := writeFields_printable (first :: fields) depth numberless
    rw [write]
    simp only [Layout.compact, List.nil_append, List.append_nil]
    exact List.forall_mem_cons.mpr ⟨by decide, List.forall_mem_append.mpr ⟨inner,
      List.forall_mem_singleton.mpr (by decide)⟩⟩

theorem writeItems_printable (items : List Json) (depth : ℕ) (numberless : NumberlessItems items) :
    ∀ c ∈ writeItems .compact depth items, Printable c := by
  match items with
  | [] => exact nofun
  | [item] => exact write_printable item (depth + 1) numberless.1
  | item :: next :: later =>
    have inner := write_printable item (depth + 1) numberless.1
    have others := writeItems_printable (next :: later) depth numberless.2
    rw [writeItems]
    exact List.forall_mem_append.mpr ⟨inner, List.forall_mem_cons.mpr ⟨by decide,
      List.forall_mem_cons.mpr ⟨by decide, others⟩⟩⟩

theorem writeFields_printable (fields : List (List Char × Json)) (depth : ℕ) (numberless : NumberlessFields fields) :
    ∀ c ∈ writeFields .compact depth fields, Printable c := by
  match fields with
  | [] => exact nofun
  | [field] => exact writeField_printable field depth numberless.1
  | field :: next :: later =>
    have inner := writeField_printable field depth numberless.1
    have others := writeFields_printable (next :: later) depth numberless.2
    rw [writeFields]
    exact List.forall_mem_append.mpr ⟨inner, List.forall_mem_cons.mpr ⟨by decide,
      List.forall_mem_cons.mpr ⟨by decide, others⟩⟩⟩

theorem writeField_printable (field : List Char × Json) (depth : ℕ) (numberless : NumberlessField field) :
    ∀ c ∈ writeField .compact depth field, Printable c := by
  match field with
  | (key, value) =>
    have inner := write_printable value (depth + 1) numberless
    rw [writeField]
    exact List.forall_mem_append.mpr ⟨List.forall_mem_append.mpr ⟨quote_printable key, by simp [Printable]⟩, inner⟩

end

/-- A file with one value on each line. -/
def fileOf (values : List Json) : List Char := values.flatMap fun value => dumps .compact value ++ ['\n']

/-- The lines of such a file are the texts of its values, whatever characters these contain. -/
theorem splitLines_fileOf {values : List Json} (numberless : ∀ value ∈ values, Numberless value) :
    splitLines (fileOf values) = values.map (dumps .compact) := by
  have lines : fileOf values = (values.map (dumps .compact)).flatMap (· ++ ['\n']) := by
    rw [List.flatMap_map]
    rfl
  rw [lines, splitLines_lines]
  refine List.forall_mem_map.mpr fun value member c written => ?_
  exact not_break_of_printable (write_printable value 0 (numberless value member) c written)

end JsonLines
