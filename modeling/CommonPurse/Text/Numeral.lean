import CommonPurse.Text.Blank
import CommonPurse.Text.Digit

/-!
# Numerals

How a typed integer is read: blanks around it, a sign, the digits of any script, and single
underscores between digits.

## Main definitions

* `CommonPurse.Text.digits?` — digits with single underscores between them.
* `CommonPurse.Text.readInteger?` — a decimal integer of at most 4300 digits.
* `CommonPurse.Text.readHex?` — a hexadecimal integer, with or without `0x`.
-/

namespace CommonPurse.Text

/-- The longest decimal numeral that is read, in digits. -/
def maxNumeralDigits : Nat := 4300

/-- Blanks that may surround a numeral: all but the four separators. -/
def isNumeralBlank (c : Char) : Bool :=
  isBlank c && !(0x1c ≤ c.toNat && c.toNat ≤ 0x1f)

/-- The values of a non-empty run of digits, which single underscores may divide. -/
def digits? (value? : Char → Option Nat) : List Char → Option (List Nat)
  | [] => none
  | c :: rest =>
    match value? c with
    | none => none
    | some d =>
      match rest with
      | [] => some [d]
      | '_' :: more => (digits? value? more).map (d :: ·)
      | next :: more => (digits? value? (next :: more)).map (d :: ·)

/-- Split off a sign: `true` stands for a minus. -/
def splitSign : List Char → Bool × List Char
  | '-' :: rest => (true, rest)
  | '+' :: rest => (false, rest)
  | rest => (false, rest)

/-- Put a sign on a natural number. -/
def signed (negative : Bool) (n : Nat) : Int :=
  if negative then -(n : Int) else n

/-- Read a decimal integer: blanks around it, a sign, digits of any script, single underscores
between digits, and at most `maxNumeralDigits` digits. -/
def readInteger? (s : List Char) : Option Int :=
  let (negative, body) := splitSign (trimBy isNumeralBlank s)
  match digits? digitValue? body with
  | none => none
  | some ds =>
    if ds.length ≤ maxNumeralDigits then some (signed negative (ofDigits 10 ds)) else none

/-- Drop the mark `0x` and one underscore behind it. -/
def dropHexMark : List Char → List Char
  | '0' :: x :: rest =>
    if x = 'x' ∨ x = 'X' then
      match rest with
      | '_' :: more => more
      | more => more
    else '0' :: x :: rest
  | s => s

/-- Read a hexadecimal integer: as `readInteger?`, with an optional `0x` behind the sign. -/
def readHex? (s : List Char) : Option Int :=
  let (negative, body) := splitSign (trimBy isNumeralBlank s)
  (digits? hexValue? (dropHexMark body)).map fun ds => signed negative (ofDigits 16 ds)

end CommonPurse.Text
