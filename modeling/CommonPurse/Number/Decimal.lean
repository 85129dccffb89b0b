import CommonPurse.Number.Power
import CommonPurse.Text.Blank
import CommonPurse.Text.Digit

/-!
# Decimal numbers

Decimal numbers as sign, coefficient and exponent, so that `1`, `1.0` and `1.00` are three
values of one size, together with their text.

## Main definitions

* `CommonPurse.Decimal` — a finite decimal, an infinity, or a value that is no number.
* `CommonPurse.Decimal.parse?` — reading a decimal text.
* `CommonPurse.Decimal.text` — writing it: positional down to `10 ^ -6`, otherwise scientific.
-/

namespace CommonPurse

/-- A decimal number. A value that is no number may carry a payload of digits and may be
signalling, which means that no operation accepts it quietly. -/
inductive Decimal where
  | finite (negative : Bool) (coefficient : Nat) (exponent : Int)
  | infinite (negative : Bool)
  | nan (negative signalling : Bool) (payload : Option Nat)
  deriving DecidableEq, Repr, Inhabited

namespace Decimal

open CommonPurse.Text

/-- The decimal of a natural number. -/
def ofNat (n : Nat) : Decimal := .finite false n 0

/-- Zero without places. -/
def zero : Decimal := ofNat 0

/-- The number of digits of a coefficient; zero has one. -/
def digitCount (n : Nat) : Nat := (Nat.toDigits 10 n).length

/-- The exponent of the first digit. -/
def adjusted (coefficient : Nat) (exponent : Int) : Int :=
  exponent + digitCount coefficient - 1

/-- Whether the number is finite. -/
def isFinite : Decimal → Bool
  | finite .. => true
  | _ => false

/-! ## Reading -/

/-- The greatest exponent that a first digit may have in a text. -/
def textMaxExponent : Int := 999999999999999999

/-- The least exponent that a last digit may have in a text. -/
def textMinExponent : Int := -1999999999999999997

/-- One character of a decimal text in plain form: an underscore vanishes, a blank becomes a
space and a digit of any script the plain digit. -/
def plainChar (c : Char) : Option (List Char) :=
  if c = '_' then some []
  else if 0 < c.toNat ∧ c.toNat ≤ 127 then some [c]
  else if isBlank c then some [' ']
  else (digitValue? c).map fun d => [digitChar d]

/-- The text without surrounding blanks, in plain characters. -/
def plain? (s : List Char) : Option (List Char) :=
  ((trim s).mapM plainChar).map List.flatten

/-- Split off the leading plain digits. -/
def spanDigits (s : List Char) : List Char × List Char :=
  (s.takeWhile fun c => (asciiDigit? c).isSome, s.dropWhile fun c => (asciiDigit? c).isSome)

/-- The number that plain digits write. -/
def digitsValue (s : List Char) : Nat :=
  ofDigits 10 (s.filterMap asciiDigit?)

/-- Read what follows the digits of a number: nothing, or an exponent. -/
def exponent? : List Char → Option Int
  | [] => some 0
  | e :: rest =>
    if e = 'e' ∨ e = 'E' then
      let (negative, body) : Bool × List Char :=
        match rest with
        | '-' :: more => (true, more)
        | '+' :: more => (false, more)
        | more => (false, more)
      let (ds, tail) := spanDigits body
      if ds.isEmpty ∨ !tail.isEmpty then none
      else
        let n := digitsValue ds
        some (if negative then -(n : Int) else n)
    else none

/-- The word of a special value in lower case. -/
def lowerWord (s : List Char) : List Char :=
  s.map Char.toLower

/-- Read the payload behind the word of a value that is no number. -/
def payload? (s : List Char) : Option (Option Nat) :=
  let (ds, tail) := spanDigits s
  if !tail.isEmpty then none
  else if ds.isEmpty then some none
  else
    let n := digitsValue ds
    some (if n = 0 then none else some n)

/-- Read one of the words for infinities and for values that are no number. -/
def special? (negative : Bool) (s : List Char) : Option Decimal :=
  let w := lowerWord s
  if w = ['i', 'n', 'f'] ∨ w = ['i', 'n', 'f', 'i', 'n', 'i', 't', 'y'] then
    some (.infinite negative)
  else if w.take 3 = ['n', 'a', 'n'] then
    (payload? (s.drop 3)).map (.nan negative false)
  else if w.take 4 = ['s', 'n', 'a', 'n'] then
    (payload? (s.drop 4)).map (.nan negative true)
  else none

/-- Whether a finite decimal lies within the exponents that a text may have. -/
def withinText (coefficient : Nat) (exponent : Int) : Bool :=
  textMinExponent ≤ exponent &&
    (if coefficient = 0 then exponent ≤ textMaxExponent
    else adjusted coefficient exponent ≤ textMaxExponent)

/-- Read a finite number: digits with at most one point, then an exponent. -/
def finite? (negative : Bool) (s : List Char) : Option Decimal :=
  let (whole, rest) := spanDigits s
  let (part, tail) :=
    match rest with
    | '.' :: more => spanDigits more
    | more => ([], more)
  if whole.isEmpty ∧ part.isEmpty then none
  else
    match exponent? tail with
    | none => none
    | some e =>
      let c := digitsValue (whole ++ part)
      let x := e - part.length
      if withinText c x then some (.finite negative c x) else none

/-- Read a decimal text: surrounding blanks and all underscores are dropped, digits of any script
count, and the words for infinity and for no number are known in any case. -/
def parse? (s : String) : Option Decimal :=
  match plain? s.toList with
  | none => none
  | some t =>
    let (negative, body) : Bool × List Char :=
      match t with
      | '-' :: more => (true, more)
      | '+' :: more => (false, more)
      | more => (false, more)
    match finite? negative body with
    | some d => some d
    | none => special? negative body

/-! ## Writing -/

/-- The digits of a finite number with its point, without the sign. -/
def finiteText (coefficient : Nat) (exponent : Int) : List Char :=
  let digits := natText coefficient
  let first := adjusted coefficient exponent
  if exponent ≤ 0 ∧ -6 ≤ first then
    let places := (-exponent).toNat
    if places = 0 then digits
    else if places < digits.length then
      digits.take (digits.length - places) ++ '.' :: digits.drop (digits.length - places)
    else '0' :: '.' :: List.replicate (places - digits.length) '0' ++ digits
  else
    let mantissa :=
      match digits with
      | [] => []
      | [d] => [d]
      | d :: rest => d :: '.' :: rest
    mantissa ++ 'E' :: (if first < 0 then '-' else '+') :: natText first.natAbs

/-- A sign in front of a text. -/
def signed (negative : Bool) (s : List Char) : List Char :=
  if negative then '-' :: s else s

/-- The text of a decimal number. -/
def text : Decimal → String
  | finite n c e => String.ofList (signed n (finiteText c e))
  | infinite n => String.ofList (signed n "Infinity".toList)
  | nan n s p =>
    String.ofList (signed n ((if s then "sNaN" else "NaN").toList ++
      (match p with
      | none => []
      | some d => natText d)))

end Decimal

end CommonPurse
