import CommonPurse.Number.Decimal

/-!
# Decimal arithmetic

Sums, differences, quotients and comparisons of decimal numbers. Every result is rounded to 28
digits, ties to even, and has its first digit between `10 ^ -999999` and `10 ^ 999999`.

## Main definitions

* `CommonPurse.Decimal.Fault` — what can go wrong in an operation.
* `CommonPurse.Decimal.fit` — a result within the precision and the range.
* `CommonPurse.Decimal.add`, `sub`, `divNat`, `abs` — the operations.
* `CommonPurse.Decimal.compare?` — the order, which a value that is no number does not have.
* `CommonPurse.Decimal.toCents` — the number in hundredths.
* `CommonPurse.Decimal.fixedText` — the text with a fixed number of places.
-/

namespace CommonPurse.Decimal

open CommonPurse.Text

/-- The ways an operation can fail: it has no result, or one that is too large. -/
inductive Fault where
  | invalid
  | overflow
  deriving DecidableEq, Repr

/-- The name under which a fault is reported. -/
def Fault.name : Fault → String
  | .invalid => "InvalidOperation"
  | .overflow => "Overflow"

/-- What is said about a fault. -/
def Fault.message (f : Fault) : String := "[<class 'decimal." ++ f.name ++ "'>]"

/-- The number of digits that results keep. -/
def precision : Nat := 28

/-- The greatest exponent of a first digit. -/
def maxAdjusted : Int := 999999

/-- The least exponent of a first digit of a number with full precision. -/
def minAdjusted : Int := -999999

/-- The least exponent of a last digit. -/
def minExponent : Int := minAdjusted - (precision - 1)

/-- A coefficient without its last `n` digits, rounded to nearest and ties to even. -/
def dropDigits (c n : Nat) : Nat :=
  let q := c / tenTo n
  let r := c % tenTo n
  if 2 * r < tenTo n then q
  else if tenTo n < 2 * r then q + 1
  else if q % 2 = 0 then q else q + 1

/-- Shorten a coefficient to `n` fewer digits. A coefficient that becomes a power of ten with one
digit more than the precision loses the last zero. -/
def shorten (c : Nat) (e : Int) (n : Nat) : Nat × Int :=
  let q := dropDigits c n
  if precision < digitCount q then (q / 10, e + n + 1) else (q, e + n)

/-- A finite result within the precision and the range. -/
def fit (negative : Bool) (c : Nat) (e : Int) : Except Fault Decimal :=
  if c = 0 then .ok (.finite negative 0 (max minExponent (min e maxAdjusted)))
  else if maxAdjusted < adjusted c e then .error .overflow
  else
    let surplus := digitCount c - precision
    let below := (minExponent - e).toNat
    let n := max surplus below
    if n = 0 then .ok (.finite negative c e)
    else if digitCount c < n then .ok (.finite negative 0 minExponent)
    else
      let (c, e) := shorten c e n
      if maxAdjusted < adjusted c e then .error .overflow else .ok (.finite negative c e)

/-- A value that is no number as the result of an operation: a signalling one fails. -/
def quiet (n s : Bool) (p : Option Nat) : Except Fault Decimal :=
  if s then .error .invalid else .ok (.nan n false p)

/-- Two numbers that are no numbers, or one: the result of an operation on them, if there is one
among the operands. A signalling value comes first. -/
def quietOf : Decimal → Decimal → Option (Except Fault Decimal)
  | .nan _ true _, _ | _, .nan _ true _ => some (.error .invalid)
  | .nan n false p, _ => some (.ok (.nan n false p))
  | _, .nan n false p => some (.ok (.nan n false p))
  | _, _ => none

/-- A small number far below the last digit that counts beside a number with coefficient `c` and
exponent `e` is replaced by a single unit there. -/
def nearBy (c : Nat) (e : Int) (small : Nat) (f : Int) : Nat × Int :=
  let surplus : Int := if precision < digitCount c then 0 else digitCount c - precision - 1
  let floor : Int := e - 1 + surplus
  if c ≠ 0 ∧ adjusted small f < floor then (if small = 0 then 0 else 1, floor) else (small, f)

/-- The sum of two finite numbers, of which the first has the greater exponent. -/
def addAligned (n : Bool) (c : Nat) (e : Int) (k : Bool) (d : Nat) (f : Int) :
    Except Fault Decimal :=
  let (d, f) := nearBy c e d f
  let c := if c = 0 then 0 else c * tenTo (e - f).toNat
  if n = k then fit n (c + d) f
  else if c = d then fit false 0 f
  else if d < c then fit n (c - d) f
  else fit k (d - c) f

/-- The sum. -/
def add (a b : Decimal) : Except Fault Decimal :=
  match quietOf a b with
  | some r => r
  | none =>
    match a, b with
    | .infinite n, .infinite k => if n = k then .ok (.infinite n) else .error .invalid
    | .infinite n, _ => .ok (.infinite n)
    | _, .infinite k => .ok (.infinite k)
    | .finite n c e, .finite k d f =>
      if f ≤ e then addAligned n c e k d f else addAligned k d f n c e
    | a, _ => .ok a

/-- The number with the opposite sign. -/
def opposite : Decimal → Decimal
  | .finite n c e => .finite (!n) c e
  | .infinite n => .infinite (!n)
  | .nan n s p => .nan n s p

/-- The difference. -/
def sub (a b : Decimal) : Except Fault Decimal :=
  match quietOf a b with
  | some r => r
  | none => add a (opposite b)

/-- The sum of a list, from the left. -/
def sum (ds : List Decimal) : Except Fault Decimal :=
  ds.foldlM add zero

/-- Drop zeros at the right end of a coefficient until the exponent is the wanted one. -/
def dropZerosTo (wanted : Int) : Nat → Nat → Int → Nat × Int
  | 0, c, e => (c, e)
  | fuel + 1, c, e =>
    if e < wanted ∧ c % 10 = 0 then dropZerosTo wanted fuel (c / 10) (e + 1) else (c, e)

/-- The quotient of a finite number and a positive natural number. An exact quotient has the
exponent of the dividend, or the nearest one below that it can have. -/
def divFinite (n : Bool) (c : Nat) (e : Int) (d : Nat) : Except Fault Decimal :=
  if c = 0 then fit n 0 e
  else
    let shift : Int := (digitCount d : Int) - digitCount c + precision + 1
    let num := if 0 ≤ shift then c * tenTo shift.toNat else c
    let den := if 0 ≤ shift then d else d * tenTo (-shift).toNat
    let q := num / den
    if num % den = 0 then
      let (q, x) := dropZerosTo e (digitCount q) q (e - shift)
      fit n q x
    else fit n (if q % 5 = 0 then q + 1 else q) (e - shift)

/-- The quotient by a natural number. -/
def divNat (a : Decimal) (d : Nat) : Except Fault Decimal :=
  match a with
  | .nan n s p => quiet n s p
  | .infinite n => .ok (.infinite n)
  | .finite n c e => if d = 0 then .error .invalid else divFinite n c e d

/-- The number without its sign. -/
def abs (a : Decimal) : Except Fault Decimal :=
  match a with
  | .nan n s p => quiet n s p
  | .infinite _ => .ok (.infinite false)
  | .finite _ c e => fit false c e

/-- The order of two coefficients at their exponents. -/
def compareMagnitude (c : Nat) (e : Int) (d : Nat) (f : Int) : Ordering :=
  if c = 0 ∨ d = 0 then compare c d
  else
    let p := adjusted c e
    let q := adjusted d f
    if p < q then .lt
    else if q < p then .gt
    else if f ≤ e then compare (c * tenTo (e - f).toNat) d
    else compare c (d * tenTo (f - e).toNat)

/-- The order of two finite numbers. -/
def compareFinite (n : Bool) (c : Nat) (e : Int) (k : Bool) (d : Nat) (f : Int) : Ordering :=
  if c = 0 ∧ d = 0 then .eq
  else if c = 0 then if k then .gt else .lt
  else if d = 0 then if n then .lt else .gt
  else
    match n, k with
    | false, true => .gt
    | true, false => .lt
    | false, false => compareMagnitude c e d f
    | true, true => compareMagnitude d f c e

/-- The order of two numbers; it fails when one is no number. -/
def compare? (a b : Decimal) : Except Fault Ordering :=
  match a, b with
  | .nan .., _ | _, .nan .. => .error .invalid
  | .infinite n, .infinite k =>
    .ok (if n = k then .eq else if n then .lt else .gt)
  | .infinite n, _ => .ok (if n then .lt else .gt)
  | _, .infinite k => .ok (if k then .gt else .lt)
  | .finite n c e, .finite k d f => .ok (compareFinite n c e k d f)

/-- Whether the first number is less. -/
def less? (a b : Decimal) : Except Fault Bool :=
  (compare? a b).map (· == .lt)

/-- Whether a finite number is greater than zero. -/
def isPositive : Decimal → Bool
  | .finite n c _ => !n && c != 0
  | .infinite n => !n
  | .nan .. => false

/-- The number in hundredths, rounded to nearest and ties to even; it fails when that takes more
digits than the precision. -/
def toCents (a : Decimal) : Except Fault Decimal :=
  match a with
  | .nan n s p => quiet n s p
  | .infinite _ => .error .invalid
  | .finite n c e =>
    if c = 0 then .ok (.finite n 0 (-2))
    else if precision < adjusted c e + 3 then .error .invalid
    else if -2 ≤ e then .ok (.finite n (c * tenTo (e + 2).toNat) (-2))
    else
      let drop := (-2 - e).toNat
      if digitCount c < drop then .ok (.finite n 0 (-2))
      else
        let q := dropDigits c drop
        if precision < digitCount q then .error .invalid else .ok (.finite n q (-2))

/-- The text with a fixed number of places, rounded to nearest and ties to even. -/
def fixedText (places : Nat) : Decimal → String
  | .finite n c e =>
    let x : Int := e + places
    let units :=
      if 0 ≤ x then c * tenTo x.toNat
      else if digitCount c < (-x).toNat then 0
      else dropDigits c (-x).toNat
    let whole := units / tenTo places
    let part := units % tenTo places
    String.ofList (signed n
      (if places = 0 then natText whole else natText whole ++ '.' :: padded places part))
  | .infinite n => (Decimal.infinite n).text
  | .nan n s p => (Decimal.nan n s p).text

end CommonPurse.Decimal
