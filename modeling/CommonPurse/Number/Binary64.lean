import CommonPurse.Number.Power

/-!
# Binary floating-point numbers

The 64-bit binary numbers as sign, significand and exponent, with exact arithmetic that is
rounded once, to nearest and ties to even.

## Main definitions

* `CommonPurse.Binary64` — a number `± significand · 2 ^ exponent`, an infinity or no number.
* `CommonPurse.Binary64.ofRatio` — the nearest number to a quotient of naturals.
* `CommonPurse.Binary64.add`, `mul`, `pow` — arithmetic, rounded once.
* `CommonPurse.Binary64.le`, `lt` — the order; no number is comparable with `nan`.
-/

namespace CommonPurse

/-- A binary floating-point number. Finite numbers are canonical: the significand is below
`2 ^ 53`, the exponent is at least `-1074`, and a significand below `2 ^ 52` has the least
exponent. -/
inductive Binary64 where
  | finite (negative : Bool) (significand : Nat) (exponent : Int)
  | infinite (negative : Bool)
  | nan
  deriving DecidableEq, Repr, Inhabited

namespace Binary64

/-- The exponent of the smallest positive number. -/
def minExponent : Int := -1074

/-- The greatest exponent of a finite number. -/
def maxExponent : Int := 971

/-- The least significand that is not at the least exponent, `2 ^ 52`. -/
def leastNormal : Nat := 4503599627370496

/-- What significands stay below, `2 ^ 53`. -/
def significandBound : Nat := 9007199254740992

/-- Zero with a sign. -/
def zero (negative : Bool) : Binary64 := .finite negative 0 minExponent

/-- The quotient `num / (den · 2 ^ e)` as numerator and denominator. -/
def scaled (num den : Nat) (e : Int) : Nat × Nat :=
  if 0 ≤ e then (num, den * twoTo e.toNat) else (num * twoTo (-e).toNat, den)

/-- The quotient of two naturals rounded to nearest, a tie going to the even neighbour. -/
def divNearestEven (num den : Nat) : Nat :=
  let q := num / den
  let r := num % den
  if 2 * r < den then q
  else if den < 2 * r then q + 1
  else if q % 2 = 0 then q else q + 1

/-- The exponent at which a quotient has a significand of 53 bits, or the least exponent. -/
def exponentOf (num den : Nat) : Int :=
  let e : Int := (num.log2 : Int) - (den.log2 : Int) - 53
  let (a, b) := scaled num den e
  max (if significandBound ≤ a / b then e + 1 else e) minExponent

/-- The number nearest to `± num / den`, a tie going to the even significand; beyond the largest
finite number it is an infinity. -/
def ofRatio (negative : Bool) (num den : Nat) : Binary64 :=
  if num = 0 ∨ den = 0 then zero negative
  else
    let e := exponentOf num den
    let (a, b) := scaled num den e
    let s := divNearestEven a b
    let (s, e) := if s = significandBound then (leastNormal, e + 1) else (s, e)
    if maxExponent < e then .infinite negative else .finite negative s e

/-- The number nearest to an integer. -/
def ofInt (n : Int) : Binary64 :=
  ofRatio (n < 0) n.natAbs 1

/-- The number nearest to `± digits · 10 ^ exponent`. Exponents far outside the range of the
format are decided without computing the power. -/
def ofDecimal (negative : Bool) (digits : Nat) (exponent : Int) : Binary64 :=
  if digits = 0 then zero negative
  else
    let magnitude : Int := exponent + (digits.log2 : Int) / 4
    if 400 < magnitude then .infinite negative
    else if magnitude + (digits.log2 : Int) / 4 < -800 then zero negative
    else if 0 ≤ exponent then ofRatio negative (digits * tenTo exponent.toNat) 1
    else ofRatio negative digits (tenTo (-exponent).toNat)

/-- Whether the sign is a minus. -/
def isNegative : Binary64 → Bool
  | finite n _ _ => n
  | infinite n => n
  | nan => false

/-- Whether the number is a zero of either sign. -/
def isZero : Binary64 → Bool
  | finite _ s _ => s == 0
  | _ => false

/-- Whether the number is finite. -/
def isFinite : Binary64 → Bool
  | finite .. => true
  | _ => false

/-- The value of a finite number as a signed numerator and a positive denominator. -/
def toRatio : Binary64 → Int × Nat
  | finite n s e =>
    let m : Int := if n then -(s : Int) else s
    if 0 ≤ e then (m * twoTo e.toNat, 1) else (m, twoTo (-e).toNat)
  | _ => (0, 1)

/-- The number nearest to a signed quotient. -/
def ofSigned (num : Int) (den : Nat) : Binary64 :=
  ofRatio (num < 0) num.natAbs den

/-- The negated number. -/
def neg : Binary64 → Binary64
  | finite n s e => .finite (!n) s e
  | infinite n => .infinite (!n)
  | nan => .nan

/-- The sum, rounded once. -/
def add (a b : Binary64) : Binary64 :=
  match a, b with
  | nan, _ | _, nan => .nan
  | infinite n, infinite k => if n = k then .infinite n else .nan
  | infinite n, _ => .infinite n
  | _, infinite n => .infinite n
  | finite n s e, finite k t f =>
    if s = 0 ∧ t = 0 then zero (n && k)
    else
      let (p, q) := (finite n s e).toRatio
      let (r, u) := (finite k t f).toRatio
      ofSigned (p * u + r * q) (q * u)

/-- The product, rounded once. -/
def mul (a b : Binary64) : Binary64 :=
  match a, b with
  | nan, _ | _, nan => .nan
  | infinite n, x | x, infinite n => if x.isZero then .nan else .infinite (n != x.isNegative)
  | finite n s e, finite k t f =>
    let m := s * t
    let g := e + f
    if 0 ≤ g then ofRatio (n != k) (m * twoTo g.toNat) 1
    else ofRatio (n != k) m (twoTo (-g).toNat)

/-- The order of two finite numbers, on their exact values. -/
def leFinite (a b : Binary64) : Bool :=
  let (p, q) := a.toRatio
  let (r, u) := b.toRatio
  p * u ≤ r * q

/-- At most; false when one side is no number. -/
def le (a b : Binary64) : Bool :=
  match a, b with
  | nan, _ | _, nan => false
  | infinite true, _ => true
  | _, infinite false => true
  | infinite false, _ => false
  | _, infinite true => false
  | a, b => leFinite a b

/-- Less; false when one side is no number. -/
def lt (a b : Binary64) : Bool :=
  match a, b with
  | nan, _ | _, nan => false
  | a, b => !le b a

/-- A positive number with a significand of at most 256 bits, cut off below. -/
def cut (s : Nat) (e : Int) : Nat × Int :=
  let extra := s.log2 - 255
  (s >>> extra, e + extra)

/-- The power `s · 2 ^ e` to a natural exponent, with 256 bits kept at every step. -/
def powCut (s : Nat) (e : Int) (n : Nat) : Nat × Int :=
  if _h : n = 0 then (1, 0)
  else
    let (t, f) := powCut s e (n / 2)
    let (t, f) := cut (t * t) (2 * f)
    if n % 2 = 0 then (t, f) else cut (t * s) (f + e)
termination_by n
decreasing_by omega

/-- The number nearest to `± s · 2 ^ e`, decided at once when the exponent is out of range. -/
def ofScaled (negative : Bool) (s : Nat) (e : Int) : Binary64 :=
  if s = 0 then zero negative
  else if 1100 < e + s.log2 then .infinite negative
  else if e + s.log2 < -1200 then zero negative
  else if 0 ≤ e then ofRatio negative (s * twoTo e.toNat) 1
  else ofRatio negative s (twoTo (-e).toNat)

/-- The power with an integer exponent, rounded once. A power of a finite number that is out of
range is an infinity; a negative power of zero has no value here. -/
def pow? (a : Binary64) (n : Int) : Option Binary64 :=
  match a with
  | nan => some (if n = 0 then ofInt 1 else .nan)
  | infinite negative =>
    let minus := negative && n % 2 == 1
    some (if n = 0 then ofInt 1 else if 0 < n then .infinite minus else zero minus)
  | finite negative s e =>
    let minus := negative && n % 2 == 1
    if n = 0 then some (ofInt 1)
    else if s = 0 then if 0 < n then some (zero minus) else none
    else
      let (t, f) := powCut s e n.natAbs
      if 0 < n then some (ofScaled minus t f)
      else
        let width := twoTo 600
        some (ofScaled minus (width / t) (-f - 600))

end Binary64

end CommonPurse
