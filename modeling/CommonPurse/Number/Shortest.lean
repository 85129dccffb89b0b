import CommonPurse.Number.Binary64
import CommonPurse.Text.Digit

/-!
# The shortest decimal text of a binary number

The fewest decimal digits that read back as the same number, and of those the nearest; a tie
goes to the even digit.

## Main definitions

* `CommonPurse.Binary64.shortest` — the digits and the decimal exponent of a positive number.
* `CommonPurse.Binary64.text` — positional from `10 ^ -4` to below `10 ^ 16`, otherwise with an
  exponent.
* `CommonPurse.Binary64.plainText` — always positional, without `.0`.
* `CommonPurse.Binary64.fixedText` — a fixed number of places.
-/

namespace CommonPurse.Binary64

open CommonPurse.Text

/-- The rational interval of a finite positive number: four times its lower end, its value and
its upper end over a common denominator. Ends count when the significand is even. -/
def interval (s : Nat) (e : Int) : Nat × Nat × Nat × Nat :=
  let below := if s = leastNormal ∧ minExponent < e then 1 else 2
  let unit := if 0 ≤ e then twoTo e.toNat else 1
  let den := 4 * (if 0 ≤ e then 1 else twoTo (-e).toNat)
  ((4 * s - below) * unit, 4 * s * unit, (4 * s + 2) * unit, den)

/-- The quotient `num / (den · 10 ^ k)` as numerator and denominator. -/
def scaledTen (num den : Nat) (k : Int) : Nat × Nat :=
  if 0 ≤ k then (num, den * tenTo k.toNat) else (num * tenTo (-k).toNat, den)

/-- The decimal point position `k` with `10 ^ (k - 1) ≤ num / den < 10 ^ k`, found from an
estimate by at most `fuel` steps. -/
def pointFrom (num den : Nat) : Nat → Int → Int
  | 0, k => k
  | fuel + 1, k =>
    let (a, b) := scaledTen num den k
    if b ≤ a then pointFrom num den fuel (k + 1)
    else
      let (a, b) := scaledTen num den (k - 1)
      if a < b then pointFrom num den fuel (k - 1) else k

/-- The decimal point position of a quotient. -/
def point (num den : Nat) : Int :=
  let estimate : Int := (((num.log2 : Int) - (den.log2 : Int)) * 30103) / 100000
  pointFrom num den 8 estimate

/-- The candidate with a grid of `n` digits: the neighbour of the value on the grid that lies in
the interval, the nearer one if both do. -/
def candidate? (low value high den : Nat) (closed : Bool) (k : Int) (n : Nat) :
    Option (Nat × Int) :=
  let g : Int := k - n
  let (v, d) := scaledTen value den g
  let (l, dl) := scaledTen low den g
  let (h, dh) := scaledTen high den g
  let f := v / d
  let inside (x : Nat) : Bool :=
    if closed then l ≤ x * dl && x * dh ≤ h else l < x * dl && x * dh < h
  let below := 0 < f && inside f
  let above := inside (f + 1)
  if below && above then
    let down := v - f * d
    let up := (f + 1) * d - v
    if down < up then some (f, g)
    else if up < down then some (f + 1, g)
    else some (if f % 2 = 0 then f else f + 1, g)
  else if below then some (f, g)
  else if above then some (f + 1, g)
  else none

/-- The shortest digits of a positive number and the exponent of the last digit: the first grid
of one to seventeen digits that has a candidate. -/
def shortest (s : Nat) (e : Int) : Nat × Int :=
  let (low, value, high, den) := interval s e
  let k := point value den
  ((List.range 17).findSome? fun n =>
    candidate? low value high den (s % 2 == 0) k (n + 1)).getD (s, 0)

/-- Drop the zeros at the right end of a number, counting them into the exponent. -/
def dropZeros (fuel : Nat) (digits : Nat) (exponent : Int) : Nat × Int :=
  match fuel with
  | 0 => (digits, exponent)
  | fuel + 1 =>
    if digits % 10 = 0 ∧ digits ≠ 0 then dropZeros fuel (digits / 10) (exponent + 1)
    else (digits, exponent)

/-- The digits of a positive number without zeros at the right end. -/
def digitsOf (s : Nat) (e : Int) : List Char × Int :=
  let (d, g) := shortest s e
  let (d, g) := dropZeros 20 d g
  (natText d, g)

/-- Write digits with the last one at `10 ^ exponent` positionally; `whole` says how a number
without a fraction ends. -/
def positional (digits : List Char) (exponent : Int) (whole : List Char) : List Char :=
  if 0 ≤ exponent then digits ++ List.replicate exponent.toNat '0' ++ whole
  else
    let places := (-exponent).toNat
    if places < digits.length then
      digits.take (digits.length - places) ++ '.' :: digits.drop (digits.length - places)
    else '0' :: '.' :: List.replicate (places - digits.length) '0' ++ digits

/-- Write digits with the last one at `10 ^ exponent` in scientific form. -/
def scientific (digits : List Char) (exponent : Int) : List Char :=
  let adjusted : Int := exponent + digits.length - 1
  let mantissa :=
    match digits with
    | [] => []
    | [d] => [d]
    | d :: rest => d :: '.' :: rest
  mantissa ++ 'e' :: (if adjusted < 0 then '-' else '+') :: padded 2 adjusted.natAbs

/-- A sign in front of a text. -/
def withSign (negative : Bool) (s : List Char) : List Char :=
  if negative then '-' :: s else s

/-- The shortest text: positional when the first digit stands between `10 ^ -4` and `10 ^ 15`,
with `.0` behind a whole number, and otherwise with an exponent of at least two digits. -/
def text : Binary64 → String
  | finite n 0 _ => String.ofList (withSign n ['0', '.', '0'])
  | finite n s e =>
    let (digits, g) := digitsOf s e
    let adjusted : Int := g + digits.length - 1
    String.ofList (withSign n
      (if -4 ≤ adjusted ∧ adjusted < 16 then positional digits g ['.', '0']
      else scientific digits g))
  | infinite n => if n then "-inf" else "inf"
  | nan => "nan"

/-- The shortest text written positionally whatever the size, without `.0`. -/
def plainText : Binary64 → String
  | finite n 0 _ => String.ofList (withSign n ['0'])
  | finite n s e =>
    let (digits, g) := digitsOf s e
    String.ofList (withSign n (positional digits g []))
  | infinite n => if n then "-inf" else "inf"
  | nan => "NaN"

/-- A natural number of units `10 ^ -places` as text with that many places. -/
def fixedDigits (places units : Nat) : List Char :=
  let whole := units / tenTo places
  let part := units % tenTo places
  if places = 0 then natText whole else natText whole ++ '.' :: padded places part

/-- The number with a fixed number of places, rounded to nearest on its exact value. -/
def fixedText (places : Nat) : Binary64 → String
  | finite n s e =>
    let (p, q) := (finite false s e).toRatio
    String.ofList (withSign n (fixedDigits places (divNearestEven (p.natAbs * tenTo places) q)))
  | infinite n => if n then "-inf" else "inf"
  | nan => "nan"

end CommonPurse.Binary64
