import CommonPurse.Number.Shortest

/-!
# Real numbers with a chosen number of digits

Three ways to write a real number: with a fixed number of places, with an exponent behind a
fixed number of places, or with a number of significant digits in whichever of the two forms is
shorter. Rounding starts from the exact value, and a tie goes to the even digit.

## Main definitions

* `CommonPurse.Binary64.fixed`, `exponential`, `general` — the three forms of the absolute value.
-/

namespace CommonPurse.Binary64

open CommonPurse.Text

/-- The first digits of a positive quotient as a number, rounded, and the power of ten of the
first one. -/
def significant (num den digits : Nat) : Nat × Int :=
  let k := point num den
  let (a, b) := scaledTen num den (k - digits)
  let n := divNearestEven a b
  if tenTo digits ≤ n then (n / 10, k) else (n, k - 1)

/-- Digits with a point behind the first of them; the point is left out when nothing follows,
unless it is wanted. -/
def pointed (point : Bool) : List Char → List Char
  | [] => []
  | [d] => if point then [d, '.'] else [d]
  | d :: rest => d :: '.' :: rest

/-- An exponent with its sign and at least two digits. -/
def exponentMark (e : Int) : List Char :=
  'e' :: (if e < 0 then '-' else '+') :: padded 2 e.natAbs

/-- The words for what is no finite number. -/
def specialWord : Binary64 → List Char
  | nan => ['n', 'a', 'n']
  | _ => ['i', 'n', 'f']

/-- The absolute value with a fixed number of places. -/
def fixed (places : Nat) (point : Bool) : Binary64 → List Char
  | finite _ s e =>
    let (p, q) := (finite false s e).toRatio
    fixedDigits places (divNearestEven (p.natAbs * tenTo places) q) ++
      if places = 0 ∧ point then ['.'] else []
  | x => specialWord x

/-- The absolute value with an exponent behind a fixed number of places. -/
def exponential (places : Nat) (point : Bool) : Binary64 → List Char
  | finite _ s e =>
    let (p, q) := (finite false s e).toRatio
    let (n, k) := if s = 0 then (0, 0) else significant p.natAbs q (places + 1)
    pointed point (padded (places + 1) n) ++ exponentMark k
  | x => specialWord x

/-- Digits without the zeros at their end, unless those are wanted. -/
def withoutZeros (keep : Bool) (ds : List Char) : List Char :=
  if keep then ds else (ds.reverse.dropWhile (· == '0')).reverse

/-- Digits of which some stand in front of the point. -/
def splitAtPoint (point : Bool) (whole : Nat) (ds : List Char) : List Char :=
  let part := ds.drop whole
  ds.take whole ++ if part.isEmpty ∧ !point then [] else '.' :: part

/-- The absolute value with a number of significant digits: with an exponent when the first digit
stands below `10 ^ -4` or the digits do not reach the point. Zeros at the end of the fraction are
dropped unless they are wanted. -/
def general (digits : Nat) (keep : Bool) : Binary64 → List Char
  | finite _ s e =>
    let digits := max digits 1
    let (p, q) := (finite false s e).toRatio
    let (n, k) := if s = 0 then (0, 0) else significant p.natAbs q digits
    let ds := padded digits n
    if k < -4 ∨ (digits : Int) ≤ k then
      pointed keep (ds.take 1 ++ withoutZeros keep (ds.drop 1)) ++ exponentMark k
    else if k < 0 then
      '0' :: '.' :: (List.replicate (-k - 1).toNat '0' ++ withoutZeros keep ds)
    else
      let whole := k.toNat + 1
      splitAtPoint keep whole (ds.take whole ++ withoutZeros keep (ds.drop whole))
  | x => specialWord x

end CommonPurse.Binary64
