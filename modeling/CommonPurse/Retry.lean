import CommonPurse.Log
import CommonPurse.Number.Shortest

/-!
# Trying again

Calling something that may fail, and calling it again after delays that grow exponentially.

## Main definitions

* `CommonPurse.Retry.Quantity` — a whole number or a real one.
* `CommonPurse.Retry.Policy` — how often and after which delays to try.
* `CommonPurse.Retry.Policy.delay` — the delay after an attempt.
* `CommonPurse.Retry.run?` — the calls, the delays and the result.
-/

namespace CommonPurse.Retry

/-! ## Quantities -/

/-- A quantity of seconds or a factor: exact as long as it is whole. -/
inductive Quantity where
  | whole (n : Int)
  | real (x : Binary64)
  deriving DecidableEq, Repr, Inhabited

/-- What can go wrong when a delay is computed. -/
inductive Fault where
  /-- A power is too large for a real number. -/
  | powerTooLarge
  /-- A whole number is too large for a real number. -/
  | wholeTooLarge
  /-- Zero has no negative powers. -/
  | negativePowerOfZero
  deriving DecidableEq, Repr

/-- What is said about a delay that cannot be computed. -/
def Fault.message : Fault → String
  | powerTooLarge => "(34, 'Numerical result out of range')"
  | wholeTooLarge => "int too large to convert to float"
  | negativePowerOfZero => "0.0 cannot be raised to a negative power"

/-- What is said when nothing may be tried. -/
def unusableText : String := "max_attempts must be at least 1"

namespace Quantity

/-- The quantity as a real number. -/
def toReal : Quantity → Except Fault Binary64
  | real x => .ok x
  | whole n =>
    match Binary64.ofInt n with
    | .infinite _ => .error .wholeTooLarge
    | x => .ok x

/-- The product; that of whole numbers is whole. -/
def mul : Quantity → Quantity → Except Fault Quantity
  | whole n, whole k => .ok (.whole (n * k))
  | a, b =>
    match a.toReal, b.toReal with
    | .ok x, .ok y => .ok (.real (x.mul y))
    | .error e, _ => .error e
    | _, .error e => .error e

/-- The power of a real number. -/
def powReal (x : Binary64) (n : Int) : Except Fault Quantity :=
  match x.pow? n with
  | none => .error .negativePowerOfZero
  | some (.infinite k) => if x.isFinite then .error .powerTooLarge else .ok (.real (.infinite k))
  | some y => .ok (.real y)

/-- The power with a whole exponent; it is whole when the base is whole and the exponent is not
negative. -/
def pow : Quantity → Int → Except Fault Quantity
  | real x, n => powReal x n
  | whole b, n =>
    if 0 ≤ n then .ok (.whole (Int.pow b n.toNat))
    else
      match (whole b).toReal with
      | .error e => .error e
      | .ok x => powReal x n

/-- Whether the first quantity is less, on the exact values. -/
def less : Quantity → Quantity → Bool
  | whole n, whole k => n < k
  | real x, real y => x.lt y
  | whole n, real y =>
    match y with
    | .nan => false
    | .infinite neg => !neg
    | y => let (p, q) := y.toRatio; n * q < p
  | real x, whole k =>
    match x with
    | .nan => false
    | .infinite neg => neg
    | x => let (p, q) := x.toRatio; p < k * q

/-- The smaller quantity, the first when neither is less. -/
def min (a b : Quantity) : Quantity := if less b a then b else a

/-- The nearest integer, a tie going to the even one. -/
def nearestInt (p : Int) (q : Nat) : Int :=
  let n := Binary64.divNearestEven p.natAbs q
  if p < 0 then -(n : Int) else n

/-- A number of seconds in microseconds. -/
def micros : Quantity → Int
  | whole n => n * 1000000
  | real x =>
    let (p, q) := (x.mul (Binary64.ofInt 1000000)).toRatio
    nearestInt p q

end Quantity

/-! ## Policies -/

/-- How often something is tried, and after which delays. -/
structure Policy where
  maxAttempts : Int
  initialDelay : Quantity
  maxDelay : Quantity
  base : Quantity
  /-- The factor that delays are multiplied with at the end, if there is one. -/
  jitter : Option Quantity
  deriving Repr

/-- The policy of a call that says nothing else. -/
def Policy.usual : Policy :=
  ⟨3, .real (Binary64.ofInt 1), .real (Binary64.ofInt 60), .real (Binary64.ofInt 2), none⟩

/-- Whether a policy allows at least one attempt. -/
def Policy.isUsable (p : Policy) : Bool := 1 ≤ p.maxAttempts

/-- The delay after an attempt, counted from zero: the initial delay times a power of the base,
but at most the greatest delay. -/
def Policy.delay (p : Policy) (attempt : Int) : Except Fault Quantity :=
  match p.base.pow attempt with
  | .error e => .error e
  | .ok f =>
    match p.initialDelay.mul f with
    | .error e => .error e
    | .ok d =>
      let d := Quantity.min d p.maxDelay
      match p.jitter with
      | none => .ok d
      | some j =>
        match j.toReal with
        | .error e => .error e
        | .ok x => d.mul (.real x)

/-! ## Runs -/

/-- How a run ends: with a value, with an error that is not retried, with the error of the last
attempt, or with a delay that cannot be computed. -/
inductive Ending (ε α : Type) where
  | returned (value : α)
  | refused (error : ε)
  | exhausted (last : ε) (attempts : Nat) (total : Binary64)
  | undelayed (fault : Fault)

/-- A run: how it ended, how often it called, what it said before each delay, and the delays. -/
structure Run (ε α : Type) where
  ending : Ending ε α
  calls : Nat
  notices : List (ε × Nat)
  delays : List Quantity

/-- The sum of a total and a delay. -/
def addDelay (total : Binary64) (d : Quantity) : Except Fault Binary64 :=
  d.toReal.map total.add

/-- Go on with attempt number `attempt`, counted from zero, when `left` more are allowed behind
it. `outcome` gives the outcome of each call. -/
def attempts {ε α : Type} (p : Policy) (retryable : ε → Bool) (outcome : Nat → Except ε α) :
    (left attempt : Nat) → (total : Binary64) → Run ε α
  | left, attempt, total =>
    match outcome attempt with
    | .ok a => ⟨.returned a, attempt + 1, [], []⟩
    | .error e =>
      if !retryable e then ⟨.refused e, attempt + 1, [], []⟩
      else
        match left with
        | 0 => ⟨.exhausted e (attempt + 1) total, attempt + 1, [], []⟩
        | left + 1 =>
          match p.delay attempt with
          | .error f => ⟨.undelayed f, attempt + 1, [], []⟩
          | .ok d =>
            match addDelay total d with
            | .error f => ⟨.undelayed f, attempt + 1, [], []⟩
            | .ok total =>
              let r := attempts p retryable outcome left (attempt + 1) total
              { r with notices := (e, attempt + 1) :: r.notices, delays := d :: r.delays }

/-- Try until an attempt returns, fails in a way that is not retried, or is the last one. A
policy that allows no attempt has no run. -/
def run? {ε α : Type} (p : Policy) (retryable : ε → Bool) (outcome : Nat → Except ε α) :
    Option (Run ε α) :=
  if p.isUsable then
    some (attempts p retryable outcome (p.maxAttempts.toNat - 1) 0 (Binary64.zero false))
  else none

/-! ## What is said about a run -/

/-- A real number rounded to thousandths, a tie going to the even one. -/
def toThousandths (x : Binary64) : Binary64 :=
  let (p, q) := x.toRatio
  Binary64.ofSigned (Quantity.nearestInt (p * 1000) q) 1000

/-- The message of a run that has used up its attempts. -/
def exhaustedText (attempts : Nat) (last : String) : String :=
  s!"Failed after {attempts} attempts. Last error: " ++ last

/-- What is logged when a function has used up its attempts. -/
def exhaustedEntry (function last : String) (attempts : Nat) (total : Binary64) : Log.Entry :=
  .warning ("All retry attempts exhausted for " ++ function)
    [("function", .text function), ("attempts", .integer attempts),
      ("last_exception", .text last), ("total_delay", .real total)]

end CommonPurse.Retry
