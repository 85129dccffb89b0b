import CommonPurse.Log

/-!
# Parts that race

The parts of the program run side by side until one of them ends. Those that have not ended by
then are cancelled.

## Main definitions

* `CommonPurse.Race.Part` — a part: its name, and how it ends by itself.
* `CommonPurse.Race.failure?` — the error of the race: that of the first part with one.
* `CommonPurse.Race.cancelled` — the parts that end by being cancelled.
* `CommonPurse.Race.log` — what is noted about the parts that ended by themselves.
-/

namespace CommonPurse.Race

/-- How a part ends: it returns, it fails with an error, or it is cancelled. A part that asks for
the whole process to end, or is interrupted from the keyboard, does not end in one of these ways:
that stops the loop in which the race is waited for, and the race is over without an outcome. -/
inductive Ending (ε : Type) where
  | returned
  | failed (error : ε)
  | cancelled
  deriving DecidableEq, Repr, Inhabited

/-- A part of the program: its name and how it ends by itself. Nothing stands for a part that goes
on until it is cancelled. -/
structure Part (ε : Type) where
  name : String
  ending : Option (Ending ε)
  deriving DecidableEq, Repr, Inhabited

variable {ε : Type}

namespace Ending

/-- The error that a part ends with, if it does. -/
def error? : Ending ε → Option ε
  | failed e => some e
  | returned | cancelled => none

/-- Whether a part ends by being cancelled. -/
def isCancelled : Ending ε → Bool
  | cancelled => true
  | returned | failed _ => false

/-- What is noted about a part of some name that has ended. -/
def entry (name : String) : Ending ε → Log.Entry
  | returned => .info (name ++ " exited") []
  | failed _ => .error (name ++ " stopped with an error") []
  | cancelled => .warning (name ++ " was cancelled") []

end Ending

namespace Part

/-- Whether a part ends by itself. -/
def isDone (p : Part ε) : Bool := p.ending.isSome

/-- How a part has ended when the race is over. -/
def final (p : Part ε) : Ending ε := p.ending.getD .cancelled

/-- The error that a part ends with by itself. -/
def error? (p : Part ε) : Option ε := p.ending.bind Ending.error?

end Part

/-- Whether the race comes to an end: some part ends by itself. -/
def isOver (parts : List (Part ε)) : Bool := parts.any Part.isDone

/-- The error of a race: that of the first part, in the order of the parts, that ends with one. -/
def failure? (parts : List (Part ε)) : Option ε := parts.findSome? Part.error?

/-- The names of the parts that end by being cancelled. -/
def cancelled (parts : List (Part ε)) : List String :=
  (parts.filter (·.final.isCancelled)).map Part.name

/-- What is noted when a race is over: an entry about each part that has ended by itself. -/
def log (parts : List (Part ε)) : List Log.Entry :=
  parts.filterMap fun p => p.ending.map (Ending.entry p.name)

/-- What is said when nothing takes part. -/
def nobodyText : String := "Set of Tasks/Futures is empty."

end CommonPurse.Race
