import CommonPurse.Log.Value

/-!
# Log entries

What the program says about its own work.

## Main definitions

* `CommonPurse.Log.Level` — how grave an entry is.
* `CommonPurse.Log.Entry` — a level, a message and named values.
-/

namespace CommonPurse.Log

/-- The levels of log entries. -/
inductive Level where
  | debug
  | info
  | warning
  | error
  | critical
  deriving DecidableEq, Repr, Inhabited

namespace Level

/-- The name of a level. -/
def name : Level → String
  | debug => "DEBUG"
  | info => "INFO"
  | warning => "WARNING"
  | error => "ERROR"
  | critical => "CRITICAL"

/-- The number of a level; graver levels have greater numbers. -/
def number : Level → Nat
  | debug => 10
  | info => 20
  | warning => 30
  | error => 40
  | critical => 50

/-- The level with a name. -/
def ofName? (s : String) : Option Level :=
  [debug, info, warning, error, critical].find? (·.name == s)

end Level

/-- A log entry: its level, its message, and the values that go with it. -/
structure Entry where
  level : Level
  message : String
  fields : List (String × Value)
  deriving Inhabited

namespace Entry

/-- An entry at each level. -/
def debug (message : String) (fields : List (String × Value)) : Entry := ⟨.debug, message, fields⟩

@[inherit_doc debug]
def info (message : String) (fields : List (String × Value)) : Entry := ⟨.info, message, fields⟩

@[inherit_doc debug]
def warning (message : String) (fields : List (String × Value)) : Entry :=
  ⟨.warning, message, fields⟩

@[inherit_doc debug]
def error (message : String) (fields : List (String × Value)) : Entry := ⟨.error, message, fields⟩

/-- Whether an entry is at least as grave as a level. -/
def reaches (l : Level) (e : Entry) : Bool := l.number ≤ e.level.number

end Entry

end CommonPurse.Log
