import CommonPurse.Log.Line

/-!
# The context of the log

Named values that belong to what is being done at the moment. They are added to records that lack
them; what a record says of its own accord is never replaced. A logger can also be bound to named
values of its own.

## Main definitions

* `CommonPurse.Log.Context` — named values, with `set`, `remove` and `inject`.
* `CommonPurse.Log.BoundLogger` — a logger with named values.
-/

namespace CommonPurse.Log

/-- The named values of a context. -/
structure Context where
  fields : List (String × Value)
  deriving Inhabited

namespace Context

/-- The context without values. -/
def empty : Context := ⟨[]⟩

/-- The context in which some names have other values. -/
def set (c : Context) (fields : List (String × Value)) : Context :=
  ⟨Layout.putAll c.fields fields⟩

/-- The context without some names. -/
def remove (c : Context) (names : List String) : Context :=
  ⟨c.fields.filter fun f => !names.contains f.1⟩

/-- Add a named value to a record that has no attribute of that name. -/
def offer (r : Record) (f : String × Value) : Record :=
  if r.hasAttribute f.1 then r else { r with extra := r.extra ++ [f] }

/-- Add the values of a context to a record. -/
def inject (c : Context) (r : Record) : Record := c.fields.foldl offer r

end Context

/-- A logger that adds named values to everything that it is told. -/
structure BoundLogger where
  name : String
  fields : List (String × Value)
  deriving Inhabited

namespace BoundLogger

/-- The logger with further values. -/
def bind (l : BoundLogger) (fields : List (String × Value)) : BoundLogger :=
  { l with fields := Layout.putAll l.fields fields }

/-- The values that go with a record; those that the record brings come before those of the
logger. -/
def extend (l : BoundLogger) (fields : List (String × Value)) : List (String × Value) :=
  Layout.putAll l.fields fields

end BoundLogger

end CommonPurse.Log
