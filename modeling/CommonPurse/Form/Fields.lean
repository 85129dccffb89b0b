import CommonPurse.Form

/-!
# Several fields together

A form is filled field by field, and every fault in it is told, in the order of the fields.

## Main definitions

* `CommonPurse.Form.FieldFault` — a field that is not filled properly.
* `CommonPurse.Form.Fields` — values of fields, or all the faults in them.
* `CommonPurse.Form.Fields.apply` — one field after the other.
-/

namespace CommonPurse.Form

/-- A field that is not filled properly. -/
structure FieldFault where
  field : String
  fault : Fault
  deriving DecidableEq, Repr

/-- Values of fields, or all the faults in them. -/
abbrev Fields (α : Type) := Except (List FieldFault) α

namespace Fields

/-- A field with its value or its fault. -/
def of {α : Type} (field : String) : Except Fault α → Fields α
  | .ok a => .ok a
  | .error f => .error [⟨field, f⟩]

/-- Two fields together; the faults of the first come first. -/
def both {α β : Type} (a : Fields α) (b : Fields β) : Fields (α × β) :=
  match a, b with
  | .ok x, .ok y => .ok (x, y)
  | .ok _, .error gs => .error gs
  | .error fs, .ok _ => .error fs
  | .error fs, .error gs => .error (fs ++ gs)

/-- Give the value of one more field to a function. -/
def apply {α β : Type} (f : Fields (α → β)) (a : Fields α) : Fields β :=
  (both f a).map fun p => p.1 p.2

/-- The same faults in fields that stand inside another one. -/
def under {α : Type} (outer : String) : Fields α → Fields α
  | .ok a => .ok a
  | .error fs => .error (fs.map fun f => { f with field := outer ++ "." ++ f.field })

end Fields

end CommonPurse.Form
