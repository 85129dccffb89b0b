import CommonPurse.Json

/-!
# Members of documents

The members of a JSON object that hold a value of a certain kind.

## Main definitions

* `CommonPurse.Json.textAt?`, `integerAt?`, `flagAt`, `itemsAt` — a text, an integer, a flag, the
  items of an array, by the name of the member.
-/

namespace CommonPurse.Json

/-- The member with a name that is a text. -/
def textAt? (name : String) (d : Json) : Option String := (d.member? name).bind text?

/-- The member with a name that is a text; empty when there is none. -/
def textAt (name : String) (d : Json) : String := (d.textAt? name).getD ""

/-- The integer that a value is; truth values stand for zero and one. -/
def integer? : Json → Option Int
  | .integer n => some n
  | .bool b => some (if b then 1 else 0)
  | _ => none

/-- The member with a name that is an integer. -/
def integerAt? (name : String) (d : Json) : Option Int := (d.member? name).bind integer?

/-- The member with a name that is a flag; of one that is not there something else is assumed. -/
def flagOr (otherwise : Bool) (name : String) (d : Json) : Bool :=
  match d.member? name with
  | some (.bool b) => b
  | _ => otherwise

/-- The member with a name that is a flag; a flag that is not there is not set. -/
def flagAt (name : String) (d : Json) : Bool := d.flagOr false name

/-- The items of an array; nothing else has items. -/
def items : Json → List Json
  | .array items => items
  | _ => []

/-- The items of the member with a name. -/
def itemsAt (name : String) (d : Json) : List Json := ((d.member? name).map items).getD []

/-- The members of an object; nothing else has members. -/
def members : Json → List (String × Json)
  | .object members => members
  | _ => []

/-- The members of the member with a name. -/
def membersAt (name : String) (d : Json) : List (String × Json) :=
  ((d.member? name).map members).getD []

end CommonPurse.Json
