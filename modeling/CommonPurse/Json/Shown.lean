import CommonPurse.Json
import CommonPurse.Text.Quoted

/-!
# How values are shown

The text of a value inside a message: texts between quotes, lists and objects with their
brackets, and the words `None`, `True` and `False`. Not every value has one: whole numbers of more
than 4300 digits are not written out, and what is nested too deep is given up.

## Main definitions

* `CommonPurse.Json.shown` — the text of a value inside a message.
* `CommonPurse.Json.plainShown` — the same, but a text stands for itself.
* `CommonPurse.Json.unshown?` — why a value has no text.
* `CommonPurse.Json.toText` — the text of a value, if it has one.
-/

namespace CommonPurse.Json

open CommonPurse.Text

mutual

/-- The text of a value inside a message. -/
def shown : Json → String
  | .null => "None"
  | .bool b => if b then "True" else "False"
  | .integer n => String.ofList (intText n)
  | .real x => x.text
  | .text s => quoted s
  | .brokenText => quoted ""
  | .array items => "[" ++ shownItems items ++ "]"
  | .object members => "\x7b" ++ shownMembers members ++ "\x7d"

/-- The items of a list with commas between them. -/
def shownItems : List Json → String
  | [] => ""
  | [v] => shown v
  | v :: w :: rest => shown v ++ ", " ++ shownItems (w :: rest)

/-- The members of an object with commas between them. -/
def shownMembers : List (String × Json) → String
  | [] => ""
  | [(k, v)] => quoted k ++ ": " ++ shown v
  | (k, v) :: m :: rest => quoted k ++ ": " ++ shown v ++ ", " ++ shownMembers (m :: rest)

end

/-- The text of a value when it is all of a message: a text stands for itself. -/
def plainShown : Json → String
  | .text s => s
  | v => shown v

/-! ## Values without a text -/

/-- Why a value has no text: a whole number in it is too long, or it is nested too deep. -/
inductive Unshown where
  | long
  | deep
  deriving DecidableEq, Repr

/-- The name of the reason. -/
def Unshown.name : Unshown → String
  | .long => "ValueError"
  | .deep => "RecursionError"

/-- What is said about the reason. -/
def Unshown.message : Unshown → String
  | .long => "Exceeds the limit (4300 digits) for integer string conversion; " ++
    "use sys.set_int_max_str_digits() to increase the limit"
  | .deep => "maximum recursion depth exceeded while getting the repr of an object"

/-- The most digits of a whole number that is written out. -/
def mostDigits : Nat := 4300

mutual

/-- Why a value has no text: the first reason from the left. `room` is how deep values may be nested
where the text is made, the value itself included. -/
def unshown? : (room : Nat) → Json → Option Unshown
  | 0, _ => some .deep
  | _ + 1, .integer n => if mostDigits < (natText n.natAbs).length then some .long else none
  | room + 1, .array items => unshownItems? room items
  | room + 1, .object members => unshownMembers? room members
  | _ + 1, _ => none

/-- Why one of several items has no text. -/
def unshownItems? (room : Nat) : List Json → Option Unshown
  | [] => none
  | v :: rest => (unshown? room v).or (unshownItems? room rest)

/-- Why one of several members has no text. -/
def unshownMembers? (room : Nat) : List (String × Json) → Option Unshown
  | [] => none
  | (_, v) :: rest => (unshown? room v).or (unshownMembers? room rest)

end

/-- The text of a value that is all of a message, or why it has none. -/
def toText (room : Nat) (v : Json) : Except Unshown String :=
  match v.unshown? room with
  | some u => .error u
  | none => .ok v.plainShown

end CommonPurse.Json
