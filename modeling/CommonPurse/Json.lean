import CommonPurse.Number.Shortest
import CommonPurse.Text.Digit

/-!
# JSON values

JSON values whose objects keep the order of their members, and whose whole numbers are told
apart from numbers with a fraction or an exponent.

## Main definitions

* `CommonPurse.Json` — the values.
* `CommonPurse.Json.member?` — a member of an object, by its name.
* `CommonPurse.Json.compact`, `spaced` — the text of a value without and with blanks.
-/

namespace CommonPurse

/-- A JSON value. A text that names half of a surrogate pair is no text; it is kept as
`brokenText` so that a reader can refuse it. -/
inductive Json where
  | null
  | bool (value : Bool)
  | integer (value : Int)
  | real (value : Binary64)
  | text (value : String)
  | brokenText
  | array (items : List Json)
  | object (members : List (String × Json))
  deriving Inhabited

namespace Json

open CommonPurse.Text

/-- The member of an object with a name; of several the last one. -/
def lookup (name : String) : List (String × Json) → Option Json
  | [] => none
  | (k, v) :: rest => (lookup name rest).or (if k = name then some v else none)

/-- The member of a value with a name; a value that is no object has no members. -/
def member? (name : String) : Json → Option Json
  | .object members => lookup name members
  | _ => none

/-- The text of an identifier-like value, for values that are texts. -/
def text? : Json → Option String
  | .text s => some s
  | _ => none

/-- Give a name a value: in its place when the name is there, otherwise at the end. -/
def put (name : String) (value : Json) : List (String × Json) → List (String × Json)
  | [] => [(name, value)]
  | (k, v) :: rest => if k = name then (k, value) :: rest else (k, v) :: put name value rest

/-- Give several names their values, one after the other. -/
def putAll (members extra : List (String × Json)) : List (String × Json) :=
  extra.foldl (fun ms m => put m.1 m.2 ms) members

/-! ## Text -/

/-- How a character stands inside a JSON text: the quote, the backslash and the control
characters are escaped. -/
def escape (c : Char) : List Char :=
  if c = '"' then ['\\', '"']
  else if c = '\\' then ['\\', '\\']
  else if c = '\n' then ['\\', 'n']
  else if c = '\r' then ['\\', 'r']
  else if c = '\t' then ['\\', 't']
  else if c.toNat = 8 then ['\\', 'b']
  else if c.toNat = 12 then ['\\', 'f']
  else if c.toNat < 0x20 then '\\' :: 'u' :: paddedHex 4 c.toNat
  else [c]

/-- A JSON string literal. -/
def quote (s : String) : List Char :=
  '"' :: s.toList.flatMap escape ++ ['"']

/-- The text of a number with a fraction or an exponent. -/
def realText : Binary64 → String
  | .nan => "NaN"
  | .infinite n => if n then "-Infinity" else "Infinity"
  | x => x.text

/-- The blanks of a JSON text. -/
structure Spacing where
  /-- What stands between two items or two members. -/
  between : List Char
  /-- What stands between a name and its value. -/
  afterName : List Char

mutual

/-- The text of a value. -/
def write (sp : Spacing) : Json → List Char
  | .null => "null".toList
  | .bool b => (if b then "true" else "false").toList
  | .integer n => intText n
  | .real x => (realText x).toList
  | .text s => quote s
  | .brokenText => "\"\\ud800\"".toList
  | .array items => '[' :: writeItems sp items ++ [']']
  | .object members => '\x7b' :: writeMembers sp members ++ ['\x7d']

/-- The items of an array. -/
def writeItems (sp : Spacing) : List Json → List Char
  | [] => []
  | [v] => write sp v
  | v :: w :: rest => write sp v ++ sp.between ++ writeItems sp (w :: rest)

/-- The members of an object. -/
def writeMembers (sp : Spacing) : List (String × Json) → List Char
  | [] => []
  | [(k, v)] => quote k ++ sp.afterName ++ write sp v
  | (k, v) :: m :: rest =>
    quote k ++ sp.afterName ++ write sp v ++ sp.between ++ writeMembers sp (m :: rest)

end

/-- The text of a value without blanks. -/
def compact (v : Json) : String :=
  String.ofList (write ⟨[','], [':']⟩ v)

/-- The text of a value with a blank behind every comma and colon. -/
def spaced (v : Json) : String :=
  String.ofList (write ⟨[',', ' '], [':', ' ']⟩ v)

mutual

/-- How deep arrays and objects are nested in a value. -/
def depth : Json → Nat
  | .array items => depthItems items + 1
  | .object members => depthMembers members + 1
  | _ => 0

/-- The greatest depth among items. -/
def depthItems : List Json → Nat
  | [] => 0
  | v :: rest => max (depth v) (depthItems rest)

/-- The greatest depth among members. -/
def depthMembers : List (String × Json) → Nat
  | [] => 0
  | (_, v) :: rest => max (depth v) (depthMembers rest)

end

mutual

/-- Whether every text in a value is well formed. -/
def isWellFormed : Json → Bool
  | .brokenText => false
  | .array items => wellFormedItems items
  | .object members => wellFormedMembers members
  | _ => true

/-- Whether every text in the items is well formed. -/
def wellFormedItems : List Json → Bool
  | [] => true
  | v :: rest => isWellFormed v && wellFormedItems rest

/-- Whether every text in the members is well formed. -/
def wellFormedMembers : List (String × Json) → Bool
  | [] => true
  | (_, v) :: rest => isWellFormed v && wellFormedMembers rest

end

end Json

end CommonPurse
