import CommonPurse.Id
import CommonPurse.Json.Shown
import CommonPurse.Number.Decimal
import CommonPurse.Time.Timestamp

/-!
# Values in the log

The values that go with what is logged: those of JSON, the identifiers, amounts and times of the
domain, and collections in which something belongs to each of several identifiers. A log line is
JSON, so such a collection can be part of an entry but not of a line.

## Main definitions

* `CommonPurse.Log.Value` — the values.
* `CommonPurse.Log.Value.json?` — the value in a log line, if it can stand there.
* `CommonPurse.Log.Value.document` — the value with identifiers for names.
* `CommonPurse.Log.Value.shown`, `plainShown` — the value inside a message.
-/

namespace CommonPurse.Log

/-- A value that goes with something that is logged. -/
inductive Value where
  | null
  | bool (value : Bool)
  | integer (value : Int)
  | real (value : Binary64)
  | text (value : String)
  | id (value : Id)
  | decimal (value : Decimal)
  | timestamp (value : Timestamp)
  | array (items : List Value)
  | object (members : List (String × Value))
  | byId (members : List (Id × Value))
  deriving Inhabited

namespace Value

open CommonPurse.Text

/-! ## From JSON -/

mutual

/-- The value of a JSON value. -/
def ofJson : Json → Value
  | .null => .null
  | .bool b => .bool b
  | .integer n => .integer n
  | .real x => .real x
  | .text s => .text s
  | .brokenText => .text ""
  | .array items => .array (ofItems items)
  | .object members => .object (ofMembers members)

/-- The values of items. -/
def ofItems : List Json → List Value
  | [] => []
  | v :: rest => ofJson v :: ofItems rest

/-- The values of members. -/
def ofMembers : List (String × Json) → List (String × Value)
  | [] => []
  | (k, v) :: rest => (k, ofJson v) :: ofMembers rest

end

/-! ## To JSON -/

mutual

/-- The value in a log line. What belongs to identifiers cannot stand there: a name in JSON is a
text. -/
def json? : Value → Option Json
  | .null => some .null
  | .bool b => some (.bool b)
  | .integer n => some (.integer n)
  | .real x => some (.real x)
  | .text s => some (.text s)
  | .id i => some (.text i.text)
  | .decimal d => some (.text d.text)
  | .timestamp t => some (.text t.plainText)
  | .array items => (jsonItems? items).map .array
  | .object members => (jsonMembers? members).map .object
  | .byId [] => some (.object [])
  | .byId _ => none

/-- The items in a log line. -/
def jsonItems? : List Value → Option (List Json)
  | [] => some []
  | v :: rest => (json? v).bind fun j => (jsonItems? rest).map (j :: ·)

/-- The members in a log line. -/
def jsonMembers? : List (String × Value) → Option (List (String × Json))
  | [] => some []
  | (k, v) :: rest => (json? v).bind fun j => (jsonMembers? rest).map ((k, j) :: ·)

end

mutual

/-- The value as JSON in which the texts of identifiers serve as names. -/
def document : Value → Json
  | .null => .null
  | .bool b => .bool b
  | .integer n => .integer n
  | .real x => .real x
  | .text s => .text s
  | .id i => .text i.text
  | .decimal d => .text d.text
  | .timestamp t => .text t.isoText
  | .array items => .array (documentItems items)
  | .object members => .object (documentMembers members)
  | .byId members => .object (documentById members)

/-- The items as JSON. -/
def documentItems : List Value → List Json
  | [] => []
  | v :: rest => document v :: documentItems rest

/-- The members as JSON. -/
def documentMembers : List (String × Value) → List (String × Json)
  | [] => []
  | (k, v) :: rest => (k, document v) :: documentMembers rest

/-- What belongs to identifiers as JSON. -/
def documentById : List (Id × Value) → List (String × Json)
  | [] => []
  | (i, v) :: rest => (i.text, document v) :: documentById rest

end

/-! ## Inside a message -/

/-- An identifier inside a message. -/
def shownId (i : Id) : String := "UUID('" ++ i.text ++ "')"

/-- The fields of a time with commas between them; the fraction of a second is left out when
there is none, and the seconds with it when there are none either. -/
def shownFields (t : Timestamp) : String :=
  let micros := t.wall % Timestamp.day
  let (y, m, d) := Calendar.civil (t.wall / Timestamp.day)
  let seconds := micros / Timestamp.second
  let part := micros % Timestamp.second
  let tail := if part ≠ 0 then [seconds % 60, part] else if seconds % 60 ≠ 0 then [seconds % 60]
    else []
  String.intercalate ", "
    (([y, m, d, seconds / 3600, seconds / 60 % 60] ++ tail).map fun n => String.ofList (intText n))

/-- The zone of a time inside a message. -/
def shownZone (seconds : Int) : String :=
  if seconds = 0 then "datetime.timezone.utc"
  else
    let days := seconds / 86400
    let rest := String.ofList (intText (seconds % 86400))
    "datetime.timezone(datetime.timedelta(" ++
      (if days = 0 then "" else "days=" ++ String.ofList (intText days) ++ ", ") ++
      "seconds=" ++ rest ++ "))"

/-- A time inside a message. -/
def shownTime (t : Timestamp) : String :=
  "datetime.datetime(" ++ shownFields t ++
    (match t.offset with
      | some o => ", tzinfo=" ++ shownZone o
      | none => "") ++ ")"

mutual

/-- A value inside a message. -/
def shown : Value → String
  | .null => Json.null.shown
  | .bool b => (Json.bool b).shown
  | .integer n => (Json.integer n).shown
  | .real x => (Json.real x).shown
  | .text s => (Json.text s).shown
  | .id i => shownId i
  | .decimal d => "Decimal('" ++ d.text ++ "')"
  | .timestamp t => shownTime t
  | .array items => "[" ++ shownItems items ++ "]"
  | .object members => "\x7b" ++ shownMembers members ++ "\x7d"
  | .byId members => "\x7b" ++ shownById members ++ "\x7d"

/-- Items with commas between them. -/
def shownItems : List Value → String
  | [] => ""
  | [v] => shown v
  | v :: w :: rest => shown v ++ ", " ++ shownItems (w :: rest)

/-- Members with commas between them. -/
def shownMembers : List (String × Value) → String
  | [] => ""
  | [(k, v)] => quoted k ++ ": " ++ shown v
  | (k, v) :: m :: rest => quoted k ++ ": " ++ shown v ++ ", " ++ shownMembers (m :: rest)

/-- What belongs to identifiers with commas between them. -/
def shownById : List (Id × Value) → String
  | [] => ""
  | [(i, v)] => shownId i ++ ": " ++ shown v
  | (i, v) :: m :: rest => shownId i ++ ": " ++ shown v ++ ", " ++ shownById (m :: rest)

end

/-- A value that is all of a message: texts, identifiers, amounts and times stand for themselves. -/
def plainShown : Value → String
  | .text s => s
  | .id i => i.text
  | .decimal d => d.text
  | .timestamp t => t.plainText
  | v => shown v

end Value

end CommonPurse.Log
