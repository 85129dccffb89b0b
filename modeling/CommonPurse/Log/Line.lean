import CommonPurse.Log.Record
import CommonPurse.Retry

/-!
# Log lines

Two ways to write a record: as a JSON object on one line, and as plain text.

## Main definitions

* `CommonPurse.Log.Layout` — which attributes stand in a JSON line, and what stands in every one.
* `CommonPurse.Log.Layout.line` — the JSON line of a record.
* `CommonPurse.Log.Record.plainLine` — the plain text of a record.
-/

namespace CommonPurse.Log

/-- Why a record has no line. -/
inductive LineFault where
  /-- The message cannot be put together. -/
  | template (f : Template.Fault)
  /-- The time of its creation lies in a year that cannot be written. -/
  | year (y : Int)
  /-- Something belongs to identifiers, which are no names. -/
  | notNamed
  deriving DecidableEq, Repr, Inhabited

/-- What is said about a record that has no line. -/
def LineFault.message : LineFault → String
  | .template f => f.message
  | .year y => "year " ++ String.ofList (Text.intText y) ++ " is out of range"
  | .notNamed => "keys must be str, int, float, bool or None, not UUID"

/-! ## Times -/

/-- The microseconds of a time in seconds: the fraction is rounded to the nearest microsecond. -/
def microsOf : Value → Int
  | .integer n => n * Timestamp.second
  | .real x =>
    let (p, q) := x.toRatio
    let whole := p.tdiv q
    let (a, b) := ((Binary64.ofSigned (p - whole * q) q).mul (Binary64.ofInt 1000000)).toRatio
    whole * Timestamp.second + Retry.Quantity.nearestInt a b
  | _ => 0

/-- The whole seconds of a time in seconds. -/
def secondsOf : Value → Int
  | .integer n => n
  | .real x => x.toRatio.1.fdiv x.toRatio.2
  | _ => 0

/-- The text of a time with thousandths of a second, of which the rest is dropped. -/
def stampText (micros : Int) : String :=
  let t := Timestamp.utc micros
  let part := (micros % Timestamp.second / 1000).toNat
  String.ofList (t.dateText ++ 'T' :: t.clockText.1 ++ '.' :: Text.padded 3 part ++ ['Z'])

/-- The time of the creation of a record, if its year can be written. -/
def Record.stamp (r : Record) : Except LineFault String :=
  let micros := microsOf ((r.attribute? "created").getD r.created)
  let (y, _, _) := Calendar.civil (micros / Timestamp.day)
  if 1 ≤ y ∧ y ≤ 9999 then .ok (stampText micros) else .error (.year y)

/-! ## JSON lines -/

/-- A layout: the names in a line with the attributes whose values they take, and what stands in
every line. -/
structure Layout where
  keys : List (String × String)
  static : List (String × Value)
  deriving Inhabited

namespace Layout

/-- The names in a line unless others are chosen. -/
def usualKeys : List (String × String) :=
  [("level", "levelname"), ("logger", "name"), ("message", "message")]

/-- The layout of a service. -/
def ofService (name : String) : Layout := ⟨usualKeys, [("service", .text name)]⟩

/-- The attributes that do not go into a line of their own accord. -/
def reserved : List String :=
  ["name", "msg", "args", "created", "filename", "funcName", "levelname", "levelno", "lineno",
    "module", "msecs", "message", "pathname", "process", "processName", "relativeCreated",
    "thread", "threadName", "exc_info", "exc_text", "stack_info", "taskName"]

/-- Give a name a value: in its place when the name is there, otherwise at the end. -/
def put (name : String) (value : Value) : List (String × Value) → List (String × Value)
  | [] => [(name, value)]
  | (k, v) :: rest => if k = name then (k, value) :: rest else (k, v) :: put name value rest

/-- Give several names their values, one after the other. -/
def putAll (members more : List (String × Value)) : List (String × Value) :=
  more.foldl (fun ms m => put m.1 m.2 ms) members

/-- Give a name a value unless it is reserved or has one. -/
def offer (members : List (String × Value)) (m : String × Value) : List (String × Value) :=
  if reserved.contains m.1 || members.any (·.1 == m.1) then members else members ++ [m]

/-- A text on one line: line ends are written as a backslash and a letter. -/
def oneLine (s : String) : String :=
  String.ofList (s.toList.flatMap fun c => if c = '\n' then ['\\', 'n'] else [c])

/-- The attribute of a record that a name in a line stands for. -/
def valueOf (r : Record) (message name : String) : Value :=
  if name = "message" then .text message else (r.attribute? name).getD .null

/-- What a record says about trouble. -/
def trouble (r : Record) : List (String × Value) :=
  (match r.caught with
    | some c => [("exception", .text (oneLine c.line))]
    | none => []) ++
  (if r.stack.isEmpty then [] else [("stack_trace", .text (oneLine r.stack))])

/-- The members of the line of a record. -/
def members (l : Layout) (r : Record) (message stamp : String) : List (String × Value) :=
  let keys := if l.keys.isEmpty then usualKeys else l.keys
  let chosen := putAll [] (keys.map fun k => (k.1, valueOf r message k.2))
  let told := putAll (put "timestamp" (.text stamp) chosen) (trouble r)
  r.extra.foldl offer (putAll told l.static)

/-- The line of a record. -/
def line (l : Layout) (r : Record) : Except LineFault String :=
  match r.message with
  | .error f => .error (.template f)
  | .ok message =>
    match r.stamp with
    | .error f => .error f
    | .ok stamp =>
      match (Value.object (l.members r message stamp)).json? with
      | some j => .ok j.spaced
      | none => .error .notNamed

end Layout

/-! ## Plain text -/

/-- The plain text of a record: when it was created, its level, its logger and its message. -/
def Record.plainLine (r : Record) : Except LineFault String :=
  match r.message with
  | .error f => .error (.template f)
  | .ok message =>
    let t := Timestamp.utc (secondsOf ((r.attribute? "created").getD r.created) * Timestamp.second)
    let time := String.ofList (t.dateText ++ ' ' :: t.clockText.1)
    .ok (r.withTrouble (String.intercalate " - "
      [time, r.textOf "levelname", r.textOf "name", message]))

end CommonPurse.Log
