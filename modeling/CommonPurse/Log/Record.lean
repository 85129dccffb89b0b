import CommonPurse.Log
import CommonPurse.Log.Template

/-!
# Log records

What a logger is told, before it is written anywhere: a template with its arguments, where and
when it was told, an error that was caught, and further attributes. A further attribute hides one
that every record has.

## Main definitions

* `CommonPurse.Log.Record` — a record.
* `CommonPurse.Log.Record.attribute?` — an attribute of a record, by its name.
* `CommonPurse.Log.Record.message` — the message of a record.
* `CommonPurse.Log.Record.folded` — a record whose message tells everything.
-/

namespace CommonPurse.Log

/-- An error that was caught: its kind and its text. -/
structure Caught where
  kind : String
  text : String
  deriving DecidableEq, Repr, Inhabited

/-- The text of an error that was caught. -/
def Caught.line (c : Caught) : String := if c.text.isEmpty then c.kind else c.kind ++ ": " ++ c.text

/-- A record. It comes from a line of a file, and the time of its creation is a number of seconds
since the beginning of 1970. -/
structure Record where
  logger : String
  level : Level
  file : String
  line : Nat
  template : String
  arguments : List Value
  created : Value
  caught : Option Caught
  stack : String
  extra : List (String × Value)
  deriving Inhabited

/-- The record of an entry that a logger is told somewhere and at a time. -/
def Entry.record (e : Entry) (logger file : String) (line : Nat) (created : Value) : Record :=
  ⟨logger, e.level, file, line, e.message, [], created, none, "", e.fields⟩

namespace Record

/-! ## Attributes -/

/-- The error that was caught, as an attribute. -/
def caughtValue : Option Caught → Value
  | none => .null
  | some c => .array [.text ("<class '" ++ c.kind ++ "'>"), .text c.text, .null]

/-- The name of a file without its folders. -/
def baseName (file : String) : String :=
  String.ofList (file.toList.reverse.takeWhile (· ≠ '/')).reverse

/-- The name of a file without its folders and what stands behind its last point. -/
def stem (file : String) : String :=
  let name := (baseName file).toList.reverse
  match name.dropWhile (· ≠ '.') with
  | _ :: c :: rest => String.ofList (c :: rest).reverse
  | _ => String.ofList name.reverse

/-- The attributes that every record has and that say something about it. -/
def standard (r : Record) : List (String × Value) :=
  [("name", .text r.logger), ("msg", .text r.template), ("args", .array r.arguments),
    ("levelname", .text r.level.name), ("levelno", .integer r.level.number),
    ("pathname", .text r.file), ("filename", .text (baseName r.file)),
    ("module", .text (stem r.file)),
    ("exc_info", caughtValue r.caught), ("exc_text", .null),
    ("stack_info", if r.stack.isEmpty then .null else .text r.stack), ("lineno", .integer r.line),
    ("funcName", .null), ("created", r.created), ("threadName", .text "MainThread"),
    ("processName", .text "MainProcess"), ("taskName", .null)]

/-- The names of the attributes that every record has. -/
def standardNames : List String :=
  ["name", "msg", "args", "levelname", "levelno", "pathname", "filename", "module", "exc_info",
    "exc_text", "stack_info", "lineno", "funcName", "created", "msecs", "relativeCreated",
    "thread", "threadName", "processName", "process", "taskName", "getMessage"]

/-- The value of a name among attributes. -/
def find? (name : String) (attributes : List (String × Value)) : Option Value :=
  (attributes.find? (·.1 == name)).map (·.2)

/-- An attribute of a record. -/
def attribute? (r : Record) (name : String) : Option Value :=
  (find? name r.extra).or (find? name r.standard)

/-- Whether a record has an attribute. -/
def hasAttribute (r : Record) (name : String) : Bool :=
  standardNames.contains name || r.extra.any (·.1 == name)

/-- The text of an attribute. -/
def textOf (r : Record) (name : String) : String := ((r.attribute? name).getD .null).plainShown

/-! ## The message -/

/-- The message of a record: its template, filled with its arguments. -/
def message (r : Record) : Except Template.Fault String :=
  Template.fill (r.textOf "msg") r.arguments

/-- A text, and another one on the next line. -/
def onNextLine (s more : String) : String :=
  (if s.endsWith "\n" then s else s ++ "\n") ++ more

/-- A text, and behind it the error that was caught and the stack. -/
def withTrouble (r : Record) (s : String) : String :=
  let s := match r.caught with
    | some c => onNextLine s c.line
    | none => s
  if r.stack.isEmpty then s else onNextLine s r.stack

/-- The record whose message tells what the template, its arguments, the error and the stack tell
together. -/
def folded (r : Record) : Except Template.Fault Record :=
  r.message.map fun m =>
    { r with
      template := r.withTrouble m
      arguments := []
      caught := none
      stack := ""
      extra := r.extra.filter (·.1 ≠ "msg") }

end Record

end CommonPurse.Log
