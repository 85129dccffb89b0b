import CommonPurse.Json.Members
import CommonPurse.Log.Context
import CommonPurse.Log.Rotation

/-!
# From loggers to files

Loggers form a tree. A record passes the filters of the logger that is told it, and then goes to
the handlers of all the loggers above it. There is one handler, at the root: a queue. Whatever
comes out of the queue is written to the console and to a file. The filter that adds the context
stands at the root, so it sees the records of the root logger only.

## Main definitions

* `CommonPurse.Log.Configuration` — where records go and how they are written.
* `CommonPurse.Log.Configuration.ofDocument` — the configuration of a document.
* `CommonPurse.Log.Pipeline` — the root logger, the context, the console and the files.
* `CommonPurse.Log.Pipeline.configure`, `setUp` — apply a configuration.
* `CommonPurse.Log.Pipeline.emit` — tell a logger something.
-/

namespace CommonPurse.Log

/-- Where records go and how they are written. -/
structure Configuration where
  level : String
  file : Option String
  json : Bool
  console : Bool
  includeContext : Bool
  limit : Int
  copies : Int
  service : String
  deriving DecidableEq, Repr, Inhabited

/-- The configuration when nothing is chosen. -/
def Configuration.usual : Configuration :=
  ⟨"INFO", none, true, true, true, 10485760, 5, "koru-service"⟩

/-- What a document says about a configuration, over one that holds for what it leaves open. -/
def Configuration.ofDocument (usual : Configuration) (d : Json) : Configuration :=
  ⟨(d.textAt? "log_level").getD usual.level,
    if (d.member? "file_path").isSome then d.textAt? "file_path" else usual.file,
    d.flagOr usual.json "json_logs", d.flagOr usual.console "console_enabled",
    d.flagOr usual.includeContext "include_context",
    (d.integerAt? "file_max_bytes").getD usual.limit,
    (d.integerAt? "file_backup_count").getD usual.copies,
    (d.textAt? "service_name").getD usual.service⟩

/-- The levels that a logger can be set to, with their numbers. -/
def thresholds : List (String × Nat) :=
  [("CRITICAL", 50), ("FATAL", 50), ("ERROR", 40), ("WARN", 30), ("WARNING", 30), ("INFO", 20),
    ("DEBUG", 10), ("NOTSET", 0)]

/-- The number of the level with a name, in any case. -/
def threshold? (name : String) : Option Nat :=
  (thresholds.find? (·.1 == name.map Char.toUpper)).map (·.2)

/-- The name of a threshold. -/
def thresholdName (n : Nat) : String :=
  match n with
  | 50 => "CRITICAL"
  | 40 => "ERROR"
  | 30 => "WARNING"
  | 20 => "INFO"
  | 10 => "DEBUG"
  | _ => "NOTSET"

/-- How records that come out of the queue are written, and where. -/
structure Output where
  layout : Option Layout
  console : Bool
  file : Option LogFile
  deriving Inhabited

/-- The root logger with its threshold, how often the filter of the context stands at it, and its
queue if there is one; whether a configuration has been set up; and what has been written. -/
structure Pipeline where
  threshold : Nat
  filters : Nat
  queue : Option Output
  ready : Bool
  context : Context
  disk : Disk
  console : String
  deriving Inhabited

namespace Pipeline

/-- Nothing is configured. -/
def initial : Pipeline := ⟨30, 0, none, false, .empty, .empty, ""⟩

/-- What is said about a level that is none. -/
def levelText : String := "Unable to configure root logger"

/-- The queue is emptied and removed. -/
def shutdown (p : Pipeline) : Pipeline := { p with queue := none }

/-- The output of a configuration. -/
def outputOf (c : Configuration) : Output :=
  ⟨if c.json then some (.ofService c.service) else none, c.console,
    (c.file.filter (· ≠ "")).map fun path => ⟨path, c.limit, c.copies⟩⟩

/-- Apply a configuration; nothing comes of a level that is none. Filters of earlier
configurations stay. -/
def configure (c : Configuration) (p : Pipeline) : Option Pipeline :=
  (threshold? c.level).map fun n =>
    let o := outputOf c
    { p with
      threshold := n
      filters := if c.includeContext then p.filters + 1 else p.filters
      queue := some o
      disk := match o.file with
        | some f => f.create p.disk
        | none => p.disk }

/-- Apply a configuration unless one has been set up already. -/
def setUp (force : Bool) (c : Configuration) (p : Pipeline) : Option Pipeline :=
  if p.ready && !force then some p else (p.configure c).map fun p => { p with ready := true }

/-- Whether a name is that of the root logger. -/
def isRoot (logger : String) : Bool := logger == "root" || logger == ""

/-- Add fields to the context. -/
def setContext (fields : List (String × Value)) (p : Pipeline) : Pipeline :=
  { p with context := p.context.set fields }

/-- The record as it passes the filters of its logger. -/
def filtered (p : Pipeline) (r : Record) : Record :=
  if isRoot r.logger ∧ 0 < p.filters then p.context.inject r else r

/-- The line of a record that comes out of the queue. -/
def lineOf (o : Output) (r : Record) : Except LineFault String :=
  match r.folded with
  | .error f => .error (.template f)
  | .ok r =>
    match o.layout with
    | some l => l.line r
    | none => r.plainLine

/-- Write a line. -/
def write (o : Output) (line : String) (p : Pipeline) : Pipeline :=
  { p with
    console := if o.console then p.console ++ line ++ "\n" else p.console
    disk := match o.file with
      | some f => f.append line p.disk
      | none => p.disk }

/-- Tell the logger of a record what it says. What is below the threshold is dropped, and so is a
record that has no line. -/
def emit (r : Record) (p : Pipeline) : Pipeline :=
  if r.level.number < p.threshold then p
  else
    match p.queue with
    | none => p
    | some o =>
      match lineOf o (p.filtered r) with
      | .ok line => p.write o line
      | .error _ => p

end Pipeline

end CommonPurse.Log
