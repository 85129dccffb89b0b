import CommonPurse.CommandLine.Grammar
import CommonPurse.Deployment
import CommonPurse.Store.Relational.Catalog

/-!
# The command line

Commands that run the service, and commands that prepare its database.

## Main definitions

* `CommonPurse.CommandLine.Request` — what a command line asks for.
* `CommonPurse.CommandLine.Request.parse` — the request of a command line.
* `CommonPurse.CommandLine.Outcome` — what is printed, how the program exits, what was launched.
* `CommonPurse.CommandLine.run` — do what a command line asks for.
-/

namespace CommonPurse

/-- The service is to be run with some settings, and which of its parts. -/
structure CommandLine.Launch where
  settings : Settings
  api : Bool
  worker : Bool
  deriving Inhabited

namespace CommandLine

open CommonPurse.Store.Relational

/-! ## Usages -/

/-- The option that asks for help. -/
def helpFlag : Flag := ⟨"--help", none, .nothing, "Show this message and exit."⟩

/-- The whole program. -/
def program : Usage where
  path := "koru-service"
  about := ["Koru service management commands.", "", "Quick Start:",
    "  koru-service db upgrade     # Apply migrations",
    "  koru-service serve          # API plus event worker",
    "  koru-service worker         # Standalone worker (Redis bus)"]
  flags := [⟨"--version", none, .nothing, "Show the version and exit."⟩, helpFlag]
  operand := none
  commands := [("db", "Database management commands."), ("serve", "Run the HTTP API."),
    ("worker", "Run only the event worker.")]

/-- A command of the program. -/
def command (name about : String) (flags : List Flag) (operand : Option String)
    (commands : List (String × String)) : Usage :=
  ⟨"koru-service " ++ name, [about], flags ++ [helpFlag], operand, commands⟩

/-- The command that runs the service. -/
def serveUsage : Usage :=
  command "serve" "Run the HTTP API."
    [⟨"--host", none, .text, "Host to bind (default: from settings)"⟩,
      ⟨"--port", none, .integer, "Port to bind (default: from settings)"⟩,
      ⟨"--with-worker", some "--without-worker", .nothing,
        "Run the event worker in the same process"⟩] none []

/-- The command that runs only the worker. -/
def workerUsage : Usage := command "worker" "Run only the event worker." [] none []

/-- The commands for the database. -/
def databaseUsage : Usage :=
  command "db" "Database management commands." [] none
    [("downgrade", "Revert migrations down to REVISION."),
      ("init", "Create every table directly from the models."),
      ("upgrade", "Apply migrations up to REVISION.")]

/-- The command that creates the tables. -/
def initUsage : Usage :=
  command "db init" "Create every table directly from the models." [] none []

/-- The command that applies revisions. -/
def upgradeUsage : Usage :=
  command "db upgrade" "Apply migrations up to REVISION." [] (some "REVISION") []

/-- The command that takes revisions back. -/
def downgradeUsage : Usage :=
  command "db downgrade" "Revert migrations down to REVISION." [] (some "REVISION") []

/-! ## Requests -/

/-- What a command line asks for. -/
inductive Request where
  | serve (host : Option String) (port : Option Int) (withWorker : Bool)
  | work
  | createTables
  | upgrade (target : String)
  | downgrade (target : String)
  deriving DecidableEq, Repr, Inhabited

/-- The version of the program. -/
def versionText : String := "koru-service, version 0.1.0"

namespace Request

/-- The request to run the service. -/
def ofServe (g : Given) : Request :=
  .serve (g.value? "--host") ((g.value? "--port").bind fun v => Text.readInteger? v.toList)
    (g.isOn "--with-worker" "--without-worker")

/-- The request of the words behind `db`. -/
def parseDatabase (words : List String) : Except Reply Request :=
  match databaseUsage.group versionText words with
  | .error reply => .error reply
  | .ok ("init", rest) => (initUsage.leaf rest).map fun _ => .createTables
  | .ok ("upgrade", rest) =>
    (upgradeUsage.leaf rest).map fun g => .upgrade (g.operands.head?.getD "head")
  | .ok (_, rest) =>
    (downgradeUsage.leaf rest).map fun g => .downgrade (g.operands.head?.getD "-1")

/-- The request of a command line, or what is answered instead. -/
def parse (words : List String) : Except Reply Request :=
  match program.group versionText words with
  | .error reply => .error reply
  | .ok ("db", rest) => parseDatabase rest
  | .ok ("serve", rest) => (serveUsage.leaf rest).map ofServe
  | .ok (_, rest) => (workerUsage.leaf rest).map fun _ => .work

end Request

/-! ## Outcomes -/

/-- What a command cannot go on after. -/
inductive Failure where
  | settings (failure : Settings.Failure)
  | address (fault : AddressFault)
  | catalog (fault : Catalog.Fault)
  | unreachable
  deriving Inhabited

/-- What is printed, the failure that ended the command if there is one, how the program exits, and
what was launched. -/
structure Outcome where
  output : String
  errors : String
  failure : Option Failure
  exit : Nat
  launched : Option Launch
  deriving Inhabited

namespace Outcome

/-- Nothing has been printed, and all is well. -/
def quiet : Outcome := ⟨"", "", none, 0, none⟩

/-- Tell that something has been done. -/
def succeed (o : Outcome) (text : String) : Outcome :=
  { o with output := o.output ++ "✓ " ++ text ++ "\n" }

/-- Tell what is being done. -/
def inform (o : Outcome) (text : String) : Outcome :=
  { o with output := o.output ++ "ℹ " ++ text ++ "\n" }

/-- Tell what is wrong, and go on. -/
def warn (o : Outcome) (text : String) : Outcome :=
  { o with errors := o.errors ++ "✗ " ++ text ++ "\n" }

/-- Tell what is wrong, and give up. -/
def giveUp (o : Outcome) (text : String) : Outcome := { o.warn text with exit := 1 }

/-- End with a failure. -/
def fail (o : Outcome) (f : Failure) : Outcome := { o with failure := some f, exit := 1 }

/-- What is answered instead of doing something. -/
def ofReply : Reply → Outcome
  | .told text => { quiet with output := text }
  | .refused text => { quiet with errors := text, exit := 2 }

end Outcome

/-! ## Running the service -/

/-- Launch the service; the launcher answers with the error that ended it, if there is one. -/
def launch (launcher : Launch → Option String) (l : Launch) (o : Outcome) : Outcome :=
  let o := { o with launched := some l }
  match launcher l with
  | none => o
  | some text => o.giveUp ("Stopped: " ++ text)

/-- Settings with another host and another port. -/
def override (s : Settings) (host : Option String) (port : Option Int) : Settings :=
  { s with app := { s.app with host := host.getD s.app.host, port := port.getD s.app.port } }

/-- What is told about the worker when the service is launched. -/
def announceWorker (s : Settings) (withWorker : Bool) (o : Outcome) : Outcome :=
  if withWorker then o.inform ("Event worker enabled (" ++ s.eventBus.backend ++ " bus)")
  else if s.eventBus.usesChannel then o
  else o.warn "The in-process bus has no consumer without the worker; events will stay unprocessed"

/-- Run the service. -/
def serve (launcher : Launch → Option String) (s : Settings) (withWorker : Bool) : Outcome :=
  let place := s.app.host ++ ":" ++ String.ofList (Text.intText s.app.port)
  launch launcher ⟨s, true, withWorker⟩
    (announceWorker s withWorker (Outcome.quiet.inform ("Serving on " ++ place)))

/-- Run only the worker. -/
def work (launcher : Launch → Option String) (s : Settings) : Outcome :=
  if s.eventBus.usesChannel then
    launch launcher ⟨s, false, true⟩
      (Outcome.quiet.inform ("Listening on channel " ++ s.eventBus.channel))
  else Outcome.quiet.giveUp "A standalone worker needs a shared bus; set EVENT_BUS_BACKEND=redis"

/-! ## Preparing the database -/

/-- What is told when there is no database to prepare. -/
def noDatabaseText : String := "Database commands need STORE_BACKEND=postgres and STORE_DATABASE_URL"

/-- Do something to the database at an address, if the settings name one. -/
def withDatabase (source : Settings.Source) (c : Catalog)
    (act : String → Outcome × Catalog) : Outcome × Catalog :=
  match Settings.Store.read (Settings.Section.of source Settings.Store.mark []) with
  | .error faults => (Outcome.quiet.fail (.settings (.faults faults)), c)
  | .ok s =>
    match s.usesDatabase, s.databaseUrl with
    | true, some url => act url.value
    | _, _ => (Outcome.quiet.giveUp noDatabaseText, c)

/-- Create the tables that are missing. -/
def createTables (reaches : String → Bool) (c : Catalog) (url : String) : Outcome × Catalog :=
  match addressFault? url with
  | some f => (Outcome.quiet.fail (.address f), c)
  | none =>
    if reaches url then (Outcome.quiet.succeed "Schema created", c.createAll)
    else
      (Outcome.quiet.giveUp ("Schema creation failed: " ++ Deployment.schemaError.text), c)

/-- Change the revision of a database. -/
def revise (reaches : String → Bool) (c : Catalog) (url : String) (before : Outcome)
    (done : String) (change : Catalog → Except Catalog.Fault Unit × Catalog) :
    Outcome × Catalog :=
  match addressFault? url with
  | some f => (before.fail (.address f), c)
  | none =>
    if reaches url then
      match change c with
      | (.ok (), c) => (before.succeed done, c)
      | (.error f, c) => (before.fail (.catalog f), c)
    else (before.fail .unreachable, c)

/-! ## Doing what is asked for -/

/-- Do what a request asks for: `reaches` tells which databases can be reached, and the catalog is
that of the database that the settings name. -/
def perform (source : Settings.Source) (launcher : Launch → Option String)
    (reaches : String → Bool) (r : Request) (c : Catalog) : Outcome × Catalog :=
  let withSettings (act : Settings → Outcome) : Outcome × Catalog :=
    match Settings.read source [] with
    | .error f => (Outcome.quiet.fail (.settings f), c)
    | .ok s => (act s, c)
  match r with
  | .serve host port withWorker =>
    withSettings fun s => serve launcher (override s host port) withWorker
  | .work => withSettings (work launcher)
  | .createTables => withDatabase source c (createTables reaches c)
  | .upgrade target =>
    withDatabase source c fun url =>
      revise reaches c url (Outcome.quiet.inform ("Upgrading database to " ++ target))
        "Database upgraded" (Catalog.upgrade target)
  | .downgrade target =>
    withDatabase source c fun url =>
      revise reaches c url .quiet ("Database downgraded to " ++ target)
        (Catalog.downgrade target)

/-- Do what a command line asks for. -/
def run (source : Settings.Source) (launcher : Launch → Option String) (reaches : String → Bool)
    (words : List String) (c : Catalog) : Outcome × Catalog :=
  match Request.parse words with
  | .error reply => (.ofReply reply, c)
  | .ok r => perform source launcher reaches r c

end CommandLine

end CommonPurse
