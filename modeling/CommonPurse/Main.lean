import CommonPurse.CommandLine
import CommonPurse.Dispatch
import CommonPurse.Http.Service
import CommonPurse.Store.Document
import CommonPurse.Store.Memory
import CommonPurse.Store.Relational

/-!
# The program

The command line, with settings from the environment. A service that is launched reads requests
from standard input, one JSON document a line, and writes a response to each of them. A request
says at which time it came, in the member `at`; one that does not came with the one before it.

## Main definitions

* `CommonPurse.Program.exchange` — answer one line.
* `main` — the program.
-/

namespace CommonPurse.Program

open CommonPurse.Store

/-! ## Requests, one a line -/

/-- Answer a request, and let the worker handle what it has announced. -/
def exchange {σ τ : Type} (b : Backend σ τ) (service : String) (d : Dispatcher σ) (request : Json)
    (w : World σ) : Json × World σ :=
  match Http.respond b service (Http.Request.ofDocument request) w with
  | (response, w) => (response.document, (d.drain b w).2)

/-- The occasion of a request: the time that it names, and identifiers behind a first one. -/
def occasionOf (request : Json) (first : Nat) (before : Occasion) : Occasion :=
  ⟨(request.timestampAt? "at").getD before.now, fun k => Id.ofNat (first + k)⟩

/-- A random number of 128 bits. -/
def random : IO Nat := do
  let bytes ← IO.getRandomBytes 16
  return bytes.toList.foldl (fun n b => 256 * n + b.toNat) 0

/-- Answer lines until there are no more. -/
partial def serve {σ τ : Type} (b : Backend σ τ) (service : String) (d : Dispatcher σ)
    (w : World σ) : IO Unit := do
  let line ← (← IO.getStdin).getLine
  if line.isEmpty then return
  let request := (Json.parse? line).getD .null
  let w := { w with occasion := occasionOf request (← random) w.occasion, trace := [] }
  let (response, w) := exchange b service d request w
  (← IO.getStdout).putStrLn response.compact
  (← IO.getStdout).flush
  serve b service d w

/-- Serve what has been launched over a store. -/
def serveOver {σ τ : Type} (b : Backend σ τ) (s : σ) (l : CommandLine.Launch) (d : Deployment) :
    IO Unit :=
  let processors := if d.notifications.isSome then [Processor.notifier b] else []
  serve b l.settings.app.serviceName ⟨d.policy, if l.worker then processors else [], true⟩
    ⟨s, d.bus, d.notifications.getD (.memory []), ⟨⟨0, some 0⟩, Id.ofNat⟩, []⟩

/-- Serve what has been launched. -/
def launch (l : CommandLine.Launch) (d : Deployment) : IO Unit :=
  if d.relational then serveOver Relational.backend .empty l d
  else serveOver Memory.backend (.empty []) l d

/-! ## The environment -/

/-- The names of all settings in the environment: a section, and the setting in it. -/
def names : List String :=
  match Settings.read ⟨[], none⟩ [] with
  | .error _ => []
  | .ok s => s.document.members.flatMap fun part =>
    let mark := if part.1 = "logging" then "log" else part.1
    part.2.members.map fun m => (mark ++ "_" ++ m.1).map Char.toUpper

/-- The settings in the environment. -/
def environment : IO (List (String × String)) :=
  names.filterMapM fun name => do return (← IO.getEnv name).map fun value => (name, value)

/-- What is said about resources that cannot be opened. -/
def faultText : Deployment.Fault → String
  | .unusable text => text
  | .address fault => fault.message
  | .schema error => error.text

/-- Print what a command line leads to, and serve what it launches. -/
def run (words : List String) : IO UInt32 := do
  let source : Settings.Source := ⟨← environment, none⟩
  let (outcome, _) :=
    CommandLine.run source (fun _ => none) Relational.isFile words Relational.Catalog.empty
  IO.print outcome.output
  IO.eprint outcome.errors
  match outcome.launched with
  | none => return outcome.exit.toUInt32
  | some l =>
    match (Deployment.build Relational.isFile l.settings : List (Deployment.Happening Empty) × _) with
    | (_, .ok d) => launch l d; return 0
    | (_, .error fault) =>
      IO.eprint (CommandLine.Outcome.quiet.giveUp ("Stopped: " ++ faultText fault)).errors
      return 1

end CommonPurse.Program

/-- The program. -/
def main (words : List String) : IO UInt32 := CommonPurse.Program.run words
