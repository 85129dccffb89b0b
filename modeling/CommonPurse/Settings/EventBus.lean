import CommonPurse.Bus
import CommonPurse.Retry
import CommonPurse.Settings.Source
import CommonPurse.Text.Locator

/-!
# Settings of the event bus

How events are announced, and how long the log is searched for an announced event.

## Main definitions

* `CommonPurse.Settings.EventBus` — the settings.
* `CommonPurse.Settings.EventBus.read` — the settings of a section.
* `CommonPurse.Settings.EventBus.policy` — how an announced event is looked up.
* `CommonPurse.Settings.EventBus.bus` — the bus that they ask for.
-/

namespace CommonPurse.Settings

open CommonPurse.Form (Fields)

/-- How events are announced, and how long the log is searched for one. -/
structure EventBus where
  backend : String
  redisUrl : String
  channel : String
  fetchAttempts : Int
  fetchDelay : Binary64
  fetchMaxDelay : Binary64
  deriving DecidableEq, Repr, Inhabited

namespace EventBus

/-- What the beginning of the names is in the environment. -/
def mark : String := "event_bus_"

/-- The settings of a section. -/
def read (c : Section) : Fields EventBus :=
  (((((Fields.of "" (.ok EventBus.mk)).apply
    (c.choice "backend" "memory" ["memory", "redis"])).apply
    (c.text "redis_url" "redis://localhost:6379/0")).apply
    (c.bounded "channel" "koru-events" (some 1) none none)).apply
    (c.integer "fetch_max_attempts" 5 (some 1) (some 50))).apply
    (c.real "fetch_initial_delay" (.ofRatio false 5 100) (some (.ofInt 0)) (some (.ofInt 10)))
    |>.apply
    (c.real "fetch_max_delay" (.ofInt 1) (some (.ofInt 0)) (some (.ofInt 60)))

/-- How an announced event is looked up. -/
def policy (b : EventBus) : Retry.Policy :=
  { Retry.Policy.usual with
    maxAttempts := b.fetchAttempts
    initialDelay := .real b.fetchDelay
    maxDelay := .real b.fetchMaxDelay }

/-- What is said about an address that is none of a server for channels. -/
def schemeText : String :=
  "Redis URL must specify one of the following schemes (redis://, rediss://, unix://)"

/-- What is wrong with the address of the server for channels. -/
def addressFault? (b : EventBus) : Option String :=
  match Text.scheme b.redisUrl with
  | "redis" | "rediss" => Text.portFault? b.redisUrl
  | "unix" => none
  | _ => some schemeText

/-- Whether events are announced on a channel. -/
def usesChannel (b : EventBus) : Bool := b.backend == "redis"

/-- The bus: a queue without bounds, or a channel. -/
def bus (b : EventBus) : Except String Bus :=
  if b.usesChannel then
    match b.addressFault? with
    | some fault => .error fault
    | none => .ok (.channel b.channel [] none)
  else .ok (.queue [] none)

/-- The settings as a document. -/
def document (b : EventBus) : Json :=
  .object [("backend", .text b.backend), ("redis_url", .text b.redisUrl),
    ("channel", .text b.channel), ("fetch_max_attempts", .integer b.fetchAttempts),
    ("fetch_initial_delay", .real b.fetchDelay), ("fetch_max_delay", .real b.fetchMaxDelay)]

end EventBus

end CommonPurse.Settings
