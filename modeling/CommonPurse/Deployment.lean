import CommonPurse.Race
import CommonPurse.Settings
import CommonPurse.Store.Error
import CommonPurse.Store.Relational.Address

/-!
# Deployments

The settings say which store, which bus and which transport of notifications the parts of the
program share. These are opened one after the other, the parts run until one of them ends, and
then what has been opened is closed in the opposite order.

## Main definitions

* `CommonPurse.Deployment` — what the parts share.
* `CommonPurse.Deployment.Happening` — what happens while the program runs.
* `CommonPurse.Deployment.build` — open what the settings ask for.
* `CommonPurse.Deployment.run?` — run the parts.
-/

namespace CommonPurse

/-- Where requests are served, and whether each of them is noted. -/
structure Endpoint where
  host : String
  port : Int
  accessLog : Bool
  title : String
  deriving DecidableEq, Repr, Inhabited

/-- What the parts of the program share. -/
structure Deployment where
  relational : Bool
  bus : Bus
  notifications : Option Notification.Transport
  policy : Retry.Policy
  endpoint : Endpoint

namespace Deployment

/-- Something that is opened and has to be closed. -/
inductive Resource where
  | store
  | transport
  | notifications
  deriving DecidableEq, Repr, Inhabited

/-- What a resource is called. -/
def Resource.name : Resource → String
  | store => "store"
  | transport => "transport"
  | notifications => "notifications"

/-- What happens while the program runs. A resource that fails to close is stuck. -/
inductive Happening (ε : Type) where
  | logged (entry : Log.Entry)
  | opened (resource : Resource)
  | began (part : String)
  | ended (part : String) (how : Race.Ending ε)
  | closed (resource : Resource)
  | stuck (resource : Resource)
  deriving Inhabited

/-- Why the resources cannot be opened. -/
inductive Fault where
  /-- The settings lack something, or hold something that cannot be used. -/
  | unusable (text : String)
  /-- The address of the database cannot be used. -/
  | address (fault : Store.Relational.AddressFault)
  /-- The tables cannot be created. -/
  | schema (error : Store.Error)
  deriving Inhabited

variable {ε : Type}

/-! ## Opening -/

/-- What is wrong when tables cannot be created. -/
def schemaError : Store.Error := ⟨.transaction, "Failed to create schema", []⟩

/-- What is noted when tables have been created. -/
def schemaEntry : Log.Entry := .info "Database schema ensured" []

/-- What is noted about a store in a database. -/
def databaseEntry (s : Settings.Store) : Log.Entry :=
  .info "Using relational store" [("pool_size", .integer s.poolSize)]

/-- Open the store; `reaches` tells which databases can be reached. -/
def openStore (reaches : String → Bool) (s : Settings.Store) :
    List (Happening ε) × Except Fault Unit :=
  if s.usesDatabase then
    match s.url with
    | .error text => ([], .error (.unusable text))
    | .ok url =>
      match Store.Relational.addressFault? url with
      | some fault => ([], .error (.address fault))
      | none =>
        if s.createSchema then
          if reaches url then
            ([.opened .store, .logged schemaEntry, .logged (databaseEntry s)], .ok ())
          else ([.opened .store], .error (.schema schemaError))
        else ([.opened .store, .logged (databaseEntry s)], .ok ())
  else ([.logged (.info "Using in-memory store" []), .opened .store], .ok ())

/-- What is noted about a bus. -/
def busEntry : Bus → Log.Entry
  | .queue _ _ => .info "Using in-process event bus" []
  | .channel name _ _ => .info "Using Redis event bus" [("channel", .text name)]

/-- Open the bus. -/
def openBus (s : Settings.EventBus) : List (Happening ε) × Except Fault Bus :=
  match s.bus with
  | .error text => ([], .error (.unusable text))
  | .ok bus => ([.opened .transport, .logged (busEntry bus)], .ok bus)

/-- Whether a transport of notifications has to be closed: only a push service does. -/
def isClosable : Option Notification.Transport → Bool
  | some (.push ..) => true
  | _ => false

/-- The processors for a transport of notifications. -/
def processors (notifications : Option Notification.Transport) : List String :=
  if notifications.isSome then ["Notifier"] else []

/-- What is noted about the processors for a transport of notifications. -/
def processorEntry (notifications : Option Notification.Transport) : Log.Entry :=
  match processors notifications with
  | name :: _ => .info "Registered event processor" [("processor", .text name)]
  | [] => .info "Notifications disabled, events will only be marked processed" []

/-- Open the transport of notifications. -/
def openNotifications (s : Settings.Notifications) :
    List (Happening ε) × Except Fault (Option Notification.Transport) :=
  match s.transport with
  | .error text => ([], .error (.unusable text))
  | .ok n =>
    ((if isClosable n then [.opened .notifications] else []) ++ [.logged (processorEntry n)], .ok n)

/-- Where the settings say that requests are served. -/
def endpointOf (s : Settings.App) : Endpoint := ⟨s.host, s.port, s.debug, s.title⟩

/-- Open what the settings ask for: the store, the bus and the transport of notifications. What
comes before a failure stays open. -/
def build (reaches : String → Bool) (s : Settings) :
    List (Happening ε) × Except Fault Deployment :=
  match openStore reaches s.store with
  | (first, .error f) => (first, .error f)
  | (first, .ok ()) =>
    match openBus s.eventBus with
    | (second, .error f) => (first ++ second, .error f)
    | (second, .ok bus) =>
      match openNotifications s.notifications with
      | (third, .error f) => (first ++ second ++ third, .error f)
      | (third, .ok n) =>
        (first ++ second ++ third,
          .ok ⟨s.store.usesDatabase, bus, n, s.eventBus.policy, endpointOf s.app⟩)

/-! ## Running -/

/-- How the parts end by themselves, if they are wanted at all, which databases can be reached, and
which resources fail to close. -/
structure Conditions (ε : Type) where
  serving : Option (Option (Race.Ending ε))
  working : Option (Option (Race.Ending ε))
  reaches : String → Bool
  closing : Resource → Option ε

/-- The part that handles events. -/
def workerName : String := "worker"

/-- The parts: one serves requests, one handles events. -/
def Conditions.parts (c : Conditions ε) : List (Race.Part ε) :=
  (c.serving.map (Race.Part.mk "api")).toList ++ (c.working.map (Race.Part.mk workerName)).toList

/-- What a part says when it begins. -/
def greeting (d : Deployment) (part : String) : List (Happening ε) :=
  if part = workerName then
    [.logged (.info "Event worker started"
      [("processors", .integer (processors d.notifications).length)])]
  else []

/-- What a part does at its end. -/
def ends (part : String) (how : Race.Ending ε) : List (Happening ε) :=
  (if part = workerName then [.logged (.info "Event worker stopped" [])] else []) ++
    [.ended part how]

/-- What a part does until one of them has ended. -/
def begins (d : Deployment) (p : Race.Part ε) : List (Happening ε) :=
  .began p.name :: (greeting d p.name ++ (p.ending.map (ends p.name)).getD [])

/-- What a part does when it is cancelled, unless it has ended. -/
def ceases (p : Race.Part ε) : List (Happening ε) :=
  if p.isDone then [] else ends p.name .cancelled

/-- What is to be closed, in the order in which that is done. -/
def resources (d : Deployment) : List Resource :=
  (if isClosable d.notifications then [.notifications] else []) ++ [.transport, .store]

/-- Close resources up to the first one that fails to close. -/
def close (fails : Resource → Option ε) : List Resource → List (Happening ε) × Option ε
  | [] => ([], none)
  | r :: rest =>
    match fails r with
    | some e => ([.stuck r], some e)
    | none =>
      match close fails rest with
      | (hs, e) => (.closed r :: hs, e)

/-- Why a run ends with an error. -/
inductive Stop (ε : Type) where
  | unbuilt (fault : Fault)
  /-- There is no part to run. -/
  | nobody
  | failed (error : ε)
  | unclosed (error : ε)
  deriving Inhabited

/-- What has happened in a run, what the parts shared, and how the run ends. -/
structure Run (ε : Type) where
  happenings : List (Happening ε)
  shared : Option Deployment
  result : Except (Stop ε) Unit

/-- How a run ends after its parts. -/
def verdict (parts : List (Race.Part ε)) : Except (Stop ε) Unit :=
  if parts.isEmpty then .error .nobody
  else
    match Race.failure? parts with
    | some e => .error (.failed e)
    | none => .ok ()

/-- What happens from the beginning of the parts until all of them have ended. -/
def race (d : Deployment) (parts : List (Race.Part ε)) : List (Happening ε) :=
  parts.flatMap (begins d) ++ (Race.log parts).map .logged ++ parts.flatMap ceases

/-- Run the parts over what the settings ask for, and close that in any case. There is no result
when no part ends by itself. The run as a whole is not cancelled from outside, and no part ends the
process (`Race.Ending`). -/
def run? (s : Settings) (c : Conditions ε) : Option (Run ε) :=
  match build c.reaches s with
  | (opening, .error f) => some ⟨opening, none, .error (.unbuilt f)⟩
  | (opening, .ok d) =>
    let parts := c.parts
    if parts.isEmpty || Race.isOver parts then
      match close c.closing d.resources with
      | (closing, fault) =>
        some ⟨opening ++ race d parts ++ closing, some d,
          match fault with
          | some e => .error (.unclosed e)
          | none => verdict parts⟩
    else none

/-- What a run notes. -/
def Run.log (r : Run ε) : List Log.Entry :=
  r.happenings.filterMap fun
    | .logged e => some e
    | _ => none

/-- What a run closes. -/
def Run.closed (r : Run ε) : List Resource :=
  r.happenings.filterMap fun
    | .closed x => some x
    | _ => none

end Deployment

end CommonPurse
