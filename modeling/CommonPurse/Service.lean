import CommonPurse.Command
import CommonPurse.World

/-!
# Carrying out commands

A command is decided on what the store shows, carried out as one unit of work, and then its event
is announced on the bus. A bus that does not take the event changes nothing about the result.

## Main definitions

* `CommonPurse.World.perform` — carry out a command.
* `CommonPurse.World.ask` — answer a query.
* `CommonPurse.World.registerDevice`, `CommonPurse.World.removeDevice` — remember and forget the
  device of a user.
-/

namespace CommonPurse

open CommonPurse.Store

namespace World

variable {σ τ : Type} (b : Backend σ τ)

/-! ## Announcing events -/

/-- The identifiers that a bus has sent on its channel. -/
def sentOn : Bus → Option (String × List Id)
  | .channel name sent _ => some (name, sent)
  | .queue _ _ => none

/-- What others observe of a bus that has changed. -/
def busTrace (old new : Bus) : List Observation :=
  match sentOn old, sentOn new with
  | some (_, before), some (name, after) =>
    (after.drop before.length).map fun i => .sent name i
  | _, _ => []

/-- Hand identifiers to the bus. -/
def publish (ids : List Id) (w : World σ) : Except Bus.PublishError Unit × World σ :=
  match w.bus.publish ids with
  | (r, bus) => (r, { w with bus := bus, trace := w.trace ++ busTrace w.bus bus })

/-- What is noted about the announcement of events. -/
def publishEntry (operation : String) (count : Nat) : Except Bus.PublishError Unit → Log.Entry
  | .ok () => .debug "Published events" [("operation", .text operation), ("count", .integer count)]
  | .error e =>
    .warning "Failed to publish committed events"
      [("operation", .text operation),
        ("event_ids", .array (e.events.map fun i => .text i.text)), ("error", .text e.message)]

/-- Announce committed events; a failure is noted and has no other effect. -/
def announce (operation : String) (events : List Event) (w : World σ) : World σ :=
  if events.isEmpty then w
  else
    match w.publish (events.map (·.id)) with
    | (r, w) => w.say [publishEntry operation events.length r]

/-- Close the connection of the bus, if it has one. -/
def closeBus (w : World σ) : World σ :=
  match w.bus with
  | .channel _ _ _ => w.observe .disconnected
  | .queue _ _ => w

/-! ## Devices -/

/-- Remember the device of a user. A failure is noted and has no other effect. -/
def registerDevice (user : Id) (device : String) (w : World σ) : World σ :=
  match b.saveDevice user device w.store with
  | (.ok (), s) => w.withStore s
  | (.error _, s) =>
    (w.withStore s).say [.error "Failed to register device" [("user_id", .text user.text)]]

/-- Forget the device of a user. A failure is noted and has no other effect. -/
def removeDevice (user : Id) (w : World σ) : World σ :=
  match b.removeDevice user w.store with
  | (.ok (), s) => w.withStore s
  | (.error _, s) =>
    (w.withStore s).say [.error "Failed to remove device" [("user_id", .text user.text)]]

/-- Forget the device of a user, if there is one to forget. -/
def forget (user : Option Id) (w : World σ) : World σ :=
  match user with
  | some u => w.removeDevice b u
  | none => w

/-! ## Commands and queries -/

/-- Carry out a plan. -/
def execute (p : Plan) (w : World σ) : Except Refusal Product × World σ :=
  match b.carryOut p.writes p.events w.store with
  | (.error e, s) =>
    (.error (.problem (.storage p.operation)),
      (w.withStore s).say [storageEntry "Unit of work failed" p.operation e])
  | (.ok (), s) =>
    (.ok p.product,
      (((w.withStore s).announce p.operation p.events).forget b p.forget).say p.notices)

/-- Carry out a command. -/
def perform (c : Command) (w : World σ) : Except Refusal Product × World σ :=
  match c.plan (b.view w.store) w.occasion with
  | .error stop => (.error stop.refusal, w.say stop.log)
  | .ok p =>
    match execute b p w with
    | (r, w) => (r, w.draw p.drawn)

/-- Answer a query. -/
def ask (q : Query) (w : World σ) : Except Refusal Product × World σ :=
  match q.answer (b.view w.store) with
  | .error stop => (.error stop.refusal, w.say stop.log)
  | .ok p => (.ok p, w)

end World

end CommonPurse
