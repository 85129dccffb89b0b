import CommonPurse.Announcement
import CommonPurse.Log.Context
import CommonPurse.Notification.Notifier
import CommonPurse.Service

/-!
# Dispatching events

An announced event is looked up in the log, again and again while it is not there yet, handed to
every processor in the order of their registration, and marked as processed. A processor that
fails does not keep the others from their work.

## Main definitions

* `CommonPurse.Processor` — something that reacts to events.
* `CommonPurse.Dispatcher` — the processors, and how an event is looked up.
* `CommonPurse.Dispatcher.dispatch` — handle one announced event.
* `CommonPurse.Dispatcher.dispatchIn` — the same, with the event in the context of the log.
* `CommonPurse.Dispatcher.drain` — handle what waits in a queue.
* `CommonPurse.Dispatcher.listen` — handle what arrives on a channel.
-/

namespace CommonPurse

open CommonPurse.Store

/-- Something that reacts to events; a reason says why it failed to. -/
structure Processor (σ : Type) where
  name : String
  handle : Event → World σ → Except String Unit × World σ

/-- The processor that tells the members of groups. -/
def Processor.notifier {σ τ : Type} (b : Backend σ τ) : Processor σ where
  name := "Notifier"
  handle e w :=
    match Notification.notify b e w with
    | (.ok (), w) => (.ok (), w)
    | (.error f, w) => (.error f.message, w)

/-- A processor that notes which events it is handed, and then does something else. -/
def Processor.recorder {σ : Type} (label : String) (after : World σ → Except String Unit × World σ) :
    Processor σ where
  name := "Recorder"
  handle e w := after (w.observe (.handed label e.id))

/-- The processors in the order of their registration, the policy of looking events up, and
whether listening has begun. -/
structure Dispatcher (σ : Type) where
  policy : Retry.Policy
  processors : List (Processor σ)
  started : Bool

namespace Dispatcher

variable {σ τ : Type}

/-- How events are looked up unless something else is said: five times, with pauses from a
twentieth of a second up to one second. -/
def usualPolicy : Retry.Policy :=
  { Retry.Policy.usual with
    maxAttempts := 5
    initialDelay := .real (Binary64.ofRatio false 5 100)
    maxDelay := .real (Binary64.ofInt 1) }

/-- What is said about a processor that comes too late. -/
def lateText : String := "Processors must be registered before listening starts"

/-- Register a processor, unless listening has begun. -/
def register (p : Processor σ) (d : Dispatcher σ) : Option (Dispatcher σ) :=
  if d.started then none else some { d with processors := d.processors ++ [p] }

/-- Begin to listen. -/
def start (d : Dispatcher σ) : Dispatcher σ := { d with started := true }

/-! ## Looking events up -/

/-- Why there is no event: it is not in the log, or the log cannot be read. -/
inductive Miss where
  | absent
  | failed (e : Error)
  deriving Inhabited

/-- Look an event up once. -/
def lookup (b : Backend σ τ) (i : Id) (w : World σ) : Except Miss Event :=
  match (b.view w.store).body i with
  | .error e => .error (.failed e)
  | .ok none => .error .absent
  | .ok (some body) =>
    match body.event (w.occasion.ids 0) w.occasion.now with
    | .ok e => .ok e
    | .error e => .error (.failed e)

/-- How many fresh identifiers a lookup takes. -/
def lookupDraws (b : Backend σ τ) (i : Id) (w : World σ) : Nat :=
  match (b.view w.store).body i with
  | .ok (some body) => body.drawn
  | _ => 0

/-- Whether a lookup is repeated. -/
def Miss.isAbsent : Miss → Bool
  | .absent => true
  | .failed _ => false

/-- The message about an event that is not in the log. -/
def absentText (i : Id) : String := "Event " ++ i.text ++ " not found"

/-- The world after a number of pauses, in each of which others may change it. -/
def afterPauses (meanwhile : Nat → World σ → World σ) (w : World σ) : Nat → World σ
  | 0 => w
  | n + 1 => meanwhile (n + 1) (afterPauses meanwhile w n)

/-- What is noted when an event has not come into the log in time. -/
def givenUp (i : Id) (attempts : Nat) (total : Binary64) : List Log.Entry :=
  [Retry.exhaustedEntry "_fetch_once" (absentText i) attempts total,
    .warning "Event not visible in the log, skipping"
      [("attempts", .integer attempts), ("waited", .real (Retry.toThousandths total))]]

/-- What is noted when the log cannot be read. -/
def unreadable (e : Error) : Log.Entry :=
  .error "Failed to fetch event, skipping" [("corrupted_data", .bool e.isCorruption)]

/-! ## Handling one event -/

/-- Hand an event to processors, one after the other. -/
def handAll (e : Event) : List (Processor σ) → World σ → World σ
  | [], w => w
  | p :: rest, w =>
    match p.handle e w with
    | (.ok (), w) => handAll e rest w
    | (.error _, w) =>
      handAll e rest (w.say [.error "Event processor failed" [("processor", .text p.name)]])

/-- Mark an event as processed. -/
def mark (b : Backend σ τ) (i : Id) (w : World σ) : World σ :=
  match b.markProcessed i w.occasion.now w.store with
  | (.ok (), s) => (w.withStore s).say [.debug "Event processed" []]
  | (.error _, s) => (w.withStore s).say [.error "Failed to mark event processed" []]

/-- Handle one announced event; whether it was handed to the processors. `meanwhile` is what
others do during each pause. -/
def dispatch (b : Backend σ τ) (d : Dispatcher σ) (meanwhile : Nat → World σ → World σ) (i : Id)
    (w : World σ) : Except Retry.Fault Bool × World σ :=
  let state := afterPauses meanwhile w
  match Retry.run? d.policy Miss.isAbsent (fun k => lookup b i (state k)) with
  | none => (.ok false, w)
  | some r =>
    let w := state r.delays.length
    let w := { w with trace := w.trace ++ r.delays.map Observation.slept }
    let w := w.draw (lookupDraws b i w)
    match r.ending with
    | .returned e => (.ok true, mark b i (handAll e d.processors w))
    | .refused (.failed e) => (.ok false, w.say [unreadable e])
    | .refused .absent => (.ok false, w)
    | .exhausted _ attempts total => (.ok false, w.say (givenUp i attempts total))
    | .undelayed f => (.error f, w)

/-- Handle one announced event while its identifier is in the context of the log. However that
ends, the identifier is taken out again. -/
def dispatchIn (b : Backend σ τ) (d : Dispatcher σ) (meanwhile : Nat → World σ → World σ) (i : Id)
    (w : World σ) (c : Log.Context) : Except Retry.Fault Bool × World σ × Log.Context :=
  let stamped := c.set [("event_id", .text i.text)]
  match dispatch b d meanwhile i w with
  | (result, w) => (result, w, stamped.remove ["event_id"])

/-- Nobody else does anything. -/
def undisturbed : Nat → World σ → World σ := fun _ w => w

/-! ## Listening -/

/-- Take the next identifier off the queue and handle it; nothing when none waits. -/
def step? (b : Backend σ τ) (d : Dispatcher σ) (w : World σ) :
    Option (Except Retry.Fault Bool × World σ) :=
  w.bus.next?.map fun (i, bus) => dispatch b d undisturbed i { w with bus := bus }

/-- Handle a number of identifiers off the queue. -/
def drainSome (b : Backend σ τ) (d : Dispatcher σ) :
    Nat → World σ → Except Retry.Fault Unit × World σ
  | 0, w => (.ok (), w)
  | n + 1, w =>
    match step? b d w with
    | none => (.ok (), w)
    | some (.ok _, w) => drainSome b d n w
    | some (.error f, w) => (.error f, w)

/-- Handle everything that waits in the queue. -/
def drain (b : Backend σ τ) (d : Dispatcher σ) (w : World σ) :
    Except Retry.Fault Unit × World σ :=
  drainSome b d w.bus.waiting.length w

/-- What arrives on a channel: a message of some type, or the end of the connection. -/
inductive Incoming where
  | message (type : String) (payload : Announcement.Payload)
  | lost

/-- Why listening on a channel ends before the messages do. -/
inductive Interruption where
  | connectionLost
  | undelayed (f : Retry.Fault)
  | unshown (u : Json.Unshown)
  deriving Repr

/-- Handle one message: identifiers of the type `message` are dispatched, the rest is dropped. -/
def receive (b : Backend σ τ) (d : Dispatcher σ) (type : String) (p : Announcement.Payload)
    (w : World σ) : Except Interruption Unit × World σ :=
  if type = "message" then
    match Announcement.receive p with
    | .error u => (.error (.unshown u), w)
    | .ok (none, log) => (.ok (), w.say log)
    | .ok (some i, log) =>
      match dispatch b d undisturbed i (w.say log) with
      | (.ok _, w) => (.ok (), w)
      | (.error f, w) => (.error (.undelayed f), w)
  else (.ok (), w)

/-- Handle messages up to the end of the connection. -/
def receiveAll (b : Backend σ τ) (d : Dispatcher σ) :
    List Incoming → World σ → Except Interruption Unit × World σ
  | [], w => (.ok (), w)
  | .lost :: _, w => (.error .connectionLost, w)
  | .message type p :: rest, w =>
    match receive b d type p w with
    | (.ok (), w) => receiveAll b d rest w
    | (.error i, w) => (.error i, w)

/-- Subscribe to a channel, handle its messages, and close the connection in any case. -/
def listen (b : Backend σ τ) (d : Dispatcher σ) (channel : String) (messages : List Incoming)
    (w : World σ) : Except Interruption Unit × World σ :=
  match receiveAll b d messages (w.observe (.subscribed channel)) with
  | (r, w) => (r, w.observe .disconnected)

end Dispatcher

end CommonPurse
