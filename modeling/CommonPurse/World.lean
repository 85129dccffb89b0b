import CommonPurse.Bus
import CommonPurse.Log
import CommonPurse.Notification.Transport
import CommonPurse.Occasion
import CommonPurse.Retry

/-!
# The running program

Everything that lasts from one call to the next, and everything that others can observe of a
call: what is logged, how long it sleeps, what it sends.

## Main definitions

* `CommonPurse.Observation` — one thing that others can observe.
* `CommonPurse.World` — the store, the bus, the transport of notifications, and the observations.
-/

namespace CommonPurse

/-- Something that others can observe. -/
inductive Observation where
  /-- An entry in the log. -/
  | logged (entry : Log.Entry)
  /-- A pause. -/
  | slept (delay : Retry.Quantity)
  /-- A message on a channel. -/
  | sent (channel : String) (event : Id)
  /-- A listener subscribes to a channel. -/
  | subscribed (channel : String)
  /-- A connection to a channel is closed. -/
  | disconnected
  /-- A processor is handed an event. -/
  | handed (processor : String) (event : Id)
  /-- A notification is kept for its recipient. -/
  | notified (recipient : Id) (message : Message)
  /-- A notification is posted to a push service. -/
  | posted (request : Notification.PushRequest)
  deriving Inhabited

/-- The store with states in `σ`, the bus, the transport of notifications, what the current call
can draw on, and what has been observed so far. -/
structure World (σ : Type) where
  store : σ
  bus : Bus
  transport : Notification.Transport
  occasion : Occasion
  trace : List Observation

namespace World

variable {σ : Type}

/-- Observe something. -/
def observe (w : World σ) (o : Observation) : World σ := { w with trace := w.trace ++ [o] }

/-- Log entries. -/
def say (w : World σ) (entries : List Log.Entry) : World σ :=
  { w with trace := w.trace ++ entries.map .logged }

/-- Use up fresh identifiers. -/
def draw (w : World σ) (n : Nat) : World σ := { w with occasion := w.occasion.skip n }

/-- Replace the store. -/
def withStore (w : World σ) (s : σ) : World σ := { w with store := s }

end World

end CommonPurse
