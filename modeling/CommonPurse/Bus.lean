import CommonPurse.Id

/-!
# Buses

A bus carries the identifiers of committed events from those who produce them to those who react
to them: a queue inside one process, or a channel that others listen to.

## Main definitions

* `CommonPurse.Bus` — a queue or a channel.
* `CommonPurse.Bus.publish` — hand identifiers to the bus, one after the other.
* `CommonPurse.Bus.PublishError` — why the bus stopped taking them.
-/

namespace CommonPurse

/-- A queue with what waits in it and the most it can hold, or a channel with what has been sent
on it and how many more messages its connection carries. -/
inductive Bus where
  | queue (waiting : List Id) (capacity : Option Nat)
  | channel (name : String) (sent : List Id) (remaining : Option Nat)
  deriving DecidableEq, Repr, Inhabited

namespace Bus

/-- A bus has stopped taking identifiers; `events` are those of the whole batch. -/
structure PublishError where
  message : String
  events : List Id
  deriving DecidableEq, Repr, Inhabited

/-- Hand one identifier to the bus, if it takes one. -/
def accept (i : Id) : Bus → Option Bus
  | queue waiting capacity =>
    match capacity with
    | some n =>
      if waiting.length < n then some (queue (waiting ++ [i]) capacity) else none
    | none => some (queue (waiting ++ [i]) none)
  | channel name sent remaining =>
    match remaining with
    | some 0 => none
    | some (n + 1) => some (channel name (sent ++ [i]) (some n))
    | none => some (channel name (sent ++ [i]) none)

/-- Hand identifiers to the bus up to the first one that it does not take; whether it took all. -/
def acceptAll : List Id → Bus → Bool × Bus
  | [], b => (true, b)
  | i :: rest, b =>
    match b.accept i with
    | some b => acceptAll rest b
    | none => (false, b)

/-- What is said when the bus does not take an identifier. -/
def refusalText : Bus → String
  | queue _ _ => "Event queue is full"
  | channel name _ _ => "Failed to publish on " ++ name

/-- Hand a batch of identifiers to the bus. What it took before a failure stays taken. -/
def publish (ids : List Id) (b : Bus) : Except PublishError Unit × Bus :=
  match acceptAll ids b with
  | (true, b) => (.ok (), b)
  | (false, b) => (.error ⟨b.refusalText, ids⟩, b)

/-- The next identifier of a queue, and the queue without it. -/
def next? : Bus → Option (Id × Bus)
  | queue (i :: rest) capacity => some (i, queue rest capacity)
  | _ => none

/-- The identifiers that wait in a queue. -/
def waiting : Bus → List Id
  | queue ids _ => ids
  | channel _ _ _ => []

end Bus

end CommonPurse
