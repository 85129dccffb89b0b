import CommonPurse.Event.Document
import CommonPurse.Store.Error
import CommonPurse.Store.Write

/-!
# What every store can do

Use cases, the dispatcher and the notifier know a store by the operations listed here, so that
one store can stand in for another. Reads show committed data only. Writes go through a
transaction, become visible all at once when it is committed, and are dropped when it is rolled
back.

## Main definitions

* `CommonPurse.Store.View` — the answers of a store to reads.
* `CommonPurse.Store.Handle` — a transaction of a store, or of another one.
* `CommonPurse.Store.Backend` — the operations of a store.
* `CommonPurse.Store.Backend.carryOut` — one unit of work: all writes and events, or nothing.
-/

namespace CommonPurse.Store

/-- The body of a stored event: a text, or a document. -/
inductive Body where
  | text (s : String)
  | document (d : Json)
  deriving Inhabited

namespace Body

/-- The event of a body. The identifier and the time stand in for those that it lacks. -/
def event (b : Body) (fresh : Id) (now : Timestamp) : Except Error Event :=
  match b with
  | .text s =>
    match Event.decode fresh now s with
    | .ok e => .ok e
    | .faulty n => .error (.undecodableEvent n)
  | .document d =>
    match Event.ofDocument .document fresh now d with
    | .ok e => .ok e
    | .faulty n => .error (.undecodableEvent n)

/-- Whether a document of an event leaves its identifier to the reader. -/
def lacksId : Json → Bool
  | .object ms => Event.hasFamily ms && (Json.lookup "id" ms).isNone
  | _ => false

/-- How many fresh identifiers reading a body takes. -/
def drawn (b : Body) : Nat :=
  match b with
  | .text s =>
    match Json.parse? s with
    | some d => if lacksId d then 1 else 0
    | none => 0
  | .document d => if lacksId d then 1 else 0

end Body

/-- The answers of a store to reads. Of the lists that are ordered by time, and of the last
settlement, nothing is known when the times cannot be put in order. -/
structure View where
  user : Id → Except Error (Option User)
  userByEmail : String → Except Error (Option User)
  credential : String → Except Error (Option String)
  device : Id → Except Error (Option String)
  group : Id → Except Error (Option Group)
  expense : Id → Except Error (Option Expense)
  unsettled : Id → Except Error (Option (List Expense))
  settlement : Id → Except Error (Option Settlement)
  lastSettlement : Id → Except Error (Option (Option Settlement))
  body : Id → Except Error (Option Body)
  processedAt : Id → Except Error (Option Timestamp)

/-- A transaction as a store meets it: one of its own, or one of another store, of which it only
sees whether it is active. -/
inductive Handle (τ : Type) where
  | own (transaction : τ)
  | foreign (active : Bool)
  deriving DecidableEq, Repr, Inhabited

/-- The operations of a store with states in `σ` and transactions in `τ`. -/
structure Backend (σ τ : Type) where
  view : σ → View
  start : σ → Except Error τ × σ
  isActive : τ → Bool
  write : Write → Handle τ → σ → Except Error Unit × Handle τ × σ
  log : List Event → Handle τ → σ → Except Error Unit × Handle τ × σ
  commit : Handle τ → σ → Except Error Unit × Handle τ × σ
  rollback : Handle τ → σ → Except Error Unit × Handle τ × σ
  saveDevice : Id → String → σ → Except Error Unit × σ
  removeDevice : Id → σ → Except Error Unit × σ
  markProcessed : Id → Timestamp → σ → Except Error Unit × σ

namespace Backend

variable {σ τ : Type} (b : Backend σ τ)

/-- Whether a transaction can still be used. -/
def isOpen : Handle τ → Bool
  | .own t => b.isActive t
  | .foreign active => active

/-- Hand writes to a transaction, one after the other, up to the first one that fails. -/
def writeAll : List Write → Handle τ → σ → Except Error Unit × Handle τ × σ
  | [], t, s => (.ok (), t, s)
  | w :: ws, t, s =>
    match b.write w t s with
    | (.ok (), t, s) => writeAll ws t s
    | (.error e, t, s) => (.error e, t, s)

/-- Write, log the events, and commit. -/
def writeAndCommit (ws : List Write) (events : List Event) (t : Handle τ) (s : σ) :
    Except Error Unit × Handle τ × σ :=
  match b.writeAll ws t s with
  | (.error e, t, s) => (.error e, t, s)
  | (.ok (), t, s) =>
    match b.log events t s with
    | (.error e, t, s) => (.error e, t, s)
    | (.ok (), t, s) => b.commit t s

/-- Roll a transaction back if it is still open. The error of a rollback replaces the result. -/
def finish {ε α : Type} (onError : Error → ε) (r : Except ε α) (t : Handle τ) (s : σ) :
    Except ε α × Handle τ × σ :=
  if b.isOpen t then
    match b.rollback t s with
    | (.ok (), t, s) => (r, t, s)
    | (.error e, t, s) => (.error (onError e), t, s)
  else (r, t, s)

/-- A unit of work: all writes and events become visible together, or none of them does. -/
def carryOut (ws : List Write) (events : List Event) (s : σ) : Except Error Unit × σ :=
  match b.start s with
  | (.error e, s) => (.error e, s)
  | (.ok t, s) =>
    match b.writeAndCommit ws events (.own t) s with
    | (r, t, s) =>
      match b.finish id r t s with
      | (r, _, s) => (r, s)

end Backend

end CommonPurse.Store
