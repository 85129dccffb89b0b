import CommonPurse.Store.Relational.Database

/-!
# Sessions of the relational store

A transaction collects rows to insert and rows to update, and writes them to its own copy of the
tables when events are saved and when it is committed. Deletes are written at once. Only one
transaction at a time has a copy to write to.

## Main definitions

* `CommonPurse.Store.Relational.Session` — a transaction.
* `CommonPurse.Store.Relational` — the committed tables, and which transaction writes.
* `CommonPurse.Store.Relational.merge`, `flush`, `erase` — collecting, writing and deleting.
-/

namespace CommonPurse.Store

namespace Relational

/-- A transaction: whether it can still be used, whether writing has failed in it, its copy of
the tables once it has written, and the rows that it has collected. A row to update is kept with
what was read. -/
structure Session where
  number : Nat
  active : Bool
  broken : Bool
  working : Option Database
  inserts : List Row
  updates : List (Row × Row)
  deriving Inhabited

/-- A new transaction. -/
def Session.new (number : Nat) : Session := ⟨number, true, false, none, [], []⟩

/-- The transaction when it is finished. -/
def Session.closed (s : Session) : Session := ⟨s.number, false, false, none, [], []⟩

/-- The transaction when writing has failed. -/
def Session.failed (s : Session) : Session := ⟨s.number, s.active, true, none, [], []⟩

end Relational

/-- The relational store: the committed tables, the transaction that writes, and how many
transactions there have been. -/
structure Relational where
  database : Relational.Database
  writer : Option Nat
  opened : Nat
  deriving Inhabited

namespace Relational

/-- A store whose tables are empty. -/
def empty : Relational := ⟨.empty, none, 0⟩

/-- The tables as a transaction sees them. -/
def seen (s : Session) (r : Relational) : Database := s.working.getD r.database

/-- Whether a transaction can write: no other one does. -/
def mayWrite (s : Session) (r : Relational) : Bool :=
  match r.writer with
  | some n => n == s.number
  | none => true

/-- The writing transaction has another copy of the tables. -/
def wrote (s : Session) (r : Relational) (d : Database) : Session × Relational :=
  ({ s with working := some d }, { r with writer := some s.number })

/-- The transaction no longer writes. -/
def release (s : Session) (r : Relational) : Relational :=
  if r.writer = some s.number then { r with writer := none } else r

/-! ## Collecting rows -/

/-- Replace the collected update of a row. -/
def replaceUpdate (row : Row) : List (Row × Row) → List (Row × Row)
  | [] => []
  | (read, new) :: rest =>
    if new.key = row.key then (read, row) :: rest else (read, new) :: replaceUpdate row rest

/-- Collect a row: an update when a row with its key is seen, and an insert otherwise. Inserts
that have been collected are not seen. -/
def merge (row : Row) (s : Session) (r : Relational) : Option Session :=
  if s.broken then none
  else if s.updates.any fun u => u.2.key = row.key then
    some { s with updates := replaceUpdate row s.updates }
  else
    match (seen s r).row? row.key with
    | none => none
    | some none => some { s with inserts := s.inserts ++ [row] }
    | some (some read) => some { s with updates := s.updates ++ [(read, row)] }

/-- Collect rows up to the first one that fails; whether all were collected. -/
def mergeAll : List Row → Session → Relational → Bool × Session
  | [], s, _ => (true, s)
  | row :: rest, s, r =>
    match merge row s r with
    | none => (false, s)
    | some s => mergeAll rest s r

/-! ## Writing rows -/

/-- The place of an update among others: accounts are updated in the order of their
identifiers. -/
def rank : Row → Nat
  | .user u => u.id.value.val
  | _ => 0

/-- Write updates, one after the other. -/
def updateAll : List (Row × Row) → Database → Option Database
  | [], d => some d
  | (read, new) :: rest, d => (d.update? read new).bind (updateAll rest)

/-- Insert rows, one after the other. -/
def insertAll : List Row → Database → Option Database
  | [], d => some d
  | row :: rest, d => (d.insert? row).bind (insertAll rest)

/-- Whether writing the collected rows changes anything. -/
def isClean (s : Session) : Bool :=
  s.inserts.isEmpty && s.updates.all fun u => !Database.differs u.1 u.2

/-- The tables after the collected rows have been written. -/
def flushed? (s : Session) (d : Database) : Option Database :=
  (updateAll (s.updates.mergeSort fun a b => rank a.2 ≤ rank b.2) d).bind (insertAll s.inserts)

/-- Write the collected rows. When that fails, all that the transaction has written is lost. -/
def flush (s : Session) (r : Relational) : Bool × Session × Relational :=
  if s.inserts.isEmpty && s.updates.isEmpty then (true, s, r)
  else if s.broken then (false, s, r)
  else if isClean s then (true, { s with updates := [] }, r)
  else
    match (if mayWrite s r then flushed? s (seen s r) else none) with
    | some d =>
      let (s, r) := wrote { s with inserts := [], updates := [] } r d
      (true, s, r)
    | none => (false, s.failed, release s r)

/-- Delete the row of a key at once. A collected update of it is dropped. -/
def erase (k : Key) (s : Session) (r : Relational) : Option (Session × Relational) :=
  if s.broken || !mayWrite s r then none
  else
    ((seen s r).delete? k).map fun d =>
      wrote { s with updates := s.updates.filter fun u => u.2.key ≠ k } r d

/-- Whether a key is that of a member of a group. -/
def Key.isMemberOf (group : Id) : Key → Bool
  | .member g _ => g = group
  | _ => false

/-- Delete the members of a group at once. Collected updates of them are dropped. -/
def eraseMembers (group : Id) (s : Session) (r : Relational) : Option (Session × Relational) :=
  if s.broken || !mayWrite s r then none
  else
    ((seen s r).deleteMembers? group).map fun d =>
      wrote { s with updates := s.updates.filter fun u => !u.2.key.isMemberOf group } r d

end Relational

end CommonPurse.Store
