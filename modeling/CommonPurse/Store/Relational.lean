import CommonPurse.Store.Memory
import CommonPurse.Store.Relational.Session

/-!
# The relational store

The operations of a store over the tables of a database. Every failure underneath is told as an
error of the operation, which names what the operation was about.

## Main definitions

* `CommonPurse.Store.Relational.view` — reads of the committed tables.
* `CommonPurse.Store.Relational.backend` — the operations.
-/

namespace CommonPurse.Store.Relational

/-! ## Errors -/

/-- A named identifier in an error. -/
def about (name : String) (i : Id) : List (String × Json) := [(name, .text i.text)]

/-- A read has failed. -/
def fetchFailed (what : String) (details : List (String × Json)) : Error :=
  ⟨.fetch, "Failed to fetch " ++ what, details⟩

/-- What a transaction of another store is told. -/
def foreignError : Error := .foreign "SQL"

/-- A write has failed. -/
def writeFailed : Write → Error
  | .saveUser u => ⟨.insertion, "Failed to save user", about "user_id" u.id⟩
  | .deleteUser i => ⟨.deletion, "Failed to delete user", about "user_id" i⟩
  | .saveCredential _ _ => ⟨.insertion, "Failed to save credentials", []⟩
  | .deleteCredential _ => ⟨.deletion, "Failed to delete credentials", []⟩
  | .saveGroup g => ⟨.insertion, "Failed to save group", about "group_id" g.id⟩
  | .deleteGroup i => ⟨.deletion, "Failed to delete group", about "group_id" i⟩
  | .saveExpense e => ⟨.insertion, "Failed to save expense", about "expense_id" e.id⟩
  | .deleteExpense i => ⟨.deletion, "Failed to delete expense", about "expense_id" i⟩
  | .saveSettlement s => ⟨.insertion, "Failed to save settlement", about "settlement_id" s.id⟩

/-! ## Reads -/

/-- A read of a table that may be gone. -/
def reading {α β : Type} (e : Error) (t : Option α) (f : α → β) : Except Error β :=
  match t with
  | some a => .ok (f a)
  | none => .error e

/-- The stored hash for an address. -/
def credentialFor (t : Table String String) (email : String) : Except Error (Option String) :=
  match t.get? (Text.lower email) with
  | none => .ok none
  | some hash => if hash.isEmpty then .error (.emptyHash email) else .ok (some hash)

/-- A group with its members. -/
def findGroup (d : Database) (i : Id) : Except Error (Option Group) :=
  let failed := fetchFailed "group" (about "group_id" i)
  match d.groups with
  | none => .error failed
  | some groups =>
    match groups.get? i with
    | none => .ok none
    | some row =>
      match d.members with
      | none => .error failed
      | some members => (groupOf i row (Database.membersOf members i)).map some

/-- The open expenses of a group in the order of their times. -/
def openExpenses (t : Table Id Expense) (group : Id) : List Expense :=
  Memory.sortByTime (·.createdAt) (t.values.filter fun e => e.groupId = group ∧ !e.settled)

/-- The settlement of a row that was found, if one was. -/
def settlementOfRow : Option (Id × SettlementRow) → Except Error (Option Settlement)
  | none => .ok none
  | some (i, r) => (settlementOf i r).map some

/-- The row of the last settlement of a group, of several the first. -/
def lastRow (t : Table Id SettlementRow) (group : Id) : Option (Id × SettlementRow) :=
  Memory.latest (fun r => r.2.finish) (t.rows.filter fun r => r.2.groupId = group)

/-- The answers to reads. -/
def view (r : Relational) : View where
  user i := reading (fetchFailed "user" (about "user_id" i)) r.database.users (·.get? i)
  userByEmail email :=
    reading (fetchFailed "user by email" []) r.database.users fun t =>
      t.values.find? fun u => u.email = Text.lower email
  credential email :=
    match r.database.credentials with
    | some t => credentialFor t email
    | none => .error (fetchFailed "credentials" [])
  device i := reading (fetchFailed "device" (about "user_id" i)) r.database.devices (·.get? i)
  group i := findGroup r.database i
  expense i :=
    reading (fetchFailed "expense" (about "expense_id" i)) r.database.expenses (·.get? i)
  unsettled i :=
    reading (fetchFailed "expenses" (about "group_id" i)) r.database.expenses fun t =>
      some (openExpenses t i)
  settlement i :=
    match r.database.settlements with
    | some t => settlementOfRow ((t.get? i).map fun row => (i, row))
    | none => .error (fetchFailed "settlement" (about "settlement_id" i))
  lastSettlement i :=
    match r.database.settlements with
    | some t => (settlementOfRow (lastRow t i)).map some
    | none => .error (fetchFailed "settlement" (about "group_id" i))
  body i :=
    reading (fetchFailed "event" (about "event_id" i)) r.database.events fun t =>
      (t.get? i).map fun row => .document row.document
  processedAt i :=
    match r.database.events with
    | none => .error (fetchFailed "event" (about "event_id" i))
    | some t =>
      match t.get? i with
      | some row => .ok row.processedAt
      | none => .error (.eventNotFound i)

/-! ## Writes -/

/-- Run a step of an open transaction of this store. -/
def within {α : Type} (t : Handle Session) (r : Relational)
    (step : Session → Except Error α × Session × Relational) :
    Except Error α × Handle Session × Relational :=
  match t with
  | .foreign _ => (.error foreignError, t, r)
  | .own s =>
    if s.active then
      match step s with
      | (x, s, r) => (x, .own s, r)
    else (.error .inactive, t, r)

/-- Delete what a write deletes. The members of a group go before the group. -/
def eraseFor (w : Write) (s : Session) (r : Relational) : Bool × Session × Relational :=
  let one (k : Key) (s : Session) (r : Relational) : Bool × Session × Relational :=
    match erase k s r with
    | some (s, r) => (true, s, r)
    | none => (false, s, r)
  match w with
  | .deleteUser i => one (.user i) s r
  | .deleteCredential email => one (.credential (Text.lower email)) s r
  | .deleteExpense i => one (.expense i) s r
  | .deleteGroup i =>
    match eraseMembers i s r with
    | some (s, r) => one (.group i) s r
    | none => (false, s, r)
  | _ => (true, s, r)

/-- The outcome of a write. -/
def outcome (e : Error) (worked : Bool) : Except Error Unit :=
  if worked then .ok () else .error e

/-- Carry out a write in a transaction. -/
def write (w : Write) (t : Handle Session) (r : Relational) :
    Except Error Unit × Handle Session × Relational :=
  within t r fun s =>
    match mergeAll (rowsOf w) s r with
    | (false, s) => (.error (writeFailed w), s, r)
    | (true, s) =>
      match eraseFor w s r with
      | (worked, s, r) => (outcome (writeFailed w) worked, s, r)

/-- Log events: they are inserted together with everything that has been collected. -/
def log (events : List Event) (t : Handle Session) (r : Relational) :
    Except Error Unit × Handle Session × Relational :=
  within t r fun s =>
    match flush { s with inserts := s.inserts ++ events.map eventRow } r with
    | (worked, s, r) =>
      (outcome ⟨.insertion, "Failed to save events", [("count", .integer events.length)]⟩ worked,
        s, r)

/-- Commit a transaction. It is finished in any case. -/
def commit (t : Handle Session) (r : Relational) :
    Except Error Unit × Handle Session × Relational :=
  within t r fun s =>
    match (if s.broken then (false, s, r) else flush s r) with
    | (false, s, r) =>
      (.error ⟨.transaction, "Failed to commit transaction", []⟩, s.closed, release s r)
    | (true, s, r) =>
      (.ok (), s.closed, release s { r with database := seen s r })

/-- Roll a transaction back. -/
def rollback (t : Handle Session) (r : Relational) :
    Except Error Unit × Handle Session × Relational :=
  match t with
  | .foreign _ => (.ok (), .foreign false, r)
  | .own s => if s.active then (.ok (), .own s.closed, release s r) else (.ok (), t, r)

/-! ## Immediate changes -/

/-- Carry out a change in a transaction of its own. -/
def immediately (e : Error) (change : Database → Option Database) (r : Relational) :
    Except Error Unit × Relational :=
  match (if r.writer.isNone then change r.database else none) with
  | some d => (.ok (), { r with database := d })
  | none => (.error e, r)

/-- Remember a device. -/
def saveDevice (user : Id) (device : String) (r : Relational) : Except Error Unit × Relational :=
  let e : Error := ⟨.insertion, "Failed to save device", about "user_id" user⟩
  match r.database.row? (.device user) with
  | none => (.error e, r)
  | some none => immediately e (·.insert? (.device user device)) r
  | some (some (.device _ old)) =>
    if old = device then (.ok (), r)
    else immediately e (·.update? (.device user old) (.device user device)) r
  | some (some _) => (.error e, r)

/-- Forget a device. -/
def removeDevice (user : Id) (r : Relational) : Except Error Unit × Relational :=
  immediately ⟨.deletion, "Failed to remove device", about "user_id" user⟩
    (·.delete? (.device user)) r

/-- Note that an event has been processed. The first time is kept. -/
def markProcessed (event : Id) (now : Timestamp) (r : Relational) :
    Except Error Unit × Relational :=
  let e : Error := ⟨.update, "Failed to mark event processed", about "event_id" event⟩
  match r.database.events with
  | none => (.error e, r)
  | some t =>
    match t.get? event with
    | none => (.error (.eventNotFound event), r)
    | some row =>
      match row.processedAt with
      | some _ => (.ok (), r)
      | none =>
        immediately e (fun d =>
          some (d.place (.event event { row with processedAt := some (storedTime now) }))) r

/-- The operations of the relational store. -/
def backend : Backend Relational Session where
  view := view
  start r := (.ok (.new r.opened), { r with opened := r.opened + 1 })
  isActive := (·.active)
  write := write
  log := log
  commit := commit
  rollback := rollback
  saveDevice := saveDevice
  removeDevice := removeDevice
  markProcessed := markProcessed

end CommonPurse.Store.Relational
