import CommonPurse.Store.Backend
import CommonPurse.Store.Table
import CommonPurse.Text.Letter

/-!
# The store in memory

Seven tables, and for each a switch that makes every use of it fail. A transaction stages its
changes; committing it applies all of them, and only when no event that it logs is in the log
already.

## Main definitions

* `CommonPurse.Store.Memory` — the tables and the switches.
* `CommonPurse.Store.Memory.Transaction` — staged changes and the checks that go with them.
* `CommonPurse.Store.Memory.backend` — the operations.
* `CommonPurse.Store.Memory.keys` — the keys of what is stored.
-/

namespace CommonPurse.Store

/-- A row of the event log: when the event occurred, its text, and when it was processed. -/
structure EventRecord where
  occurredAt : Timestamp
  text : String
  processedAt : Option Timestamp
  deriving DecidableEq, Repr, Inhabited

namespace Memory

/-! ## Contents -/

/-- What is stored. Credentials belong to addresses in lower case. -/
structure Contents where
  users : Table Id User
  credentials : Table String String
  devices : Table Id String
  groups : Table Id Group
  expenses : Table Id Expense
  settlements : Table Id Settlement
  events : Table Id EventRecord
  deriving DecidableEq, Repr, Inhabited

/-- Nothing is stored. -/
def Contents.empty : Contents :=
  ⟨.empty, .empty, .empty, .empty, .empty, .empty, .empty⟩

/-- A staged change. -/
inductive Change where
  | write (w : Write)
  | log (event : Id) (record : EventRecord)
  deriving DecidableEq, Repr, Inhabited

namespace Contents

/-- Carry out a write. -/
def write (c : Contents) : Write → Contents
  | .saveUser u => { c with users := c.users.put u.id u }
  | .deleteUser i => { c with users := c.users.erase i }
  | .saveCredential email hash =>
    { c with credentials := c.credentials.put (Text.lower email) hash }
  | .deleteCredential email => { c with credentials := c.credentials.erase (Text.lower email) }
  | .saveGroup g => { c with groups := c.groups.put g.id g }
  | .deleteGroup i => { c with groups := c.groups.erase i }
  | .saveExpense e => { c with expenses := c.expenses.put e.id e }
  | .deleteExpense i => { c with expenses := c.expenses.erase i }
  | .saveSettlement s => { c with settlements := c.settlements.put s.id s }

/-- Carry out a staged change. -/
def apply (c : Contents) : Change → Contents
  | .write w => c.write w
  | .log i r => { c with events := c.events.put i r }

/-- Carry out staged changes in their order. -/
def applyAll (c : Contents) (changes : List Change) : Contents := changes.foldl apply c

end Contents

/-- The record of an event that has not been processed. -/
def recordOf (e : Event) : EventRecord := ⟨e.occurredAt, e.encode, none⟩

/-! ## Transactions -/

/-- A transaction: its changes in the order in which they were staged, the identifiers that must
not be in the log when it is committed, and whether it is still open. -/
structure Transaction where
  changes : List Change
  checks : List (List Id)
  active : Bool
  deriving DecidableEq, Repr, Inhabited

/-- A new transaction. -/
def Transaction.new : Transaction := ⟨[], [], true⟩

/-- A finished transaction. -/
def Transaction.closed : Transaction := ⟨[], [], false⟩

/-- Stage a change. -/
def Transaction.stage (t : Transaction) (c : Change) : Transaction :=
  { t with changes := t.changes ++ [c] }

/-- Check again at the commit that identifiers are new. -/
def Transaction.require (t : Transaction) (ids : List Id) : Transaction :=
  { t with checks := t.checks ++ [ids] }

end Memory

/-- The store in memory: its contents, and the collections that are switched off. -/
structure Memory where
  contents : Memory.Contents
  crashed : List Repository
  deriving DecidableEq, Repr, Inhabited

namespace Memory

/-- A store without contents. -/
def empty (crashed : List Repository) : Memory := ⟨.empty, crashed⟩

/-- Switch a collection off, or on again. -/
def setCrashed (m : Memory) (r : Repository) (on : Bool) : Memory :=
  if on then { m with crashed := r :: m.crashed.filter (· ≠ r) }
  else { m with crashed := m.crashed.filter (· ≠ r) }

/-- Whether a collection is switched off. -/
def isCrashed (m : Memory) (r : Repository) : Bool := m.crashed.contains r

/-- A read of a collection, which fails when the collection is switched off. -/
def reading {α : Type} (m : Memory) (r : Repository) (a : α) : Except Error α :=
  if m.isCrashed r then .error .crashed else .ok a

/-! ## Order in time -/

/-- Put an item into a list that is ordered by time, behind those of the same time. -/
def insertByTime {α : Type} (time : α → Timestamp) (a : α) : List α → List α
  | [] => [a]
  | b :: rest =>
    if (time a).instant < (time b).instant then a :: b :: rest
    else b :: insertByTime time a rest

/-- Whether all times are with an offset, or all are without one. -/
def comparable (times : List Timestamp) : Bool :=
  times.all (·.offset.isSome) || times.all (·.offset.isNone)

/-- The items in the order of their times; those of one time keep their order. -/
def sortByTime {α : Type} (time : α → Timestamp) (items : List α) : List α :=
  items.foldl (fun sorted a => insertByTime time a sorted) []

/-- The latest item, of several the first. -/
def latest {α : Type} (time : α → Timestamp) : List α → Option α
  | [] => none
  | a :: rest => some (rest.foldl
      (fun best b => if (time best).instant < (time b).instant then b else best) a)

/-! ## Reads -/

/-- The open expenses of a group. -/
def openExpenses (c : Contents) (group : Id) : List Expense :=
  c.expenses.values.filter fun e => e.groupId = group ∧ !e.settled

/-- The settlements of a group. -/
def settlementsOf (c : Contents) (group : Id) : List Settlement :=
  c.settlements.values.filter fun s => s.groupId = group

/-- The stored hash for an address. -/
def credentialFor (c : Contents) (email : String) : Except Error (Option String) :=
  match c.credentials.get? (Text.lower email) with
  | none => .ok none
  | some hash => if hash.isEmpty then .error (.emptyHash email) else .ok (some hash)

/-- The answers to reads. -/
def view (m : Memory) : View where
  user i := m.reading .users (m.contents.users.get? i)
  userByEmail email :=
    m.reading .users (m.contents.users.values.find? fun u => u.email = Text.lower email)
  credential email :=
    if m.isCrashed .credentials then .error .crashed else credentialFor m.contents email
  device i := m.reading .devices (m.contents.devices.get? i)
  group i := m.reading .groups (m.contents.groups.get? i)
  expense i := m.reading .expenses (m.contents.expenses.get? i)
  unsettled i :=
    let es := openExpenses m.contents i
    m.reading .expenses
      (if comparable (es.map (·.createdAt)) then some (sortByTime (·.createdAt) es) else none)
  settlement i := m.reading .settlements (m.contents.settlements.get? i)
  lastSettlement i :=
    let ss := settlementsOf m.contents i
    m.reading .settlements
      (if comparable (ss.map (·.finish)) then some (latest (·.finish) ss) else none)
  body i := m.reading .events ((m.contents.events.get? i).map fun r => .text r.text)
  processedAt i :=
    if m.isCrashed .events then .error .crashed
    else
      match m.contents.events.get? i with
      | some r => .ok r.processedAt
      | none => .error (.eventNotFound i)

/-! ## Writes -/

/-- What a transaction of another store is told. -/
def foreignError : Error := .foreign "in-memory"

/-- Stage a change to a collection. -/
def stage (m : Memory) (r : Repository) (c : Change) (t : Handle Transaction) :
    Except Error Unit × Handle Transaction :=
  if m.isCrashed r then (.error .crashed, t)
  else
    match t with
    | .foreign _ => (.error foreignError, t)
    | .own u => if u.active then (.ok (), .own (u.stage c)) else (.error .inactive, t)

/-- The identifiers that are in the log. -/
def taken (c : Contents) (ids : List Id) : List Id := ids.filter c.events.contains

/-- Whether identifiers are new: none of them is in the log, and none of them comes twice. -/
def checkNew (c : Contents) (ids : List Id) : Except Error Unit :=
  let old := taken c ids
  if old.isEmpty then
    if ids.Nodup then .ok () else .error (.alreadyLogged ids)
  else .error (.alreadyLogged old)

/-- Stage the records of events. -/
def stageEvents (m : Memory) : List Event → Handle Transaction →
    Except Error Unit × Handle Transaction
  | [], t => (.ok (), t)
  | e :: es, t =>
    match m.stage .events (.log e.id (recordOf e)) t with
    | (.ok (), t) => stageEvents m es t
    | (.error f, t) => (.error f, t)

/-- Have identifiers checked again at the commit. -/
def requireNew (ids : List Id) : Handle Transaction → Handle Transaction
  | .own u => .own (u.require ids)
  | t => t

/-- Log events: they must be new, and they are checked again at the commit. -/
def log (m : Memory) (events : List Event) (t : Handle Transaction) :
    Except Error Unit × Handle Transaction :=
  if m.isCrashed .events then (.error .crashed, t)
  else
    match checkNew m.contents (events.map (·.id)) with
    | .error f => (.error f, t)
    | .ok () =>
      match m.stageEvents events t with
      | (.error f, t) => (.error f, t)
      | (.ok (), t) => (.ok (), requireNew (events.map (·.id)) t)

/-- The first check that fails. -/
def runChecks (c : Contents) : List (List Id) → Except Error Unit
  | [] => .ok ()
  | ids :: rest =>
    match checkNew c ids with
    | .ok () => runChecks c rest
    | .error f => .error f

/-- Commit a transaction. When a check fails nothing is changed and the transaction stays open. -/
def commit (t : Handle Transaction) (m : Memory) :
    Except Error Unit × Handle Transaction × Memory :=
  match t with
  | .foreign _ => (.error foreignError, t, m)
  | .own u =>
    if u.active then
      match runChecks m.contents u.checks with
      | .error f => (.error f, t, m)
      | .ok () =>
        (.ok (), .own .closed, { m with contents := m.contents.applyAll u.changes })
    else (.error .inactive, t, m)

/-- Roll a transaction back. -/
def rollback (t : Handle Transaction) (m : Memory) :
    Except Error Unit × Handle Transaction × Memory :=
  match t with
  | .foreign _ => (.ok (), .foreign false, m)
  | .own _ => (.ok (), .own .closed, m)

/-! ## Immediate changes -/

/-- Remember a device. -/
def saveDevice (user : Id) (device : String) (m : Memory) : Except Error Unit × Memory :=
  if m.isCrashed .devices then (.error .crashed, m)
  else
    (.ok (), { m with contents :=
      { m.contents with devices := m.contents.devices.put user device } })

/-- Forget a device. -/
def removeDevice (user : Id) (m : Memory) : Except Error Unit × Memory :=
  if m.isCrashed .devices then (.error .crashed, m)
  else
    (.ok (), { m with contents :=
      { m.contents with devices := m.contents.devices.erase user } })

/-- Note that an event has been processed. The first time is kept. -/
def markProcessed (event : Id) (now : Timestamp) (m : Memory) : Except Error Unit × Memory :=
  if m.isCrashed .events then (.error .crashed, m)
  else
    match m.contents.events.get? event with
    | none => (.error (.eventNotFound event), m)
    | some r =>
      let r := { r with processedAt := some (r.processedAt.getD now) }
      (.ok (), { m with contents :=
        { m.contents with events := m.contents.events.put event r } })

/-- The keys of a collection. -/
def keys (m : Memory) : Repository → List String
  | .users => m.contents.users.keys.map Id.text
  | .credentials => m.contents.credentials.keys
  | .devices => m.contents.devices.keys.map Id.text
  | .groups => m.contents.groups.keys.map Id.text
  | .expenses => m.contents.expenses.keys.map Id.text
  | .settlements => m.contents.settlements.keys.map Id.text
  | .events => m.contents.events.keys.map Id.text

/-- Put a text in the place of a stored event. -/
def overwriteEvent (m : Memory) (event : Id) (text : String) : Memory :=
  match m.contents.events.get? event with
  | some r =>
    { m with contents :=
      { m.contents with events := m.contents.events.put event { r with text := text } } }
  | none => m

/-- The operations of the store in memory. -/
def backend : Backend Memory Transaction where
  view := view
  start m := (.ok .new, m)
  isActive := (·.active)
  write w t m :=
    match m.stage w.repository (.write w) t with
    | (r, t) => (r, t, m)
  log es t m :=
    match m.log es t with
    | (r, t) => (r, t, m)
  commit := commit
  rollback := rollback
  saveDevice := saveDevice
  removeDevice := removeDevice
  markProcessed := markProcessed

end Memory

end CommonPurse.Store
