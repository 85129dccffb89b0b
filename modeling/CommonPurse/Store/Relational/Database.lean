import CommonPurse.Store.Relational.Row

/-!
# The tables of the relational store

Eight tables, each of which may be gone. A statement fails when its table is gone, when a row of
the same key is there already, or when another account has the same address.

## Main definitions

* `CommonPurse.Store.Relational.Database` — the tables.
* `CommonPurse.Store.Relational.Database.row?` — the row of a key.
* `CommonPurse.Store.Relational.Database.insert?`, `update?`, `delete?` — the statements.
* `CommonPurse.Store.Relational.Database.drop`, `overwriteEvent`, `overwriteColor`,
  `overwriteSettlement` — damage.
-/

namespace CommonPurse.Store.Relational

/-- The tables; nothing stands for a table that is gone. -/
structure Database where
  users : Option (Table Id User)
  credentials : Option (Table String String)
  devices : Option (Table Id String)
  groups : Option (Table Id GroupRow)
  members : Option (Table (Id × Id) MemberRow)
  expenses : Option (Table Id Expense)
  settlements : Option (Table Id SettlementRow)
  events : Option (Table Id EventRow)
  deriving Inhabited

namespace Database

/-- All tables are there, and empty. -/
def empty : Database :=
  ⟨some .empty, some .empty, some .empty, some .empty, some .empty, some .empty, some .empty,
    some .empty⟩

/-! ## Looking rows up -/

/-- The row of a key, if there is one; nothing when the table is gone. -/
def row? (d : Database) : Key → Option (Option Row)
  | .user i => d.users.map fun t => (t.get? i).map .user
  | .credential e => d.credentials.map fun t => (t.get? e).map (.credential e)
  | .device i => d.devices.map fun t => (t.get? i).map (.device i)
  | .group i => d.groups.map fun t => (t.get? i).map (.group i)
  | .member g u => d.members.map fun t => (t.get? (g, u)).map (.member g u)
  | .expense i => d.expenses.map fun t => (t.get? i).map .expense
  | .settlement i => d.settlements.map fun t => (t.get? i).map (.settlement i)
  | .event i => d.events.map fun t => (t.get? i).map (.event i)

/-- The members of a group in the order in which they joined, and of one time in the order of
their identifiers. -/
def membersOf (t : Table (Id × Id) MemberRow) (group : Id) : List (Id × MemberRow) :=
  let rows := (t.rows.filter fun r => r.1.1 = group).map fun r => (r.1.2, r.2)
  let byId := rows.mergeSort fun a b => a.1.value ≤ b.1.value
  byId.mergeSort fun a b => a.2.joinedAt.wall ≤ b.2.joinedAt.wall

/-! ## Storing rows -/

/-- What the columns keep of a row; nothing when a column does not take its value. -/
def kept? : Row → Option Row
  | .user u => some (.user { u with createdAt := storedTime u.createdAt })
  | .group i r => some (.group i { r with createdAt := storedTime r.createdAt })
  | .member g u r => some (.member g u { r with joinedAt := storedTime r.joinedAt })
  | .expense e =>
    (storedAmount? e.amount).map fun a =>
      .expense { e with
        amount := a
        createdAt := storedTime e.createdAt
        modifiedAt := e.modifiedAt.map storedTime }
  | .settlement i r =>
    some (.settlement i { r with
      start := r.start.map storedTime
      finish := storedTime r.finish })
  | .event i r =>
    some (.event i { r with
      occurredAt := storedTime r.occurredAt
      processedAt := r.processedAt.map storedTime })
  | r => some r

/-- Whether the address of an account is free: no other account has it. -/
def addressFree (d : Database) : Row → Bool
  | .user u =>
    match d.users with
    | some t => t.values.all fun v => v.id = u.id ∨ v.email ≠ u.email
    | none => true
  | _ => true

/-- Put a row into its table, in the place of a row with its key. -/
def place (d : Database) : Row → Database
  | .user u => { d with users := d.users.map fun t => t.put u.id u }
  | .credential e h => { d with credentials := d.credentials.map fun t => t.put e h }
  | .device i x => { d with devices := d.devices.map fun t => t.put i x }
  | .group i r => { d with groups := d.groups.map fun t => t.put i r }
  | .member g u r => { d with members := d.members.map fun t => t.put (g, u) r }
  | .expense e => { d with expenses := d.expenses.map fun t => t.put e.id e }
  | .settlement i r => { d with settlements := d.settlements.map fun t => t.put i r }
  | .event i r => { d with events := d.events.map fun t => t.put i r }

/-- Insert a row. -/
def insert? (d : Database) (r : Row) : Option Database :=
  match d.row? r.key, kept? r with
  | some none, some k => if d.addressFree k then some (d.place k) else none
  | _, _ => none

/-- Keep the stored value of a column unless the new value differs from the one that was read. -/
def column {α : Type} [DecidableEq α] (read new stored : α) : α :=
  if new = read then stored else new

/-- A stored row with the columns that changed since it was read. Times are always written. -/
def patch (read new stored : Row) : Row :=
  match read, new, stored with
  | .user a, .user b, .user c =>
    .user ⟨c.id, column a.name b.name c.name, column a.email b.email c.email, b.createdAt⟩
  | .group _ a, .group _ b, .group i c =>
    .group i ⟨column a.name b.name c.name, column a.adminId b.adminId c.adminId, b.createdAt⟩
  | .member _ _ a, .member _ _ b, .member g u c =>
    .member g u ⟨column a.name b.name c.name, column a.email b.email c.email,
      column a.isAdmin b.isAdmin c.isAdmin, column a.color b.color c.color, b.joinedAt⟩
  | .expense a, .expense b, .expense c =>
    .expense ⟨c.id, column a.groupId b.groupId c.groupId, column a.memberId b.memberId c.memberId,
      column a.title b.title c.title, column a.amount b.amount c.amount, b.createdAt,
      (if b.modifiedAt.isNone ∧ a.modifiedAt.isNone then c.modifiedAt else b.modifiedAt),
      column a.settled b.settled c.settled⟩
  | _, new, _ => new

/-- Whether a row differs from the one that was read. -/
def differs : Row → Row → Bool
  | .credential _ a, .credential _ b => a ≠ b
  | .device _ a, .device _ b => a ≠ b
  | _, _ => true

/-- Write the changes to a row that was read. The row must still be there. -/
def update? (d : Database) (read new : Row) : Option Database :=
  if differs read new then
    match d.row? new.key, kept? new with
    | some (some stored), some k =>
      let r := patch read k stored
      if d.addressFree r then some (d.place r) else none
    | _, _ => none
  else some d

/-- Delete the row of a key. -/
def delete? (d : Database) (k : Key) : Option Database :=
  match k with
  | .user i => d.users.map fun t => { d with users := some (t.erase i) }
  | .credential e => d.credentials.map fun t => { d with credentials := some (t.erase e) }
  | .device i => d.devices.map fun t => { d with devices := some (t.erase i) }
  | .group i => d.groups.map fun t => { d with groups := some (t.erase i) }
  | .member g u => d.members.map fun t => { d with members := some (t.erase (g, u)) }
  | .expense i => d.expenses.map fun t => { d with expenses := some (t.erase i) }
  | .settlement i => d.settlements.map fun t => { d with settlements := some (t.erase i) }
  | .event i => d.events.map fun t => { d with events := some (t.erase i) }

/-- Delete the rows of the members of a group. -/
def deleteMembers? (d : Database) (group : Id) : Option Database :=
  d.members.map fun t =>
    { d with members := some ⟨t.rows.filter fun r => r.1.1 ≠ group⟩ }

/-! ## Whole tables -/

/-- The database without the table of a name. -/
def drop (d : Database) (table : String) : Database :=
  match table with
  | "users" => { d with users := none }
  | "credentials" => { d with credentials := none }
  | "devices" => { d with devices := none }
  | "groups" => { d with groups := none }
  | "group_members" => { d with members := none }
  | "expenses" => { d with expenses := none }
  | "settlements" => { d with settlements := none }
  | "koru_event" => { d with events := none }
  | _ => d

/-- The keys of a collection, unless its table is gone. -/
def keys (d : Database) : Repository → Option (List String)
  | .users => d.users.map fun t => t.keys.map Id.text
  | .credentials => d.credentials.map (·.keys)
  | .devices => d.devices.map fun t => t.keys.map Id.text
  | .groups => d.groups.map fun t => t.keys.map Id.text
  | .expenses => d.expenses.map fun t => t.keys.map Id.text
  | .settlements => d.settlements.map fun t => t.keys.map Id.text
  | .events => d.events.map fun t => t.keys.map Id.text

/-- Change the row of a key, if there is one. -/
def change {κ α : Type} [DecidableEq κ] (k : κ) (f : α → α) (t : Table κ α) : Table κ α :=
  match t.get? k with
  | some a => t.put k (f a)
  | none => t

/-- Put a document in the place of a stored event. -/
def overwriteEvent (d : Database) (event : Id) (document : Json) : Database :=
  { d with events := d.events.map (change event fun r => { r with document := document }) }

/-- Put a text in the place of a stored colour. -/
def overwriteColor (d : Database) (group user : Id) (color : String) : Database :=
  { d with members := d.members.map (change (group, user) fun r => { r with color := color }) }

/-- Put documents in the place of the transfers and the expenses of a settlement, of either one
only when it is given. -/
def overwriteSettlement (d : Database) (settlement : Id) (transfers expenses : Option Json) :
    Database :=
  { d with settlements := d.settlements.map (change settlement fun r =>
      { r with
        transfers := transfers.getD r.transfers
        expenseIds := expenses.getD r.expenseIds }) }

end Database

end CommonPurse.Store.Relational
