import CommonPurse.Announcement
import CommonPurse.Event.Document
import CommonPurse.Number.Shortest
import CommonPurse.Store.Backend
import CommonPurse.Store.Table

/-!
# Rows of the relational store

How entities are laid out in rows, what a column keeps of a value, and how rows become entities
again. Times are kept as the reading of their clock and come back as universal time; amounts are
kept as binary numbers and come back with two decimals; colours are kept as text, and lists as
documents.

## Main definitions

* `CommonPurse.Store.Relational.Row` — a row of one of the tables.
* `CommonPurse.Store.Relational.Key` — what a row is found by.
* `CommonPurse.Store.Relational.rowsOf` — the rows of an entity.
* `CommonPurse.Store.Relational.groupOf`, `settlementOf` — entities from rows.
-/

namespace CommonPurse.Store.Relational

/-! ## Columns -/

/-- What a column keeps of a time: the reading of the clock, taken as universal time. -/
def storedTime (t : Timestamp) : Timestamp := .utc t.wall

/-- An amount as it comes back from its column: the nearest binary number, with two decimals. A
column does not take what is no number. -/
def storedAmount? : Decimal → Option Decimal
  | .finite n c e =>
    let x := Binary64.ofDecimal n c e
    if x.isZero then some (.finite false 0 (-2)) else Decimal.parse? (x.fixedText 2)
  | .infinite n => some (.infinite n)
  | _ => none

/-! ## Rows -/

/-- The row of a group without its members. -/
structure GroupRow where
  name : String
  adminId : Id
  createdAt : Timestamp
  deriving DecidableEq, Repr, Inhabited

/-- The row of a member of a group. -/
structure MemberRow where
  name : String
  email : String
  isAdmin : Bool
  color : String
  joinedAt : Timestamp
  deriving DecidableEq, Repr, Inhabited

/-- The row of a settlement. -/
structure SettlementRow where
  groupId : Id
  start : Option Timestamp
  finish : Timestamp
  transfers : Json
  expenseIds : Json
  deriving Inhabited

/-- The row of an event. -/
structure EventRow where
  occurredAt : Timestamp
  processedAt : Option Timestamp
  document : Json
  deriving Inhabited

/-- A row of one of the tables, with its key. -/
inductive Row where
  | user (u : User)
  | credential (email hash : String)
  | device (user : Id) (device : String)
  | group (id : Id) (row : GroupRow)
  | member (group user : Id) (row : MemberRow)
  | expense (e : Expense)
  | settlement (id : Id) (row : SettlementRow)
  | event (id : Id) (row : EventRow)
  deriving Inhabited

/-- What a row is found by. -/
inductive Key where
  | user (user : Id)
  | credential (email : String)
  | device (user : Id)
  | group (group : Id)
  | member (group user : Id)
  | expense (expense : Id)
  | settlement (settlement : Id)
  | event (event : Id)
  deriving DecidableEq, Repr, Inhabited

/-- The key of a row. -/
def Row.key : Row → Key
  | .user u => .user u.id
  | .credential email _ => .credential email
  | .device i _ => .device i
  | .group i _ => .group i
  | .member g u _ => .member g u
  | .expense e => .expense e.id
  | .settlement i _ => .settlement i
  | .event i _ => .event i

/-! ## Entities to rows -/

/-- The row of a member. -/
def memberRow (m : Member) : MemberRow := ⟨m.name, m.email, m.isAdmin, m.color.text, m.joinedAt⟩

/-- The row of a settlement. -/
def settlementRow (s : Settlement) : SettlementRow :=
  ⟨s.groupId, s.start, s.finish, .array (s.transfers.map Transfer.document),
    .array (s.expenseIds.map fun i => .text i.text)⟩

/-- The rows of a group: its own, and one for each member. -/
def groupRows (g : Group) : List Row :=
  .group g.id ⟨g.name, g.adminId, g.createdAt⟩ :: g.members.map fun m => .member g.id m.id (memberRow m)

/-- The rows that a write saves. -/
def rowsOf : Write → List Row
  | .saveUser u => [.user u]
  | .saveCredential email hash => [.credential (Text.lower email) hash]
  | .saveGroup g => groupRows g
  | .saveExpense e => [.expense e]
  | .saveSettlement s => [.settlement s.id (settlementRow s)]
  | _ => []

/-- The row of an event that has not been processed. -/
def eventRow (e : Event) : Row := .event e.id ⟨e.occurredAt, none, e.document⟩

/-! ## Rows to entities -/

/-- A stored colour is no colour. -/
def badColor (group : Id) (color : String) : Error :=
  ⟨.corruption, "Stored member color is invalid",
    [("group_id", .text group.text), ("color", .text color)]⟩

/-- The member of a row. -/
def memberOf (group : Id) (user : Id) (r : MemberRow) : Except Error Member :=
  match Color.parse (some r.color) with
  | .ok c => .ok ⟨user, group, r.name, r.email, r.isAdmin, c, r.joinedAt⟩
  | .error _ => .error (badColor group r.color)

/-- The members of rows, or the first error in them. -/
def membersOf (group : Id) : List (Id × MemberRow) → Except Error (List Member)
  | [] => .ok []
  | (user, r) :: rest =>
    match memberOf group user r with
    | .error e => .error e
    | .ok m => (membersOf group rest).map (m :: ·)

/-- The group of a row and of the rows of its members. -/
def groupOf (i : Id) (r : GroupRow) (members : List (Id × MemberRow)) : Except Error Group :=
  (membersOf i members).map fun ms => ⟨i, r.name, r.adminId, r.createdAt, ms⟩

/-- The items of a stored list; of an object its names, of a text its characters. -/
def listed? : Json → Option (List Json)
  | .array xs => some xs
  | .object ms => some (ms.map fun m => .text m.1)
  | .text s => some (s.toList.map fun c => .text (String.singleton c))
  | _ => none

/-- The transfers of a stored document. -/
def transfersOf? (d : Json) : Option (List Transfer) :=
  match listed? d with
  | none => none
  | some xs =>
    match Form.Checked.list (Event.readTransfer .document) xs with
    | .ok ts => some ts
    | .faulty _ => none

/-- The identifiers of a stored document. -/
def idsOf? (d : Json) : Option (List Id) :=
  match listed? d with
  | none => none
  | some xs => xs.mapM fun x => x.text?.bind Announcement.read?

/-- The settlement of a row. -/
def settlementOf (i : Id) (r : SettlementRow) : Except Error Settlement :=
  match transfersOf? r.transfers, idsOf? r.expenseIds with
  | some ts, some es => .ok ⟨i, r.groupId, r.start, r.finish, ts, es⟩
  | _, _ =>
    .error ⟨.corruption, "Stored settlement cannot be decoded",
      [("settlement_id", .text i.text)]⟩

end CommonPurse.Store.Relational
