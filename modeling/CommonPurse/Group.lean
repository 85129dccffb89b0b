import CommonPurse.Account
import CommonPurse.Form
import CommonPurse.Settlement

/-!
# Groups

A group shares expenses among its members. Every change to it checks the acting user, changes
the group, and records one event.

## Main definitions

* `CommonPurse.Member`, `CommonPurse.Group` — a group and its members.
* `CommonPurse.Refusal` — why a change to a group or an account is refused.
* `CommonPurse.OpenGroup` — a group together with the events that wait to be stored.
* `CommonPurse.OpenGroup.addMember`, `changeColor`, `addExpense`, `updateExpense`,
  `deleteExpense`, `settle`, `delete` — the changes.
-/

namespace CommonPurse

/-- A member of a group. -/
structure Member where
  id : Id
  groupId : Id
  name : String
  email : String
  isAdmin : Bool
  color : Color
  joinedAt : Timestamp
  deriving DecidableEq, Repr, Inhabited

/-- A group and its members in the order in which they joined. -/
structure Group where
  id : Id
  name : String
  adminId : Id
  createdAt : Timestamp
  members : List Member
  deriving DecidableEq, Repr, Inhabited

/-- Why an operation is refused. -/
inductive Refusal where
  /-- For a reason that the client is told. -/
  | problem (p : Problem)
  /-- An amount takes more digits than amounts can have. -/
  | arithmetic (f : Decimal.Fault)
  /-- A settlement finds no transfers. -/
  | unsettleable (f : Balance.Failure)
  /-- A password hash holds characters that hashes do not hold. -/
  | unreadableHash
  /-- Timestamps with and without an offset cannot be put in order. -/
  | unordered
  /-- An amount that an event would tell of is not finite. -/
  | unrecordable
  deriving Inhabited

/-- A reason that the client is not told: its name, and what is said about it. -/
structure Defect where
  name : String
  message : String
  deriving DecidableEq, Repr, Inhabited

/-- An amount takes too many digits. -/
def Defect.ofArithmetic (f : Decimal.Fault) : Defect := ⟨f.name, f.message⟩

/-- The refusal of an entry. -/
def Refusal.ofEntry : Entry.Refusal → Refusal
  | .problem p => .problem p
  | .arithmetic f => .arithmetic f

/-- What the client is told, or the reason that it is not told. -/
def Refusal.cause : Refusal → Problem ⊕ Defect
  | .problem p => .inl p
  | .arithmetic f => .inr (.ofArithmetic f)
  | .unsettleable f =>
    match f.refusal with
    | .problem p => .inl p
    | .arithmetic g => .inr (.ofArithmetic g)
  | .unreadableHash =>
    .inr ⟨"TypeError", "comparing strings with non-ASCII characters is not supported"⟩
  | .unordered => .inr ⟨"TypeError", "can't compare offset-naive and offset-aware datetimes"⟩
  | .unrecordable => .inr ⟨"ValidationError", Form.Fault.notFinite.message⟩

namespace Group

/-- The member with an identifier. -/
def member? (g : Group) (user : Id) : Option Member :=
  g.members.find? (·.id = user)

/-- Whether somebody is the administrator. -/
def isAdmin (g : Group) (user : Id) : Bool := user == g.adminId

/-- Whether somebody belongs to the group. -/
def isMember (g : Group) (user : Id) : Bool :=
  g.isAdmin user || (g.member? user).isSome

/-- The extra member that names the group in a problem. -/
def idMember (g : Group) : List (String × Json) := [("group_id", .text g.id.text)]

/-- The member with an identifier, or a refusal. -/
def requireMember (g : Group) (user : Id) : Except Problem Member :=
  match g.member? user with
  | some m => .ok m
  | none => .error (.forbidden "User is not a member of this group" g.idMember)

/-- Set the colour of the first member with an identifier. -/
def setColor (user : Id) (color : Color) : List Member → List Member
  | [] => []
  | m :: rest => if m.id = user then { m with color := color } :: rest else m :: setColor user color rest

end Group

/-- A group as an operation works on it: with the events that have been recorded and are not yet
stored. -/
structure OpenGroup where
  group : Group
  pending : List Event
  deriving DecidableEq, Repr, Inhabited

namespace OpenGroup

/-- A group without pending events. -/
def ofGroup (g : Group) : OpenGroup := ⟨g, []⟩

/-- Record what somebody has done. -/
def record (w : OpenGroup) (id : Id) (now : Timestamp) (user : Id) (action : GroupAction) :
    OpenGroup :=
  { w with pending := w.pending ++ [⟨id, now, .group w.group.id user action⟩] }

/-- Found a group. The founder is its administrator and its first member. -/
def create (o : Occasion) (name : String) (admin : User) (color : Color) :
    Except Problem OpenGroup :=
  (Entry.name (some name) "name").map fun n =>
    let founder : Member := ⟨admin.id, o.ids 0, admin.name, admin.email, true, color, o.now⟩
    let g : Group := ⟨o.ids 0, n, admin.id, o.now, [founder]⟩
    (ofGroup g).record (o.ids 1) o.now admin.id (.created n color)

/-- Admit a user to the group. -/
def addMember (w : OpenGroup) (o : Occasion) (user : User) (color : Color) :
    Except Refusal Member × OpenGroup :=
  if w.group.isMember user.id then
    (.error (.problem (.conflict "User is already a member of this group" none w.group.idMember)), w)
  else
    let m : Member := ⟨user.id, w.group.id, user.name, user.email, false, color, o.now⟩
    let g := { w.group with members := w.group.members ++ [m] }
    (.ok m, ({ w with group := g }).record (o.ids 0) o.now m.id (.joined color))

/-- Give a member another colour. -/
def changeColor (w : OpenGroup) (o : Occasion) (user : Id) (color : Color) :
    Except Refusal Member × OpenGroup :=
  match w.group.requireMember user with
  | .error p => (.error (.problem p), w)
  | .ok m =>
    let g := { w.group with members := Group.setColor user color w.group.members }
    (.ok { m with color := color },
      ({ w with group := g }).record (o.ids 0) o.now m.id (.colorChanged m.color color))

/-- Enter an expense. -/
def addExpense (w : OpenGroup) (o : Occasion) (user : Id) (title amount : String) :
    Except Refusal Expense × OpenGroup :=
  match w.group.requireMember user with
  | .error p => (.error (.problem p), w)
  | .ok _ =>
    match Expense.create (o.ids 0) w.group.id user o.now title amount with
    | .error r => (.error (.ofEntry r), w)
    | .ok e =>
      (.ok e, w.record (o.ids 1) o.now user (.expenseCreated e.id e.title e.amount e.createdAt))

/-- The expense that somebody may change: it belongs to the group, the user is its owner or the
administrator, and it is not settled. -/
def editable (w : OpenGroup) (user : Id) (expense : Option Expense) : Except Problem Expense :=
  match w.group.requireMember user with
  | .error p => .error p
  | .ok _ =>
    match expense with
    | none => .error (.notFound "Expense not found" "expense-not-found")
    | some e =>
      if e.groupId ≠ w.group.id then .error (.notFound "Expense not found" "expense-not-found")
      else if !w.group.isAdmin user && e.memberId != user then
        .error (.forbidden "User is not admin or expense owner" [])
      else if e.settled then
        .error (.conflict "Expense is already settled" none [("expense_id", .text e.id.text)])
      else .ok e

/-- Change the title and the amount of an expense. The expense is returned as it is afterwards,
also when the change is refused halfway, and when the event has no place for the amount that the
expense had. -/
def updateExpense (w : OpenGroup) (o : Occasion) (user : Id) (expense : Option Expense)
    (title amount : String) : Except Refusal Expense × OpenGroup × Option Expense :=
  match w.editable user expense with
  | .error p => (.error (.problem p), w, expense)
  | .ok e =>
    match e.revise o.now title amount with
    | (.error r, e') => (.error (.ofEntry r), w, some e')
    | (.ok _, e') =>
      if e.amount.isFinite then
        (.ok e', w.record (o.ids 0) o.now user
          (.expenseModified e.id e.title e'.title e.amount e'.amount), some e')
      else (.error .unrecordable, w, some e')

/-- Take an expense out of the group. -/
def deleteExpense (w : OpenGroup) (o : Occasion) (user : Id) (expense : Option Expense) :
    Except Refusal Expense × OpenGroup :=
  match w.editable user expense with
  | .error p => (.error (.problem p), w)
  | .ok e => (.ok e, w.record (o.ids 0) o.now user (.expenseDeleted e.id))

/-- What only the administrator may do. -/
def requireAdmin (w : OpenGroup) (user : Id) : Except Problem Unit :=
  if w.group.isAdmin user then .ok () else .error (.forbidden "User is not group admin" [])

/-- Settle the open expenses of the group. The expenses are returned as they are afterwards. -/
def settle (w : OpenGroup) (o : Occasion) (user : Id) (expenses : List Expense)
    (last : Option Settlement) : Except Refusal Settlement × OpenGroup × List Expense :=
  match w.requireAdmin user with
  | .error p => (.error (.problem p), w, expenses)
  | .ok _ =>
    match Settlement.create (o.ids 0) w.group.id (last.map (·.finish)) o.now expenses
        (w.group.members.map (·.id)) with
    | .error f => (.error (.unsettleable f), w, expenses)
    | .ok (s, es) =>
      (.ok s, w.record (o.ids 1) o.now user (.settled s.id s.start s.finish s.transfers), es)

/-- Close the group. -/
def delete (w : OpenGroup) (o : Occasion) (user : Id) : Except Refusal Unit × OpenGroup :=
  match w.requireAdmin user with
  | .error p => (.error (.problem p), w)
  | .ok _ => (.ok (), w.record (o.ids 0) o.now user .deleted)

end OpenGroup

end CommonPurse
