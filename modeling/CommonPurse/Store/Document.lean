import CommonPurse.Event.Document
import CommonPurse.Group
import CommonPurse.Json.Members
import CommonPurse.Settlement

/-!
# Entities as documents

Every field of an entity in a JSON document, and entities from such documents. The members in the
document of a group belong to that group.

## Main definitions

* `CommonPurse.User.document`, `Group.document`, `Expense.document`, `Settlement.document` —
  entities as documents.
* `CommonPurse.User.ofDocument?`, `Group.ofDocument?`, `Expense.ofDocument?`,
  `Settlement.ofDocument?` — entities from documents.
-/

namespace CommonPurse

/-! ## Writing -/

/-- The document of an identifier. -/
def Id.document (i : Id) : Json := .text i.text

/-- The document of a timestamp. -/
def Timestamp.document (t : Timestamp) : Json := .text t.isoText

/-- The document of an account. -/
def User.document (u : User) : Json :=
  .object [("id", u.id.document), ("name", .text u.name), ("email", .text u.email),
    ("created_at", u.createdAt.document)]

/-- The document of a member of a group. -/
def Member.document (m : Member) : Json :=
  .object [("id", m.id.document), ("group_id", m.groupId.document), ("name", .text m.name),
    ("email", .text m.email), ("is_admin", .bool m.isAdmin), ("color", m.color.document),
    ("joined_at", m.joinedAt.document)]

/-- The document of a group. -/
def Group.document (g : Group) : Json :=
  .object [("id", g.id.document), ("name", .text g.name), ("admin_id", g.adminId.document),
    ("created_at", g.createdAt.document), ("members", .array (g.members.map Member.document))]

/-- The document of an expense. -/
def Expense.document (e : Expense) : Json :=
  .object [("id", e.id.document), ("group_id", e.groupId.document),
    ("member_id", e.memberId.document), ("title", .text e.title), ("amount", .text e.amount.text),
    ("created_at", e.createdAt.document),
    ("modified_at", (e.modifiedAt.map Timestamp.document).getD .null), ("settled", .bool e.settled)]

/-- The document of a settlement. -/
def Settlement.document (s : Settlement) : Json :=
  .object [("id", s.id.document), ("group_id", s.groupId.document),
    ("start_date", (s.start.map Timestamp.document).getD .null), ("end_date", s.finish.document),
    ("transactions", .array (s.transfers.map Transfer.document)),
    ("expense_ids", .array (s.expenseIds.map Id.document))]

/-! ## Reading -/

namespace Json

/-- The member with a name that is an identifier. -/
def idAt? (name : String) (d : Json) : Option Id := (d.textAt? name).bind Id.parse?

/-- The member with a name that is an identifier; the nil identifier when there is none. -/
def idAt (name : String) (d : Json) : Id := (d.idAt? name).getD .nil

/-- The member with a name that is a timestamp. -/
def timestampAt? (name : String) (d : Json) : Option Timestamp :=
  (d.textAt? name).bind Timestamp.parse?

/-- The member with a name that is a decimal. -/
def decimalAt? (name : String) (d : Json) : Option Decimal :=
  (d.textAt? name).bind Decimal.parse?

end Json

/-- The account of a document. -/
def User.ofDocument? (d : Json) : Option User := do
  return ⟨← d.idAt? "id", ← d.textAt? "name", ← d.textAt? "email", ← d.timestampAt? "created_at"⟩

/-- The member of a group from a document, in which the colour is a text. -/
def Member.ofDocument? (group : Id) (d : Json) : Option Member := do
  let color ← (Color.parse (d.textAt? "color")).toOption
  return ⟨← d.idAt? "id", group, ← d.textAt? "name", ← d.textAt? "email", d.flagAt "is_admin", color,
    ← d.timestampAt? "joined_at"⟩

/-- The group of a document. -/
def Group.ofDocument? (d : Json) : Option Group := do
  let id ← d.idAt? "id"
  let members ← (d.itemsAt "members").mapM (Member.ofDocument? id)
  return ⟨id, ← d.textAt? "name", ← d.idAt? "admin_id", ← d.timestampAt? "created_at",
    members⟩

/-- The expense of a document. -/
def Expense.ofDocument? (d : Json) : Option Expense := do
  return ⟨← d.idAt? "id", ← d.idAt? "group_id", ← d.idAt? "member_id", ← d.textAt? "title",
    ← d.decimalAt? "amount", ← d.timestampAt? "created_at", d.timestampAt? "modified_at",
    d.flagAt "settled"⟩

/-- The transfer of a document. -/
def Transfer.ofDocument? (d : Json) : Option Transfer := do
  return ⟨← d.idAt? "from_id", ← d.idAt? "to_id", ← d.decimalAt? "amount"⟩

/-- The settlement of a document. -/
def Settlement.ofDocument? (d : Json) : Option Settlement := do
  let transfers ← (d.itemsAt "transactions").mapM Transfer.ofDocument?
  let expenses ← (d.itemsAt "expense_ids").mapM fun i => i.text?.bind Id.parse?
  return ⟨← d.idAt? "id", ← d.idAt? "group_id", d.timestampAt? "start_date",
    ← d.timestampAt? "end_date", transfers, expenses⟩

end CommonPurse
