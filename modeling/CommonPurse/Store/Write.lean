import CommonPurse.Group

/-!
# Writes

A change to what is stored, as a value: the use cases say what they want to have written, and the
stores carry it out.

## Main definitions

* `CommonPurse.Store.Repository` — the collections of a store.
* `CommonPurse.Store.Write` — one change to one of them.
-/

namespace CommonPurse.Store

/-- The collections of a store. -/
inductive Repository where
  | users
  | credentials
  | devices
  | groups
  | expenses
  | settlements
  | events
  deriving DecidableEq, Repr, Inhabited

/-- The name of a collection. -/
def Repository.name : Repository → String
  | .users => "users"
  | .credentials => "credentials"
  | .devices => "devices"
  | .groups => "groups"
  | .expenses => "expenses"
  | .settlements => "settlements"
  | .events => "events"

/-- All collections. -/
def Repository.all : List Repository :=
  [.users, .credentials, .devices, .groups, .expenses, .settlements, .events]

/-- A change that belongs to a transaction. Saving replaces what has the same key. -/
inductive Write where
  | saveUser (user : User)
  | deleteUser (user : Id)
  | saveCredential (email hash : String)
  | deleteCredential (email : String)
  | saveGroup (group : Group)
  | deleteGroup (group : Id)
  | saveExpense (expense : Expense)
  | deleteExpense (expense : Id)
  | saveSettlement (settlement : Settlement)
  deriving DecidableEq, Repr, Inhabited

/-- The collection that a write changes. -/
def Write.repository : Write → Repository
  | .saveUser _ => .users
  | .deleteUser _ => .users
  | .saveCredential _ _ => .credentials
  | .deleteCredential _ => .credentials
  | .saveGroup _ => .groups
  | .deleteGroup _ => .groups
  | .saveExpense _ => .expenses
  | .deleteExpense _ => .expenses
  | .saveSettlement _ => .settlements

end CommonPurse.Store
