import CommonPurse.Entry
import CommonPurse.Event
import CommonPurse.Occasion

/-!
# Accounts

A registered account and what can happen to it.

## Main definitions

* `CommonPurse.User` — an account.
* `CommonPurse.User.register` — a new account and the event that records it.
* `CommonPurse.User.record` — an event about an account.
-/

namespace CommonPurse

/-- An account. -/
structure User where
  id : Id
  name : String
  email : String
  createdAt : Timestamp
  deriving DecidableEq, Repr, Inhabited

namespace User

/-- An event about an account, with an identifier drawn for it. -/
def record (u : User) (id : Id) (now : Timestamp) (action : AccountAction) : Event :=
  ⟨id, now, .account u.id action⟩

/-- A new account. The name is looked at before the address. -/
def create (o : Occasion) (name email : Option String) : Except Problem User :=
  match Entry.name name "name" with
  | .error p => .error p
  | .ok n =>
    match Entry.email email with
    | .error p => .error p
    | .ok e => .ok ⟨o.ids 0, n, e, o.now⟩

/-- A new account and the event of its creation. -/
def register (o : Occasion) (name email : Option String) : Except Problem (User × Event) :=
  (create o name email).map fun u => (u, u.record (o.ids 1) o.now (.created u.name u.email))

end User

end CommonPurse
