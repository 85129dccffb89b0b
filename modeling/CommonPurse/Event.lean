import CommonPurse.Color
import CommonPurse.Id
import CommonPurse.Number.Decimal
import CommonPurse.Time.Timestamp

/-!
# Events

What happens to accounts and inside groups. Events are recorded in a log and never change.

## Main definitions

* `CommonPurse.Transfer` — one payment that settles a debt.
* `CommonPurse.AccountAction`, `GroupAction` — the kinds of event.
* `CommonPurse.Event` — an event: when it happened, to what, and what it was.
-/

namespace CommonPurse

/-- One payment that settles a debt: `payer` pays `payee`. -/
structure Transfer where
  payer : Id
  payee : Id
  amount : Decimal
  deriving DecidableEq, Repr, Inhabited

/-- What can happen to an account. -/
inductive AccountAction where
  | created (name email : String)
  | loggedIn
  | loggedOut
  | deleted
  deriving DecidableEq, Repr, Inhabited

/-- What a member can do inside a group. -/
inductive GroupAction where
  | created (name : String) (color : Color)
  | joined (color : Color)
  | colorChanged (previous new : Color)
  | expenseCreated (id : Id) (description : String) (amount : Decimal) (date : Timestamp)
  | expenseModified (id : Id) (previousDescription newDescription : String)
      (previousAmount newAmount : Decimal)
  | expenseDeleted (id : Id)
  | settled (id : Id) (start : Option Timestamp) (finish : Timestamp) (transfers : List Transfer)
  | deleted
  deriving DecidableEq, Repr, Inhabited

/-- What an event is about: an account, or a group and the member who acted. -/
inductive Subject where
  | account (user : Id) (action : AccountAction)
  | group (group member : Id) (action : GroupAction)
  deriving DecidableEq, Repr, Inhabited

/-- An event. -/
structure Event where
  id : Id
  occurredAt : Timestamp
  subject : Subject
  deriving DecidableEq, Repr, Inhabited

namespace Event

/-- The account or the group that the event belongs to. -/
def aggregate (e : Event) : Id :=
  match e.subject with
  | .account user _ => user
  | .group group _ _ => group

end Event

/-- The tag of an account action in a document. -/
def AccountAction.tag : AccountAction → String
  | .created .. => "user_created"
  | .loggedIn => "user_login"
  | .loggedOut => "user_logout"
  | .deleted => "user_deleted"

/-- The tag of a group action in a document. -/
def GroupAction.tag : GroupAction → String
  | .created .. => "group_created"
  | .joined _ => "member_joined"
  | .colorChanged .. => "member_color_changed"
  | .expenseCreated .. => "expense_created"
  | .expenseModified .. => "expense_modified"
  | .expenseDeleted _ => "expense_deleted"
  | .settled .. => "settled"
  | .deleted => "group_deleted"

end CommonPurse
