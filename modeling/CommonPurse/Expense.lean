import CommonPurse.Entry
import CommonPurse.Id
import CommonPurse.Time.Timestamp

/-!
# Expenses

What a member has paid for the group.

## Main definitions

* `CommonPurse.Expense` — an expense.
* `CommonPurse.Expense.create` — a new expense.
* `CommonPurse.Expense.revise` — a new title and a new amount, one after the other.
-/

namespace CommonPurse

/-- An expense. -/
structure Expense where
  id : Id
  groupId : Id
  memberId : Id
  title : String
  amount : Decimal
  createdAt : Timestamp
  modifiedAt : Option Timestamp
  settled : Bool
  deriving DecidableEq, Repr, Inhabited

namespace Expense

/-- A new expense. The title is looked at before the amount. -/
def create (id groupId memberId : Id) (now : Timestamp) (title amount : String) :
    Except Entry.Refusal Expense :=
  match Entry.name (some title) "title" with
  | .error p => .error (.problem p)
  | .ok t =>
    match Entry.amount amount with
    | .error r => .error r
    | .ok a => .ok ⟨id, groupId, memberId, t, a, now, none, false⟩

/-- Give an expense a new title, then a new amount, then the time of the change. What has been
set before a refusal stays set. -/
def revise (e : Expense) (now : Timestamp) (title amount : String) :
    Except Entry.Refusal Unit × Expense :=
  match Entry.name (some title) "title" with
  | .error p => (.error (.problem p), e)
  | .ok t =>
    match Entry.amount amount with
    | .error r => (.error r, { e with title := t })
    | .ok a => (.ok (), { e with title := t, amount := a, modifiedAt := some now })

/-- The expense once it is part of a settlement. -/
def settle (e : Expense) : Expense := { e with settled := true }

end Expense

end CommonPurse
