import CommonPurse.Expense
import CommonPurse.Balance

/-!
# Settlements

A settlement closes the expenses of a group since the settlement before it and lists the
transfers that even them out.

## Main definitions

* `CommonPurse.Settlement` — a settlement.
* `CommonPurse.Settlement.create` — the settlement of open expenses.
-/

namespace CommonPurse

/-- A settlement of a group. -/
structure Settlement where
  id : Id
  groupId : Id
  /-- The end of the settlement before this one. -/
  start : Option Timestamp
  finish : Timestamp
  transfers : List Transfer
  expenseIds : List Id
  deriving DecidableEq, Repr, Inhabited

namespace Settlement

/-- The payment behind an expense. -/
def paymentOf (e : Expense) : Balance.Payment := ⟨e.memberId, e.amount⟩

/-- The settlement of expenses, and the expenses once they are settled. -/
def create (id groupId : Id) (start : Option Timestamp) (now : Timestamp)
    (expenses : List Expense) (members : List Id) :
    Except Balance.Failure (Settlement × List Expense) :=
  (Balance.transfers (expenses.map paymentOf) members).map fun ts =>
    (⟨id, groupId, start, now, ts, expenses.map (·.id)⟩, expenses.map (·.settle))

end Settlement

end CommonPurse
