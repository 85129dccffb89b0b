import CommonPurse.Command
import CommonPurse.Json.Shown
import CommonPurse.Store.Document

/-!
# Commands and queries as documents

A command or a query is written as a document whose member `do` names it, with its arguments under
their names. The answer to it is the document of what it yields.

## Main definitions

* `CommonPurse.Command.ofDocument?`, `CommonPurse.Query.ofDocument?` — read a command, a query.
* `CommonPurse.Product.document` — the document of an answer.
-/

namespace CommonPurse

/-- The text of the amount in a document. -/
def Json.amountAt (name : String) (d : Json) : String := ((d.member? name).getD .null).plainShown

/-- The command that a document describes. -/
def Command.ofDocument? (d : Json) : Option Command :=
  let user := d.idAt "user"
  let group := d.idAt "group"
  let expense := d.idAt "expense"
  match d.textAt "do" with
  | "register" => some (.register (d.textAt? "name") (d.textAt? "email") (d.textAt? "password_hash"))
  | "login" => some (.login (d.textAt? "email") (d.textAt "password_hash"))
  | "logout" => some (.logout user)
  | "delete_user" => some (.deleteUser user)
  | "create_group" => some (.createGroup user (d.textAt "name") (d.textAt? "color"))
  | "join_group" => some (.joinGroup user group (d.textAt? "color"))
  | "change_member_color" => some (.changeColor user group (d.textAt? "color"))
  | "create_expense" => some (.createExpense user group (d.textAt "title") (d.amountAt "amount"))
  | "update_expense" =>
    some (.updateExpense user group expense (d.textAt "title") (d.amountAt "amount"))
  | "delete_expense" => some (.deleteExpense user group expense)
  | "settle" => some (.settle user group)
  | "delete_group" => some (.deleteGroup user group)
  | _ => none

/-- The query that a document describes. -/
def Query.ofDocument? (d : Json) : Option Query :=
  match d.textAt "do" with
  | "get_user" => some (.user (d.idAt "user"))
  | "get_group" => some (.group (d.idAt "user") (d.idAt "group"))
  | "get_expenses" => some (.expenses (d.idAt "user") (d.idAt "group"))
  | _ => none

/-- The document of an answer. -/
def Product.document : Product → Json
  | .user u => u.document
  | .group g => g.document
  | .member m => m.document
  | .expense e => e.document
  | .expenses es => .array (es.map Expense.document)
  | .settlement s => s.document
  | .done => .null

end CommonPurse
