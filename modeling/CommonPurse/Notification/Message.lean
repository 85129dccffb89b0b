import CommonPurse.Group

/-!
# Messages

What members are told about the things that happen in their groups.

## Main definitions

* `CommonPurse.Message` — a title and a body.
* `CommonPurse.Message.ofAction?` — the message about an action; most actions have none.
-/

namespace CommonPurse

/-- A message to the members of a group. -/
structure Message where
  title : String
  body : String
  deriving DecidableEq, Repr, Inhabited

namespace Message

/-- What is said when nobody owes anything. -/
def allGood : String := "You are all good !"

/-- The name of somebody in a group; of several members with one identifier the last one. -/
def nameIn (g : Group) (i : Id) : String :=
  match g.members.reverse.find? (·.id = i) with
  | some m => m.name
  | none => "Unknown"

/-- One line about a transfer. -/
def transferLine (g : Group) (t : Transfer) : String :=
  nameIn g t.payer ++ " owes " ++ t.amount.fixedText 2 ++ " to " ++ nameIn g t.payee

/-- Whether an action is announced to the members. -/
def isAnnounced : GroupAction → Bool
  | .joined _ => true
  | .expenseCreated .. => true
  | .settled .. => true
  | _ => false

/-- The message about what a member has done in a group. -/
def ofAction? (action : GroupAction) (g : Group) (m : Member) : Option Message :=
  match action with
  | .joined _ => some ⟨m.name ++ " joined group " ++ g.name, m.email⟩
  | .expenseCreated _ description amount _ =>
    some ⟨"Expense from " ++ m.name ++ " in " ++ g.name, description ++ ": " ++ amount.text⟩
  | .settled _ _ _ transfers =>
    some ⟨"Group " ++ g.name ++ " was settled",
      if transfers.isEmpty then allGood
      else String.intercalate "\n" (transfers.map (transferLine g))⟩
  | _ => none

end Message

end CommonPurse
