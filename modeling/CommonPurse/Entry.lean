import CommonPurse.Json
import CommonPurse.Number.Decimal.Arithmetic
import CommonPurse.Problem
import CommonPurse.Text.Letter

/-!
# What people enter

The rules for names, email addresses and amounts that people type.

## Main definitions

* `CommonPurse.Entry.name` — a name, trimmed and not empty.
* `CommonPurse.Entry.email` — an address with one `@` between two parts, in lower case.
* `CommonPurse.Entry.amount` — an amount above zero in hundredths.
* `CommonPurse.Entry.Refusal` — why an entry is refused.
-/

namespace CommonPurse.Entry

open CommonPurse.Text

/-- Why an entry is refused: for a reason the client is told, or because an amount has more
digits than amounts can have. -/
inductive Refusal where
  | problem (p : Problem)
  | arithmetic (f : Decimal.Fault)
  deriving Inhabited

/-- A name without the blanks around it. `field` says what the name is a name of. -/
def name (value : Option String) (field : String) : Except Problem String :=
  match value with
  | some v =>
    if isBlankText v then
      .error (.validation (capitalize field ++ " cannot be empty") [("field", .text field)])
    else .ok (strip v)
  | none => .error (.validation (capitalize field ++ " cannot be empty") [("field", .text field)])

/-- The two parts of an address, if it has exactly one `@` and neither part is empty. -/
def addressParts? (s : List Char) : Option (List Char × List Char) :=
  let mailbox := s.takeWhile (· ≠ '@')
  match s.dropWhile (· ≠ '@') with
  | [] => none
  | _ :: domain =>
    if mailbox.isEmpty ∨ domain.isEmpty ∨ domain.contains '@' then none
    else some (mailbox, domain)

/-- An email address in lower case, without the blanks around it. -/
def email (value : Option String) : Except Problem String :=
  match value with
  | none => .error (.validation "Email cannot be empty" [("field", .text "email")])
  | some v =>
    match addressParts? (trim v.toList) with
    | none =>
      .error (.validation "Email address is invalid" [("field", .text "email"), ("value", .text v)])
    | some (l, d) => .ok (lower (String.ofList (l ++ '@' :: d)))

/-- A refused amount. -/
def refusedAmount (detail value : String) : Refusal :=
  .problem (.validation detail [("field", .text "amount"), ("value", .text value)])

/-- An amount above zero in hundredths, from its text. -/
def amount (value : String) : Except Refusal Decimal :=
  match Decimal.parse? value with
  | none => .error (refusedAmount "Amount must be a number" value)
  | some d =>
    if d.isFinite && d.isPositive then
      match d.toCents with
      | .error f => .error (.arithmetic f)
      | .ok cents =>
        if cents.isPositive then .ok cents
        else .error (refusedAmount "Amount must be at least 0.01" value)
    else .error (refusedAmount "Amount must be greater than 0" value)

end CommonPurse.Entry
