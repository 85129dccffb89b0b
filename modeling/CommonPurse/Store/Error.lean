import CommonPurse.Json.Shown
import CommonPurse.Id

/-!
# Errors of a store

What a store answers instead of a result: the kind of the error, its message, and the values that
belong to it. The wording of every error that a store raises of its own accord stands here.

## Main definitions

* `CommonPurse.Store.ErrorKind` — the kinds of errors.
* `CommonPurse.Store.Error` — an error, with `text` for people.
-/

namespace CommonPurse.Store

/-- The kinds of errors. The general kind is the parent of all the others. -/
inductive ErrorKind where
  | general
  | insertion
  | fetch
  | update
  | deletion
  | corruption
  | transaction
  deriving DecidableEq, Repr, Inhabited

/-- An error: what went wrong, and the named values that belong to it. -/
structure Error where
  kind : ErrorKind
  message : String
  details : List (String × Json)
  deriving Inhabited

namespace Error

/-- The named values as they are shown, with commas between them. -/
def detailText (details : List (String × Json)) : String :=
  String.intercalate ", " (details.map fun d => d.1 ++ "=" ++ d.2.shown)

/-- The text of an error: its message, and its values in brackets when there are any. -/
def text (e : Error) : String :=
  if e.details.isEmpty then e.message else e.message ++ " (" ++ detailText e.details ++ ")"

/-- Whether an error says that what is stored makes no sense. -/
def isCorruption (e : Error) : Bool := e.kind = .corruption

/-! ## Transactions -/

/-- A finished transaction has been used. -/
def inactive : Error := ⟨.transaction, "Transaction is no longer active", []⟩

/-- A transaction of another store has been used; `own` names the store it was used with. -/
def foreign (own : String) : Error :=
  ⟨.transaction, "Transaction does not belong to the " ++ own ++ " store", []⟩

/-! ## Stored data -/

/-- The repository has been switched off. -/
def crashed : Error := ⟨.corruption, "Crashed store", []⟩

/-- A password hash without characters has been stored. -/
def emptyHash (email : String) : Error :=
  ⟨.corruption, "Stored password hash is empty", [("email", .text email)]⟩

/-- A stored event cannot be read; the faults in it are counted. -/
def undecodableEvent (faults : Nat) : Error :=
  ⟨.corruption, "Stored event cannot be decoded", [("errors", .integer faults)]⟩

/-! ## The event log -/

/-- Events with these identifiers are in the log. -/
def alreadyLogged (events : List Id) : Error :=
  ⟨.insertion, "Event already logged",
    [("event_ids", .array (events.map fun i => .text i.text))]⟩

/-- There is no such event. -/
def eventNotFound (event : Id) : Error :=
  ⟨.fetch, "Event not found", [("event_id", .text event.text)]⟩

end Error

end CommonPurse.Store
