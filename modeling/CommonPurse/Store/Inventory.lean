import CommonPurse.Occasion
import CommonPurse.Store.Backend
import CommonPurse.Store.Document

/-!
# The inventory of a store

Everything that is stored, as it is read back: collection by collection, and under each key what
the store answers for it. Reading an event that lacks an identifier draws a fresh one.

## Main definitions

* `CommonPurse.Store.View.event` — the event under an identifier.
* `CommonPurse.Store.View.inventory` — everything that is stored.
-/

namespace CommonPurse.Store

/-- What is stored in a collection, or nothing when its table is gone. -/
structure Stock where
  repository : Repository
  rows : Option (List (String × Except Error Json))

namespace View

/-- The event under an identifier, and how many fresh identifiers reading it has drawn. -/
def event (v : View) (o : Occasion) (i : Id) : Except Error (Option Event) × Nat :=
  match v.body i with
  | .error e => (.error e, 0)
  | .ok none => (.ok none, 0)
  | .ok (some body) => ((body.event (o.ids 0) o.now).map some, body.drawn)

/-- The document of an event together with when it was processed. -/
def eventEntry (v : View) (o : Occasion) (i : Id) : Except Error Json × Nat :=
  match v.event o i with
  | (.error e, n) => (.error e, n)
  | (.ok e, n) =>
    ((v.processedAt i).map fun t =>
      .object [("event", (e.map Event.document).getD .null),
        ("processed_at", (t.map Timestamp.document).getD .null)], n)

/-- What is read back of a value that may not be there. -/
def shown {α : Type} (f : α → Json) (r : Except Error (Option α)) : Except Error Json :=
  r.map fun a => (a.map f).getD .null

/-- What is read back under a key of a collection. -/
def entry (v : View) (o : Occasion) (r : Repository) (key : String) : Except Error Json × Nat :=
  let i := (Id.parse? key).getD Id.nil
  match r with
  | .users => (shown User.document (v.user i), 0)
  | .credentials => (shown .text (v.credential key), 0)
  | .devices => (shown .text (v.device i), 0)
  | .groups => (shown Group.document (v.group i), 0)
  | .expenses => (shown Expense.document (v.expense i), 0)
  | .settlements => (shown Settlement.document (v.settlement i), 0)
  | .events => v.eventEntry o i

/-- What is read back under several keys, one after the other. -/
def entries (v : View) (r : Repository) :
    Occasion → List String → List (String × Except Error Json) × Nat
  | _, [] => ([], 0)
  | o, key :: rest =>
    match v.entry o r key with
    | (x, n) =>
      match entries v r (o.skip n) rest with
      | (xs, k) => ((key, x) :: xs, n + k)

/-- What is stored in collections, one after the other. -/
def stocks (v : View) (keys : Repository → Option (List String)) :
    Occasion → List Repository → List Stock × Nat
  | _, [] => ([], 0)
  | o, r :: rest =>
    match keys r with
    | none =>
      match stocks v keys o rest with
      | (xs, k) => (⟨r, none⟩ :: xs, k)
    | some ks =>
      match v.entries r o ks with
      | (rows, n) =>
        match stocks v keys (o.skip n) rest with
        | (xs, k) => (⟨r, some rows⟩ :: xs, n + k)

/-- Everything that is stored, and how many fresh identifiers reading it has drawn. -/
def inventory (v : View) (keys : Repository → Option (List String)) (o : Occasion) :
    List Stock × Nat :=
  v.stocks keys o Repository.all

end View

end CommonPurse.Store
