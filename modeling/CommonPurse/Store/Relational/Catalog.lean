import CommonPurse.Store.Relational.Schema

/-!
# Catalogs and their revisions

The tables of a database change from revision to revision. A catalog notes the tables that are
there and how many revisions have been applied; it can be taken up and down to any of them.

## Main definitions

* `CommonPurse.Store.Relational.Revision` — a revision and the tables that it creates.
* `CommonPurse.Store.Relational.Catalog` — the tables, and the revision that stands.
* `CommonPurse.Store.Relational.Catalog.createAll` — create the tables that are missing.
* `CommonPurse.Store.Relational.Catalog.upgrade`, `downgrade` — go to a revision.
-/

namespace CommonPurse.Store.Relational

/-- A revision: its name, and the tables that it creates in this order. -/
structure Revision where
  name : String
  creates : List Shape
  deriving DecidableEq, Repr, Inhabited

/-- The revisions, the oldest one first. -/
def revisions : List Revision := [⟨"3f1c9a2b7d4e", schema⟩]

/-- The tables of a database, whether it keeps track of revisions, and how many of them have been
applied. -/
structure Catalog where
  tables : List Shape
  tracked : Bool
  applied : Nat
  deriving DecidableEq, Repr, Inhabited

namespace Catalog

/-- Why a catalog cannot be taken to a revision. -/
inductive Fault where
  /-- There is no such revision, or it lies on the wrong side. -/
  | noWay
  /-- A table that is to be created is there, or one that is to be dropped is not. -/
  | conflict
  deriving DecidableEq, Repr, Inhabited

/-- A database in which nothing is. -/
def empty : Catalog := ⟨[], false, 0⟩

/-- The table that keeps track of revisions. -/
def versionShape : Shape := ⟨"alembic_version", [.key 1 "version_num" (.shortText 32)]⟩

/-- Whether there is a table of some name. -/
def has (c : Catalog) (name : String) : Bool := c.tables.any (·.name == name)

/-- The catalog as a document: the columns of each table, and of the one that keeps track. -/
def document (c : Catalog) : Json :=
  .object (((if c.tracked then [versionShape] else []) ++ c.tables).map fun t =>
    (t.name, t.document))

/-- Create the tables that are missing. -/
def createAll (c : Catalog) : Catalog :=
  { c with tables := c.tables ++ schema.filter fun t => !c.has t.name }

/-! ## Finding revisions -/

/-- The revision whose name begins with some letters, counted from one. -/
def named? (name : String) : Option Nat :=
  if name.isEmpty then none
  else (revisions.findIdx? fun r => r.name.startsWith name).map (· + 1)

/-- How many revisions are applied at a place that is called by a name. -/
def place? (name : String) : Option Nat :=
  if name = "head" ∨ name = "heads" then some revisions.length
  else if name = "base" then some 0
  else named? name

/-- A number of steps with a sign. -/
def steps? : List Char → Option Int
  | '+' :: ds => (String.ofList ds).toNat?.map Int.ofNat
  | '-' :: ds => (String.ofList ds).toNat?.map fun n => -(n : Int)
  | _ => none

/-- A place of which a target is a number of steps away, and that number. Without a name the place
is the one that stands. -/
def relative? (target : String) : Option (String × Int) :=
  let s := target.toList
  let name := s.takeWhile fun c => c ≠ '+' ∧ c ≠ '-'
  (steps? (s.drop name.length)).map fun n => (String.ofList name, n)

/-- The place some steps away from another, if there is one. -/
def away? (place : Nat) (n : Int) : Option Nat :=
  let p := (place : Int) + n
  if 0 ≤ p ∧ p ≤ revisions.length then some p.toNat else none

/-- The place of a target; `upward` tells in which direction steps lead from the place that
stands. -/
def target? (c : Catalog) (upward : Bool) (target : String) : Option Nat :=
  match relative? target with
  | none => place? target
  | some (name, n) =>
    if name.isEmpty then
      if (upward && 0 < n) || (!upward && n < 0) then away? c.applied n else none
    else (place? name).bind (away? · n)

/-! ## Going to a revision -/

/-- Create tables up to the first that is there. -/
def create : List Shape → Catalog → Except Fault Unit × Catalog
  | [], c => (.ok (), c)
  | t :: rest, c =>
    if c.has t.name then (.error .conflict, c)
    else create rest { c with tables := c.tables ++ [t] }

/-- Apply revisions up to the first that cannot be applied. -/
def applyAll : List Revision → Catalog → Except Fault Unit × Catalog
  | [], c => (.ok (), c)
  | r :: rest, c =>
    match create r.creates c with
    | (.ok (), c) => applyAll rest { c with applied := c.applied + 1 }
    | (.error f, c) => (.error f, c)

/-- Drop tables up to the first that is not there. -/
def drop : List Shape → Catalog → Except Fault Unit × Catalog
  | [], c => (.ok (), c)
  | t :: rest, c =>
    if c.has t.name then drop rest { c with tables := c.tables.filter (·.name != t.name) }
    else (.error .conflict, c)

/-- Take revisions back, up to the first that cannot be. -/
def revertAll : List Revision → Catalog → Except Fault Unit × Catalog
  | [], c => (.ok (), c)
  | r :: rest, c =>
    match drop r.creates.reverse c with
    | (.ok (), c) => revertAll rest { c with applied := c.applied - 1 }
    | (.error f, c) => (.error f, c)

/-- Begin to keep track of revisions. -/
def track (c : Catalog) : Catalog := { c with tracked := true }

/-- Apply the revisions that lead up to a target. Nothing is done when it lies below. -/
def upgrade (target : String) (c : Catalog) : Except Fault Unit × Catalog :=
  let c := c.track
  match c.target? true target with
  | none => (.error .noWay, c)
  | some n => applyAll ((revisions.take n).drop c.applied) c

/-- Take back the revisions above a target, which must not lie above the one that stands. -/
def downgrade (target : String) (c : Catalog) : Except Fault Unit × Catalog :=
  let c := c.track
  match c.target? false target with
  | none => (.error .noWay, c)
  | some n =>
    if n ≤ c.applied then revertAll ((revisions.take c.applied).drop n).reverse c
    else (.error .noWay, c)

end Catalog

end CommonPurse.Store.Relational
