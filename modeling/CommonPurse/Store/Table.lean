/-!
# Tables

Finite maps that remember the order in which their keys were first put in.

## Main definitions

* `CommonPurse.Store.Table` — a table.
* `CommonPurse.Store.Table.get?`, `put`, `erase` — looking up, storing and removing.

## Main results

* `CommonPurse.Store.Table.get?_put`, `CommonPurse.Store.Table.get?_erase` — what is found after
  a change.
-/

namespace CommonPurse.Store

/-- Keys with their values, in the order in which the keys were first put in. -/
structure Table (κ α : Type) where
  rows : List (κ × α)
  deriving DecidableEq, Repr, Inhabited

namespace Table

variable {κ α : Type} [DecidableEq κ]

/-- The table without rows. -/
def empty : Table κ α := ⟨[]⟩

/-- The values in their order. -/
def values (t : Table κ α) : List α := t.rows.map (·.2)

/-- The keys in their order. -/
def keys (t : Table κ α) : List κ := t.rows.map (·.1)

/-- The value of a key among rows. -/
def lookup (k : κ) : List (κ × α) → Option α
  | [] => none
  | (j, a) :: rest => if j = k then some a else lookup k rest

/-- The value of a key. -/
def get? (t : Table κ α) (k : κ) : Option α := lookup k t.rows

/-- Whether a key has a value. -/
def contains (t : Table κ α) (k : κ) : Bool := (t.get? k).isSome

/-- Give a key a value among rows: in its place, or at the end when the key is new. -/
def putRow (k : κ) (a : α) : List (κ × α) → List (κ × α)
  | [] => [(k, a)]
  | (j, b) :: rest => if j = k then (j, a) :: rest else (j, b) :: putRow k a rest

/-- Give a key a value. -/
def put (t : Table κ α) (k : κ) (a : α) : Table κ α := ⟨putRow k a t.rows⟩

/-- Remove a key. -/
def erase (t : Table κ α) (k : κ) : Table κ α := ⟨t.rows.filter fun r => r.1 ≠ k⟩

theorem lookup_putRow (k j : κ) (a : α) (rows : List (κ × α)) :
    lookup j (putRow k a rows) = if k = j then some a else lookup j rows := by
  induction rows with
  | nil => rfl
  | cons r rest ih =>
    obtain ⟨i, b⟩ := r
    by_cases hik : i = k
    · subst hik
      by_cases hij : i = j <;> simp [putRow, lookup, hij]
    · by_cases hij : i = j
      · subst hij
        simp [putRow, lookup, hik, Ne.symm hik]
      · simp [putRow, lookup, hik, hij, ih]

/-- A key that has been given a value has it; the others keep theirs. -/
@[simp] theorem get?_put (t : Table κ α) (k j : κ) (a : α) :
    (t.put k a).get? j = if k = j then some a else t.get? j :=
  lookup_putRow k j a t.rows

theorem lookup_filter_ne (k j : κ) (rows : List (κ × α)) :
    lookup j (rows.filter fun r => r.1 ≠ k) = if k = j then none else lookup j rows := by
  induction rows with
  | nil => simp [lookup]
  | cons r rest ih =>
    obtain ⟨i, b⟩ := r
    by_cases hik : i = k
    · subst hik
      by_cases hij : i = j
      · simpa [List.filter_cons, hij] using ih
      · simpa [List.filter_cons, lookup, hij] using ih
    · by_cases hij : i = j
      · subst hij
        simp [lookup, hik, Ne.symm hik]
      · simpa [List.filter_cons, lookup, hik, hij] using ih

/-- A key that has been removed has no value; the others keep theirs. -/
@[simp] theorem get?_erase (t : Table κ α) (k j : κ) :
    (t.erase k).get? j = if k = j then none else t.get? j :=
  lookup_filter_ne k j t.rows

end Table

end CommonPurse.Store
