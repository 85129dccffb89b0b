import CommonPurse.Proofs.Store.Table
import CommonPurse.Store.Relational.Session
import Mathlib.Tactic.SplitIfs

/-!
# Placing rows

In a database whose tables are all there, an insert and an update of what was read both come to
placing a row. Rows under different keys do not get into each other's way, and a row that replaces
one may be placed before or after the others.

## Main definitions

* `CommonPurse.Store.Relational.Database.Whole` — all tables are there, with rows under their keys.
* `CommonPurse.Store.Relational.Database.placeAll` — rows placed one after the other.

## Main results

* `CommonPurse.Store.Relational.Database.row?_place` — what is found when a row has been placed.
* `CommonPurse.Store.Relational.Database.insert?_eq_place`, `update?_eq_place` — the statements.
* `CommonPurse.Store.Relational.Database.placeAll_place` — the order in which rows are placed.
-/

namespace CommonPurse.Store.Relational

/-- Whether a row is that of an account. -/
def Row.isUser : Row → Bool
  | .user _ => true
  | _ => false

lemma rank_of_isUser {row : Row} (h : row.isUser = false) : rank row = 0 := by
  cases row with
  | user u => cases h
  | _ => rfl

namespace Database

/-- All tables are there. -/
def Complete (d : Database) : Prop :=
  ∃ u c v g m e s l, d = ⟨some u, some c, some v, some g, some m, some e, some s, some l⟩

/-- All tables are there, and every row stands under its key. -/
structure Whole (d : Database) : Prop where
  complete : d.Complete
  keyed : ∀ k row, d.row? k = some (some row) → row.key = k

/-- Rows placed one after the other. -/
def placeAll (d : Database) (rows : List Row) : Database := rows.foldl place d

variable {d : Database} {row : Row} {rows : List Row}

@[simp] lemma placeAll_nil (d : Database) : d.placeAll [] = d := rfl

@[simp] lemma placeAll_cons (d : Database) (row : Row) (rows : List Row) :
    d.placeAll (row :: rows) = (d.place row).placeAll rows := rfl

lemma placeAll_append (d : Database) (rows more : List Row) :
    d.placeAll (rows ++ more) = (d.placeAll rows).placeAll more := List.foldl_append

/-! ## One row -/

lemma Complete.row?_ne_none (h : d.Complete) (k : Key) : d.row? k ≠ none := by
  obtain ⟨u, c, v, g, m, e, s, l, rfl⟩ := h
  cases k <;> simp [row?]

/-- **What is found when a row has been placed**: the row under its key, and the old rows under the
other keys. -/
theorem row?_place (h : d.Complete) (row : Row) (k : Key) :
    (d.place row).row? k = if row.key = k then some (some row) else d.row? k := by
  obtain ⟨u, c, v, g, m, e, s, l, rfl⟩ := h
  cases row <;> cases k <;> simp only [place, row?, Row.key, reduceCtorEq, if_false,
    Option.map_some, Table.get?_put] <;> split_ifs <;> simp_all

lemma Whole.place (h : d.Whole) (row : Row) : (d.place row).Whole where
  complete := by
    obtain ⟨u, c, v, g, m, e, s, l, rfl⟩ := h.complete
    cases row <;> exact ⟨_, _, _, _, _, _, _, _, rfl⟩
  keyed k x hx := by
    rw [row?_place h.complete] at hx
    split_ifs at hx with hk
    · rw [← Option.some.inj (Option.some.inj hx), hk]
    · exact h.keyed k x hx

/-- A row that is there already changes nothing. -/
lemma place_of_row? (h : d.Complete) (hr : d.row? row.key = some (some row)) :
    d.place row = d := by
  obtain ⟨u, c, v, g, m, e, s, l, rfl⟩ := h
  cases row <;>
    simp only [row?, Row.key, Option.map_some, Option.some.injEq, Option.map_eq_some_iff] at hr <;>
    obtain ⟨x, hx, heq⟩ := hr <;> cases heq <;> simp [Database.place, Table.put_of_get? hx]

/-- A row that replaces one may be placed before or after another one. -/
lemma place_comm {new other : Row} (h : d.Complete) (hne : other.key ≠ new.key) {read : Row}
    (hr : d.row? new.key = some (some read)) :
    (d.place other).place new = (d.place new).place other := by
  obtain ⟨u, c, v, g, m, e, s, l, rfl⟩ := h
  cases new <;> cases other <;> try rfl
  all_goals
    simp only [row?, Row.key, Option.map_some, Option.some.injEq, Option.map_eq_some_iff] at hr
    obtain ⟨x, hx, -⟩ := hr
    simp only [Row.key, ne_eq, Key.user.injEq, Key.credential.injEq, Key.device.injEq,
      Key.group.injEq, Key.member.injEq, Key.expense.injEq, Key.settlement.injEq,
      Key.event.injEq] at hne
    simp only [place, Option.map_some]
    rw [Table.put_comm (by simpa using hne) (by rw [hx]; rfl)]

lemma addressFree_of_isUser (h : row.isUser = false) : d.addressFree row = true := by
  cases row with
  | user u => cases h
  | _ => rfl

/-- Whether an address is free is a matter of the accounts alone. -/
lemma addressFree_place (h : row.isUser = false) (x : Row) :
    (d.place row).addressFree x = d.addressFree x := by
  cases row with
  | user u => cases h
  | _ => cases x <;> rfl

/-! ## Statements -/

/-- An insert of a new row places it. -/
lemma insert?_eq_place (new : d.row? row.key = some none) (kept : kept? row = some row)
    (free : d.addressFree row = true) : d.insert? row = some (d.place row) := by
  simp only [insert?, new, kept, free, if_true]

lemma column_self {α : Type} [DecidableEq α] (read new : α) : column read new read = new := by
  unfold column
  split_ifs with h
  · exact h.symm
  · rfl

/-- The changes to what was read, written over what was read, are the new row. -/
lemma patch_self {read new : Row} (h : read.key = new.key) : patch read new read = new := by
  cases read <;> cases new <;>
    simp_all only [Row.key, reduceCtorEq, Key.user.injEq, Key.group.injEq, Key.member.injEq,
      Key.expense.injEq, patch, column_self]
  case expense.expense a b =>
    have modified : (if b.modifiedAt.isNone = true ∧ a.modifiedAt.isNone = true
        then a.modifiedAt else b.modifiedAt) = b.modifiedAt := by
      split_ifs with none
      · rw [Option.isNone_iff_eq_none] at none
        rw [Option.isNone_iff_eq_none.mp none.2, none.1]
      · rfl
    rw [modified]

/-- An update of what was read places the new row. -/
lemma update?_eq_place (h : d.Whole) {read new : Row} (found : d.row? new.key = some (some read))
    (kept : kept? new = some new) (other : new.isUser = false) :
    d.update? read new = some (d.place new) := by
  have key := h.keyed _ _ found
  unfold update?
  split_ifs with changed
  · simp only [found, kept, patch_self key, addressFree_of_isUser other, if_true]
  · have same : read = new := by
      cases read <;> cases new <;> simp_all [differs, Row.key]
    rw [place_of_row? h.complete (same ▸ found)]

/-! ## Several rows -/

lemma Whole.placeAll (h : d.Whole) (rows : List Row) : (d.placeAll rows).Whole := by
  induction rows generalizing d with
  | nil => exact h
  | cons row rows ih => exact ih (h.place row)

/-- Under keys of none of the rows the old rows are found. -/
lemma row?_placeAll (h : d.Whole) {k : Key} (hk : k ∉ rows.map Row.key) :
    (d.placeAll rows).row? k = d.row? k := by
  induction rows generalizing d with
  | nil => rfl
  | cons row rows ih =>
    rw [List.map_cons, List.mem_cons, not_or] at hk
    rw [placeAll_cons, ih (h.place row) hk.2, row?_place h.complete, if_neg (Ne.symm hk.1)]

/-- **The order in which rows are placed**: a row that replaces one may be placed first or last. -/
theorem placeAll_place (h : d.Whole) {read new : Row}
    (found : d.row? new.key = some (some read)) (hk : new.key ∉ rows.map Row.key) :
    (d.place new).placeAll rows = (d.placeAll rows).place new := by
  induction rows generalizing d with
  | nil => rfl
  | cons row rows ih =>
    rw [List.map_cons, List.mem_cons, not_or] at hk
    have still : (d.place row).row? new.key = some (some read) := by
      rw [row?_place h.complete, if_neg (Ne.symm hk.1), found]
    rw [placeAll_cons, placeAll_cons, ← place_comm h.complete (Ne.symm hk.1) found,
      ih (h.place row) still hk.2]

/-- Updates of what was read place their rows one after the other. -/
lemma updateAll_eq_placeAll (h : d.Whole) {updates : List (Row × Row)}
    (found : ∀ u ∈ updates, d.row? u.2.key = some (some u.1))
    (keys : ((updates.map (·.2)).map Row.key).Nodup)
    (kept : ∀ u ∈ updates, kept? u.2 = some u.2) (other : ∀ u ∈ updates, u.2.isUser = false) :
    updateAll updates d = some (d.placeAll (updates.map (·.2))) := by
  induction updates generalizing d with
  | nil => rfl
  | cons u rest ih =>
    obtain ⟨read, new⟩ := u
    simp only [List.map_cons, List.nodup_cons, List.forall_mem_cons] at *
    rw [updateAll, update?_eq_place h found.1 kept.1 other.1, Option.bind_some,
      ih (h.place new) ?_ keys.2 kept.2 other.2, placeAll_cons]
    intro u hu
    have hne : new.key ≠ u.2.key := by
      intro heq
      exact keys.1 (heq ▸ List.mem_map_of_mem (List.mem_map_of_mem hu))
    rw [row?_place h.complete, if_neg hne, found.2 u hu]

/-- Inserts of new rows, with at most one account among them, place them one after the other. -/
lemma insertAll_eq_placeAll (h : d.Whole) (new : ∀ row ∈ rows, d.row? row.key = some none)
    (keys : (rows.map Row.key).Nodup) (kept : ∀ row ∈ rows, kept? row = some row)
    (free : ∀ row ∈ rows, d.addressFree row = true)
    (single : rows.Pairwise fun a b => a.isUser = true → b.isUser = false) :
    insertAll rows d = some (d.placeAll rows) := by
  induction rows generalizing d with
  | nil => rfl
  | cons row rest ih =>
    simp only [List.map_cons, List.nodup_cons, List.forall_mem_cons, List.pairwise_cons] at *
    rw [insertAll, insert?_eq_place new.1 kept.1 free.1, Option.bind_some,
      ih (h.place row) ?_ keys.2 kept.2 ?_ single.2, placeAll_cons]
    · intro x hx
      have hne : row.key ≠ x.key := fun heq => keys.1 (heq ▸ List.mem_map_of_mem hx)
      rw [row?_place h.complete, if_neg hne, new.2 x hx]
    · intro x hx
      cases hu : row.isUser with
      | true => exact addressFree_of_isUser (single.1 x hx hu)
      | false => rw [addressFree_place hu, free.2 x hx]

end Database

end CommonPurse.Store.Relational
