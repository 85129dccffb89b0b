import CommonPurse.Proofs.Relational.Row
import CommonPurse.Proofs.Relational.Session

/-!
# Two stores with the same contents

The tables of the relational store mirror the contents of the store in memory when every entity is
in its rows. Writes on one side and placed rows on the other keep it so.

## Main definitions

* `CommonPurse.Store.Relational.Mirrors` — the tables mirror the contents.
* `CommonPurse.Store.Memory.Contents.Storable` — the contents can be read back from rows.

## Main results

* `CommonPurse.Store.Relational.Mirrors.writeAll` — saving keeps the tables a mirror.
* `CommonPurse.Store.Relational.Mirrors.deletions` — so does deleting.
-/

namespace CommonPurse.Store

open CommonPurse.Store.Memory (Contents)

/-! ## What is wanted of the contents -/

namespace Memory.Contents

/-- The entities in the store can be read back from their rows. -/
structure Storable (c : Contents) : Prop where
  groups : ∀ r ∈ c.groups.rows, r.2.Storable
  expenses : ∀ r ∈ c.expenses.rows, r.2.Storable
  settlements : ∀ r ∈ c.settlements.rows, r.2.Storable

variable {c : Contents}

lemma storable_empty : Contents.empty.Storable := by
  constructor <;> exact fun _ h => nomatch h

lemma Storable.write (h : c.Storable) {w : Write} (hw : w.Storable) : (c.write w).Storable := by
  cases w with
  | saveGroup g => exact { h with groups := forall_rows_put h.groups hw }
  | deleteGroup i => exact { h with groups := forall_rows_erase h.groups i }
  | saveExpense e => exact { h with expenses := forall_rows_put h.expenses hw }
  | deleteExpense i => exact { h with expenses := forall_rows_erase h.expenses i }
  | saveSettlement s => exact { h with settlements := forall_rows_put h.settlements hw }
  | _ => exact { h with }

lemma Storable.writeAll (h : c.Storable) {ws : List Write} (hws : ∀ w ∈ ws, w.Storable) :
    (c.writeAll ws).Storable := by
  induction ws generalizing c with
  | nil => exact h
  | cons w ws ih =>
    rw [writeAll_cons]
    exact ih (h.write (hws w List.mem_cons_self)) fun x hx => hws x (List.mem_cons_of_mem _ hx)

end Memory.Contents

/-- A write under which nobody leaves a group: the members of a group that is saved again are still
among its members. -/
def Write.Keeps (c : Contents) : Write → Prop
  | .saveGroup g => ∀ old, c.groups.get? g.id = some old →
      ∀ user, g.member? user = none → old.member? user = none
  | _ => True

/-- Writes, one after the other, under which nobody leaves a group. -/
def Write.Keeping (c : Contents) : List Write → Prop
  | [] => True
  | w :: ws => w.Keeps c ∧ Keeping (c.write w) ws

namespace Relational

/-! ## The mirror -/

/-- The record and the row of an event tell of the same event, which can be read back. -/
def SameEvent (r : EventRecord) (row : EventRow) : Prop :=
  ∃ (e : Event) (p : Option Timestamp),
    e.Sound ∧ r = ⟨e.occurredAt, e.encode, p⟩ ∧ row = ⟨e.occurredAt, p, e.document⟩

/-- **The tables mirror the contents**: most of them row by row, the members of groups member by
member and in any order, and the events event by event. -/
structure Mirrors (c : Contents) (d : Database) : Prop where
  users : d.users = some c.users
  credentials : d.credentials = some c.credentials
  devices : d.devices = some c.devices
  groups : d.groups = some (c.groups.map groupRow)
  members : ∃ t, d.members = some t ∧ t.Distinct ∧
    ∀ i u, t.get? (i, u) = (c.groups.get? i).bind fun g => (g.member? u).map memberRow
  expenses : d.expenses = some c.expenses
  settlements : d.settlements = some (c.settlements.map settlementRow)
  events : ∃ t, d.events = some t ∧ ∀ i, Option.Rel SameEvent (c.events.get? i) (t.get? i)

variable {c : Contents} {d : Database}

lemma mirrors_empty : Mirrors .empty .empty where
  users := rfl
  credentials := rfl
  devices := rfl
  groups := rfl
  members := ⟨.empty, rfl, Table.distinct_empty, fun _ _ => rfl⟩
  expenses := rfl
  settlements := rfl
  events := ⟨.empty, rfl, fun _ => .none⟩

/-- All tables are there, and every row stands under its key. -/
lemma Mirrors.whole (h : Mirrors c d) (ho : c.Orderly) : d.Whole := by
  obtain ⟨u, cr, dv, g, m, e, s, l⟩ := d
  obtain ⟨rfl, rfl, rfl, rfl, ⟨t, rfl, -⟩, rfl, rfl, ⟨t', rfl, -⟩⟩ := h
  refine ⟨⟨_, _, _, _, _, _, _, _, rfl⟩, fun k row hk => ?_⟩
  cases k <;>
    simp only [Database.row?, Option.map_some, Option.some.injEq, Option.map_eq_some_iff] at hk <;>
    obtain ⟨x, hx, rfl⟩ := hk
  case user i => rw [Row.key, ho.user_id hx]
  case expense i => rw [Row.key, ho.expense_id hx]
  all_goals rfl

/-! ## Saving -/

/-- The members of a group put into the table of members. -/
def putMembers (i : Id) (t : Table (Id × Id) MemberRow) (ms : List Member) :
    Table (Id × Id) MemberRow :=
  ms.foldl (fun t m => t.put (i, m.id) (memberRow m)) t

lemma placeAll_members (i : Id) (ms : List Member) :
    d.placeAll (ms.map fun m => .member i m.id (memberRow m)) =
      { d with members := d.members.map (putMembers i · ms) } := by
  induction ms generalizing d with
  | nil => simp [putMembers]
  | cons m ms ih =>
    rw [List.map_cons, Database.placeAll_cons, ih]
    simp only [Database.place, Option.map_map]
    rfl

lemma distinct_putMembers {t : Table (Id × Id) MemberRow} (h : t.Distinct) (i : Id)
    (ms : List Member) : (putMembers i t ms).Distinct := by
  induction ms generalizing t with
  | nil => exact h
  | cons m ms ih => exact ih (h.put _ _)

/-- What is found when members have been put in: the row of the member, or what was there. -/
lemma get?_putMembers (t : Table (Id × Id) MemberRow) (i : Id) {ms : List Member}
    (hn : (ms.map (·.id)).Nodup) (j u : Id) :
    (putMembers i t ms).get? (j, u) =
      if i = j then ((ms.find? (·.id = u)).map memberRow).or (t.get? (j, u))
      else t.get? (j, u) := by
  induction ms generalizing t with
  | nil => simp [putMembers]
  | cons m ms ih =>
    rw [List.map_cons, List.nodup_cons] at hn
    have step : putMembers i t (m :: ms) = putMembers i (t.put (i, m.id) (memberRow m)) ms := rfl
    rw [step, ih _ hn.2, Table.get?_put]
    by_cases hi : i = j
    · subst hi
      by_cases hu : m.id = u
      · subst hu
        have later : ms.find? (·.id = m.id) = none := by
          rw [List.find?_eq_none]
          intro x hx hxm
          exact hn.1 (List.mem_map.mpr ⟨x, hx, by simpa using hxm⟩)
        simp [later]
      · simp [hu]
    · simp [hi]

/-- Saving keeps the tables a mirror. -/
lemma Mirrors.write (h : Mirrors c d) {w : Write} (saves : w.isSave = true) (proper : w.Proper)
    (keeps : w.Keeps c) : Mirrors (c.write w) (d.placeAll (rowsOf w)) := by
  cases w with
  | saveUser u =>
    exact { h with users := by rw [rowsOf, Database.placeAll_cons, Database.place, h.users]; rfl }
  | saveCredential email hash =>
    exact { h with
      credentials := by rw [rowsOf, Database.placeAll_cons, Database.place, h.credentials]; rfl }
  | saveExpense e =>
    exact { h with
      expenses := by rw [rowsOf, Database.placeAll_cons, Database.place, h.expenses]; rfl }
  | saveSettlement s =>
    exact { h with
      settlements := by
        rw [rowsOf, Database.placeAll_cons, Database.place, h.settlements, Contents.write,
          Table.map_put]
        rfl }
  | saveGroup g =>
    obtain ⟨t, ht, hd, hget⟩ := h.members
    have placed : d.placeAll (rowsOf (.saveGroup g)) =
        { d with
          groups := d.groups.map fun t => t.put g.id (groupRow g)
          members := d.members.map (putMembers g.id · g.members) } := by
      rw [rowsOf, groupRows, Database.placeAll_cons, placeAll_members]
      rfl
    rw [placed]
    refine { h with
      groups := by rw [h.groups, Contents.write, Table.map_put]; rfl
      members := ⟨putMembers g.id t g.members, by rw [ht]; rfl, distinct_putMembers hd _ _, ?_⟩ }
    intro i u
    rw [get?_putMembers t g.id proper, Contents.write, Table.get?_put, hget]
    split_ifs with hi
    · subst hi
      rw [Option.bind_some]
      cases hm : g.members.find? (·.id = u) with
      | some m => rw [Group.member?, hm]; rfl
      | none =>
        have none_ : g.member? u = none := hm
        rw [none_]
        cases ho : c.groups.get? g.id with
        | none => rfl
        | some old => simp [keeps old ho u none_]
    · rfl
  | _ => cases saves

/-- **Saving keeps the tables a mirror**, also when several writes save something. -/
theorem Mirrors.writeAll (h : Mirrors c d) {ws : List Write} (saves : ∀ w ∈ ws, w.isSave = true)
    (proper : ∀ w ∈ ws, w.Proper) (keeping : Write.Keeping c ws) :
    Mirrors (c.writeAll ws) (d.placeAll (ws.flatMap rowsOf)) := by
  induction ws generalizing c d with
  | nil => exact h
  | cons w ws ih =>
    have first := h.write (saves w List.mem_cons_self) (proper w List.mem_cons_self) keeping.1
    rw [List.flatMap_cons, Database.placeAll_append]
    exact ih first (fun x hx => saves x (List.mem_cons_of_mem _ hx))
      (fun x hx => proper x (List.mem_cons_of_mem _ hx)) keeping.2

/-! ## Deleting -/

/-- **Deleting keeps the tables a mirror**, and does not fail. -/
theorem Mirrors.deletion (h : Mirrors c d) {w : Write} (deletes : w.isSave = false) :
    ∃ d', deletion d w = some d' ∧ Mirrors (c.write w) d' := by
  cases w with
  | deleteUser i =>
    refine ⟨{ d with users := some (c.users.erase i) }, ?_, { h with users := rfl }⟩
    rw [Relational.deletion, Database.delete?, h.users]
    rfl
  | deleteCredential email =>
    refine ⟨{ d with credentials := some (c.credentials.erase (Text.lower email)) }, ?_,
      { h with credentials := rfl }⟩
    rw [Relational.deletion, Database.delete?, h.credentials]
    rfl
  | deleteExpense i =>
    refine ⟨{ d with expenses := some (c.expenses.erase i) }, ?_, { h with expenses := rfl }⟩
    rw [Relational.deletion, Database.delete?, h.expenses]
    rfl
  | deleteGroup i =>
    obtain ⟨t, ht, hd, hget⟩ := h.members
    refine ⟨{ d with
      members := some ⟨t.rows.filter fun r => r.1.1 ≠ i⟩
      groups := some ((c.groups.map groupRow).erase i) }, ?_, { h with
      groups := by rw [Contents.write, Table.map_erase]
      members := ⟨_, rfl, hd.filter _, fun j u => ?_⟩ }⟩
    · rw [Relational.deletion, Database.deleteMembers?, ht]
      simp only [Option.map_some, Option.bind_some, Database.delete?, h.groups]
    · rw [Table.get?_filter (fun k : Id × Id => decide (k.1 ≠ i)), Contents.write,
        Table.get?_erase, hget]
      by_cases hi : i = j
      · simp [hi]
      · simp [hi, Ne.symm hi]
  | _ => cases deletes

theorem Mirrors.deletions (h : Mirrors c d) {ds : List Write}
    (deletes : ∀ w ∈ ds, w.isSave = false) :
    ∃ d', deletions d ds = some d' ∧ Mirrors (c.writeAll ds) d' := by
  induction ds generalizing c d with
  | nil => exact ⟨d, rfl, h⟩
  | cons w ds ih =>
    obtain ⟨d₁, hd₁, h₁⟩ := h.deletion (deletes w List.mem_cons_self)
    obtain ⟨d', hd', h'⟩ := ih h₁ fun x hx => deletes x (List.mem_cons_of_mem _ hx)
    exact ⟨d', by rw [Relational.deletions, hd₁, Option.bind_some, hd'], h'⟩

/-! ## The log and the devices -/

/-- A log that holds the same events still does when the same event is put into both. -/
lemma rel_put {t : Table Id EventRecord} {t' : Table Id EventRow}
    (h : ∀ i, Option.Rel SameEvent (t.get? i) (t'.get? i)) {r : EventRecord} {row : EventRow}
    (same : SameEvent r row) (k : Id) :
    ∀ i, Option.Rel SameEvent ((t.put k r).get? i) ((t'.put k row).get? i) := by
  intro i
  rw [Table.get?_put, Table.get?_put]
  split_ifs
  · exact .some same
  · exact h i

/-- The log may be another one that holds the same events on both sides. -/
lemma Mirrors.eventsTo (h : Mirrors c d) {l : Table Id EventRecord} {l' : Table Id EventRow}
    (same : ∀ i, Option.Rel SameEvent (l.get? i) (l'.get? i)) :
    Mirrors { c with events := l } { d with events := some l' } :=
  { h with events := ⟨l', rfl, same⟩ }

/-- Logging an event keeps the tables a mirror. -/
lemma Mirrors.log (h : Mirrors c d) {e : Event} (he : e.Sound) :
    Mirrors { c with events := c.events.put e.id (Memory.recordOf e) } (d.place (eventRow e)) := by
  obtain ⟨t, ht, hget⟩ := h.events
  have placed : d.place (eventRow e) =
      { d with events := some (t.put e.id ⟨e.occurredAt, none, e.document⟩) } := by
    rw [eventRow, Database.place, ht, Option.map_some]
  rw [placed]
  exact h.eventsTo (rel_put hget ⟨e, none, he, rfl, rfl⟩ e.id)

/-- Nor does it matter what becomes of a device. -/
lemma Mirrors.devicesTo (h : Mirrors c d) (t : Table Id String) :
    Mirrors { c with devices := t } { d with devices := some t } :=
  { h with devices := rfl }

end Relational

end CommonPurse.Store
