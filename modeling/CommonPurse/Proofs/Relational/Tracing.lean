import CommonPurse.Proofs.Relational.Outcome
import CommonPurse.Proofs.Store.Table

/-!
# Colours in a relational store

Any number of transactions of a relational store are open at the same time, and others may write to
its database too. The colour of a member passes from the group that is saved through the rows that a
transaction collects and its copy of the tables into the database, and is nowhere changed on its
way. So every stored colour is one that has been saved for that member, or one that came from
elsewhere.

## Main definitions

* `CommonPurse.Store.Relational.Shared` — a relational store and the transactions on it.
* `CommonPurse.Store.Relational.Shared.act`, `CommonPurse.Store.Relational.Shared.run` — single
  operations, and operations one after the other.
* `CommonPurse.Store.Relational.Shared.Saved`, `CommonPurse.Store.Relational.Shared.Foreign` — the
  colours that have been saved, and those that came from elsewhere.
* `CommonPurse.Store.Relational.Database.Traced`, `CommonPurse.Store.Relational.Session.Traced` —
  all colours in tables and in transactions are known.

## Main results

* `CommonPurse.Store.Relational.flush_traced` — writing what has been collected.
* `CommonPurse.Store.Relational.Shared.Traced.act` — single operations.
* `CommonPurse.Store.Relational.Shared.traced_run` — whole runs.
-/

namespace CommonPurse.Store.Relational

/-! ## Transactions that share a store -/

/-- A relational store, and the transactions that have been started on it or have come to it from
another store. A transaction is known by its place. -/
structure Shared where
  store : Relational
  handles : List (Handle Session)

namespace Shared

/-- One operation on a shared store. -/
inductive Step where
  /-- A transaction is started. -/
  | start
  /-- A transaction of another store turns up. -/
  | meet (active : Bool)
  | write (k : ℕ) (w : Write)
  | log (k : ℕ) (events : List Event)
  | commit (k : ℕ)
  | rollback (k : ℕ)
  | saveDevice (user : Id) (device : String)
  | removeDevice (user : Id)
  | markProcessed (event : Id) (now : Timestamp)
  /-- Others leave the database with these tables. -/
  | replace (d : Database)

/-- Use the transaction at a place. Beyond the last one there is nothing to use. -/
def use (s : Shared) (k : ℕ)
    (f : Handle Session → Relational → Except Error Unit × Handle Session × Relational) :
    Except Error Unit × Shared :=
  match s.handles[k]? with
  | none => (.error .inactive, s)
  | some t =>
    match f t s.store with
    | (a, t, r) => (a, ⟨r, s.handles.set k t⟩)

/-- Change the store without a transaction. -/
def directly (s : Shared) (f : Relational → Except Error Unit × Relational) :
    Except Error Unit × Shared :=
  match f s.store with
  | (a, r) => (a, ⟨r, s.handles⟩)

/-- Carry out an operation; the answer says whether it was refused. -/
def act (s : Shared) : Step → Except Error Unit × Shared
  | .start =>
    match backend.start s.store with
    | (.ok t, r) => (.ok (), ⟨r, s.handles ++ [.own t]⟩)
    | (.error e, r) => (.error e, ⟨r, s.handles⟩)
  | .meet active => (.ok (), ⟨s.store, s.handles ++ [.foreign active]⟩)
  | .write k w => s.use k (backend.write w)
  | .log k events => s.use k (backend.log events)
  | .commit k => s.use k backend.commit
  | .rollback k => s.use k backend.rollback
  | .saveDevice user device => s.directly (backend.saveDevice user device)
  | .removeDevice user => s.directly (backend.removeDevice user)
  | .markProcessed event now => s.directly (backend.markProcessed event now)
  | .replace d => (.ok (), ⟨{ s.store with database := d }, s.handles⟩)

/-- Carry out operations one after the other. -/
def run (s : Shared) (steps : List Step) : Shared := steps.foldl (fun s x => (s.act x).2) s

/-- A store on which no transaction has been started yet, whatever is in its tables. -/
def begin (r : Relational) : Shared := ⟨r, []⟩

end Shared

/-! ## Where colours come from -/

/-- There is a row of a member in the tables. -/
def Database.Lists (d : Database) (i u : Id) (row : MemberRow) : Prop :=
  ∃ t, d.members = some t ∧ ((i, u), row) ∈ t.rows

namespace Shared

/-- An operation saves a colour for a member of a group. -/
def Step.Saves (x : Step) (i u : Id) (c : Color) : Prop :=
  ∃ k g, x = .write k (.saveGroup g) ∧ g.id = i ∧ ∃ m ∈ g.members, m.id = u ∧ m.color = c

/-- Others bring the text of a colour into the row of a member. -/
def Step.Brings (x : Step) (i u : Id) (color : String) : Prop :=
  ∃ d row, x = .replace d ∧ d.Lists i u row ∧ row.color = color

/-- One of the operations saves a colour for a member of a group. -/
def Saved (xs : List Step) (i u : Id) (c : Color) : Prop := ∃ x ∈ xs, x.Saves i u c

/-- The text of a colour has been in the row of a member from the beginning, or others have brought
it there. -/
def Foreign (r : Relational) (xs : List Step) (i u : Id) (color : String) : Prop :=
  (∃ row, r.database.Lists i u row ∧ row.color = color) ∨ ∃ x ∈ xs, x.Brings i u color

end Shared

section Traced

/- The texts that are known as colours of members. -/
variable (known : Id → Id → String → Prop)

/-- If a row is that of a member, its colour is known. -/
def Row.Traced : Row → Prop
  | .member i u row => known i u row.color
  | _ => True

/-- All colours in the tables are known. -/
def Database.Traced (d : Database) : Prop := ∀ i u row, d.Lists i u row → known i u row.color

/-- All colours that a transaction has collected or written are known. -/
structure Session.Traced (s : Session) : Prop where
  working : ∀ d, s.working = some d → d.Traced known
  inserts : ∀ row ∈ s.inserts, row.Traced known
  updates : ∀ u ∈ s.updates, u.2.Traced known

/-- So are all colours in a shared store. -/
structure Shared.Traced (s : Shared) : Prop where
  stored : s.store.database.Traced known
  handles : ∀ t, .own t ∈ s.handles → t.Traced known

end Traced

variable {known : Id → Id → String → Prop} {d d' : Database} {s : Session} {r : Relational}

/-! ## Statements -/

/-- Columns keep colours. -/
lemma Row.Traced.kept {row kept : Row} (h : row.Traced known)
    (keeps : Database.kept? row = some kept) : kept.Traced known := by
  cases row with
  | expense e =>
    obtain ⟨a, -, rfl⟩ := Option.map_eq_some_iff.mp keeps
    trivial
  | _ =>
    obtain rfl := Option.some.inj keeps
    exact h

/-- A row of a member that is found stands in the tables under its key. -/
lemma Database.lists_of_row? {k : Key} {i u : Id} {row : MemberRow}
    (h : d.row? k = some (some (.member i u row))) : k = .member i u ∧ d.Lists i u row := by
  cases k with
  | member j v =>
    obtain ⟨t, table, found⟩ := Option.map_eq_some_iff.mp h
    obtain ⟨row', get, same⟩ := Option.map_eq_some_iff.mp found
    cases same
    exact ⟨rfl, t, table, Table.mem_of_get? get⟩
  | _ =>
    obtain ⟨t, -, found⟩ := Option.map_eq_some_iff.mp h
    obtain ⟨a, -, same⟩ := Option.map_eq_some_iff.mp found
    cases same

/-- Tables without further rows of members have no further colours. -/
lemma Database.Traced.mono (h : d.Traced known)
    (less : ∀ i u row, d'.Lists i u row → d.Lists i u row) : d'.Traced known :=
  fun i u row there => h i u row (less i u row there)

/-- A row is placed with its colour. -/
lemma Database.Traced.place (h : d.Traced known) {row : Row} (hr : row.Traced known) :
    (d.place row).Traced known := by
  cases row with
  | member i u new =>
    rintro j v row ⟨t, table, mem⟩
    obtain ⟨t₀, table₀, rfl⟩ := Option.map_eq_some_iff.mp table
    rcases Table.mem_rows_put mem with same | old
    · obtain ⟨key, rfl⟩ := Prod.mk.inj same
      obtain ⟨rfl, rfl⟩ := Prod.mk.inj key
      exact hr
    · exact h j v row ⟨t₀, table₀, old⟩
  | _ => exact h

/-- An update writes the new colour or leaves the stored one. -/
lemma Row.Traced.patch {read new stored : Row} (hn : new.Traced known)
    (hs : ∀ i u row, stored = .member i u row → new.key = .member i u ∧ known i u row.color) :
    (Database.patch read new stored).Traced known := by
  unfold Database.patch
  split
  · trivial
  · trivial
  next a j v b i u c =>
    obtain ⟨same, old⟩ := hs i u c rfl
    obtain ⟨rfl, rfl⟩ := Key.member.inj same
    show known j v (Database.column a.color b.color c.color)
    unfold Database.column
    split_ifs
    · exact old
    · exact hn
  · trivial
  · exact hn

lemma Database.Traced.insert? (h : d.Traced known) {row : Row} (hr : row.Traced known)
    (done : d.insert? row = some d') : d'.Traced known := by
  unfold Database.insert? at done
  split at done
  next kept _ keeps =>
    split_ifs at done
    rw [← Option.some.inj done]
    exact h.place (hr.kept keeps)
  next => cases done

lemma Database.Traced.update? (h : d.Traced known) {read new : Row} (hn : new.Traced known)
    (done : d.update? read new = some d') : d'.Traced known := by
  unfold Database.update? at done
  split_ifs at done with changed
  · split at done
    next stored kept found keeps =>
      dsimp only at done
      split_ifs at done
      rw [← Option.some.inj done]
      refine h.place ((hn.kept keeps).patch fun i u row same => ?_)
      subst same
      obtain ⟨key, there⟩ := Database.lists_of_row? found
      exact ⟨(key_of_kept? keeps).trans key, h i u row there⟩
    next => cases done
  · rwa [← Option.some.inj done]

lemma Database.Traced.delete? (h : d.Traced known) {k : Key} (done : d.delete? k = some d') :
    d'.Traced known := by
  cases k with
  | member i u =>
    obtain ⟨t, table, rfl⟩ := Option.map_eq_some_iff.mp done
    refine h.mono ?_
    rintro j v row ⟨t', same, mem⟩
    obtain rfl := Option.some.inj same
    exact ⟨t, table, (Table.mem_rows_erase.mp mem).1⟩
  | _ =>
    obtain ⟨t, -, rfl⟩ := Option.map_eq_some_iff.mp done
    exact h

lemma Database.Traced.deleteMembers? (h : d.Traced known) {group : Id}
    (done : d.deleteMembers? group = some d') : d'.Traced known := by
  obtain ⟨t, table, rfl⟩ := Option.map_eq_some_iff.mp done
  refine h.mono ?_
  rintro j v row ⟨t', same, mem⟩
  obtain rfl := Option.some.inj same
  exact ⟨t, table, List.mem_of_mem_filter mem⟩

lemma Database.Traced.insertAll (h : d.Traced known) {rows : List Row}
    (hr : ∀ row ∈ rows, row.Traced known) (done : insertAll rows d = some d') :
    d'.Traced known := by
  induction rows generalizing d with
  | nil => rwa [← Option.some.inj done]
  | cons row rest ih =>
    obtain ⟨d₁, first, others⟩ := Option.bind_eq_some_iff.mp done
    obtain ⟨hrow, hrest⟩ := List.forall_mem_cons.mp hr
    exact ih (h.insert? hrow first) hrest others

lemma Database.Traced.updateAll (h : d.Traced known) {updates : List (Row × Row)}
    (hu : ∀ u ∈ updates, u.2.Traced known) (done : updateAll updates d = some d') :
    d'.Traced known := by
  induction updates generalizing d with
  | nil => rwa [← Option.some.inj done]
  | cons u rest ih =>
    obtain ⟨d₁, first, others⟩ := Option.bind_eq_some_iff.mp done
    obtain ⟨hfirst, hrest⟩ := List.forall_mem_cons.mp hu
    exact ih (h.update? hfirst first) hrest others

/-! ## Transactions -/

namespace Session.Traced

lemma new (n : ℕ) : (Session.new n).Traced known where
  working d h := by cases h
  inserts row h := by cases h
  updates u h := by cases h

lemma closed (s : Session) : s.closed.Traced known where
  working d h := by cases h
  inserts row h := by cases h
  updates u h := by cases h

lemma failed (s : Session) : s.failed.Traced known where
  working d h := by cases h
  inserts row h := by cases h
  updates u h := by cases h

/-- A transaction sees known colours only. -/
lemma seen (h : s.Traced known) (hd : r.database.Traced known) :
    (Relational.seen s r).Traced known := by
  unfold Relational.seen
  cases working : s.working with
  | none => exact hd
  | some d => exact h.working d working

/-- A row is collected with its colour. -/
lemma merge (h : s.Traced known) {row : Row} (hr : row.Traced known) {s' : Session}
    (done : Relational.merge row s r = some s') : s'.Traced known := by
  have replaced : ∀ updates : List (Row × Row), (∀ u ∈ updates, u.2.Traced known) →
      ∀ u ∈ replaceUpdate row updates, u.2.Traced known := by
    intro updates hu
    induction updates with
    | nil => exact hu
    | cons x rest ih =>
      obtain ⟨first, others⟩ := List.forall_mem_cons.mp hu
      unfold replaceUpdate
      split_ifs
      · exact List.forall_mem_cons.mpr ⟨hr, others⟩
      · exact List.forall_mem_cons.mpr ⟨first, ih others⟩
  unfold Relational.merge at done
  split_ifs at done
  · rw [← Option.some.inj done]
    exact { h with updates := replaced _ h.updates }
  · split at done
    · cases done
    · rw [← Option.some.inj done]
      refine { h with inserts := fun x hx => ?_ }
      rcases List.mem_append.mp hx with hx | hx
      · exact h.inserts x hx
      · exact List.mem_singleton.mp hx ▸ hr
    · rw [← Option.some.inj done]
      refine { h with updates := fun x hx => ?_ }
      rcases List.mem_append.mp hx with hx | hx
      · exact h.updates x hx
      · exact List.mem_singleton.mp hx ▸ hr

lemma mergeAll (h : s.Traced known) {rows : List Row} (hr : ∀ row ∈ rows, row.Traced known) :
    (Relational.mergeAll rows s r).2.Traced known := by
  induction rows generalizing s with
  | nil => exact h
  | cons row rest ih =>
    obtain ⟨hrow, hrest⟩ := List.forall_mem_cons.mp hr
    unfold Relational.mergeAll
    split
    · exact h
    next merged => exact ih (h.merge hrow merged) hrest

end Session.Traced

/-- **Writing what has been collected** brings known colours only, whether or not it succeeds. -/
theorem flush_traced (h : s.Traced known) (hd : r.database.Traced known) :
    (flush s r).2.1.Traced known ∧ (flush s r).2.2.database.Traced known := by
  unfold flush
  split_ifs
  · exact ⟨h, hd⟩
  · exact ⟨h, hd⟩
  · exact ⟨{ h with updates := by simp }, hd⟩
  · split
    next written flushed =>
      refine ⟨⟨?_, by simp [wrote], by simp [wrote]⟩, hd⟩
      rintro d' same
      obtain rfl := Option.some.inj same
      obtain ⟨d₁, updated, inserted⟩ := Option.bind_eq_some_iff.mp flushed
      have sorted : ∀ u ∈ s.updates.mergeSort fun a b => rank a.2 ≤ rank b.2, u.2.Traced known :=
        fun u hu => h.updates u ((List.mergeSort_perm _ _).mem_iff.mp hu)
      exact ((h.seen hd).updateAll sorted updated).insertAll h.inserts inserted
    next => exact ⟨.failed s, by rwa [database_release]⟩
  · exact ⟨.failed s, by rwa [database_release]⟩

/-- A transaction that deletes has another copy of the tables, and drops updates. -/
lemma wrote_traced (h : s.Traced known) (hd : r.database.Traced known) (ht : d.Traced known)
    (p : Row × Row → Bool) :
    (wrote { s with updates := s.updates.filter p } r d).1.Traced known ∧
      (wrote { s with updates := s.updates.filter p } r d).2.database.Traced known := by
  refine ⟨⟨?_, h.inserts, fun u hu => h.updates u (List.mem_of_mem_filter hu)⟩, hd⟩
  rintro d' same
  obtain rfl := Option.some.inj same
  exact ht

lemma erase_traced (h : s.Traced known) (hd : r.database.Traced known) {k : Key}
    {after : Session × Relational} (done : erase k s r = some after) :
    after.1.Traced known ∧ after.2.database.Traced known := by
  unfold erase at done
  split_ifs at done
  obtain ⟨d, deleted, rfl⟩ := Option.map_eq_some_iff.mp done
  exact wrote_traced h hd ((h.seen hd).delete? deleted) _

lemma eraseMembers_traced (h : s.Traced known) (hd : r.database.Traced known) {group : Id}
    {after : Session × Relational} (done : eraseMembers group s r = some after) :
    after.1.Traced known ∧ after.2.database.Traced known := by
  unfold eraseMembers at done
  split_ifs at done
  obtain ⟨d, deleted, rfl⟩ := Option.map_eq_some_iff.mp done
  exact wrote_traced h hd ((h.seen hd).deleteMembers? deleted) _

lemma eraseFor_traced (h : s.Traced known) (hd : r.database.Traced known) (w : Write) :
    (eraseFor w s r).2.1.Traced known ∧ (eraseFor w s r).2.2.database.Traced known := by
  cases w with
  | deleteUser _ | deleteCredential _ | deleteExpense _ =>
    dsimp only [eraseFor]
    split
    next erased => exact erase_traced h hd erased
    next => exact ⟨h, hd⟩
  | deleteGroup i =>
    dsimp only [eraseFor]
    split
    next others =>
      obtain ⟨h', hd'⟩ := eraseMembers_traced h hd others
      split
      next erased => exact erase_traced h' hd' erased
      next => exact ⟨h', hd'⟩
    next => exact ⟨h, hd⟩
  | _ => exact ⟨h, hd⟩

/-- The rows of a group have the colours of its members. -/
lemma rowsOf_traced {w : Write}
    (h : ∀ g, w = .saveGroup g → ∀ m ∈ g.members, known g.id m.id m.color.text) :
    ∀ row ∈ rowsOf w, row.Traced known := by
  intro row mem
  cases w with
  | saveGroup g =>
    rcases List.mem_cons.mp mem with rfl | mem
    · trivial
    · obtain ⟨m, hm, rfl⟩ := List.mem_map.mp mem
      exact h g rfl m hm
  | saveUser u => rw [List.mem_singleton.mp mem]; trivial
  | saveCredential email hash => rw [List.mem_singleton.mp mem]; trivial
  | saveExpense e => rw [List.mem_singleton.mp mem]; trivial
  | saveSettlement x => rw [List.mem_singleton.mp mem]; trivial
  | _ => cases mem

/-! ## Operations of transactions -/

variable (known) in
/-- An operation of a transaction brings known colours only. -/
def Keeps (f : Handle Session → Relational → Except Error Unit × Handle Session × Relational) :
    Prop :=
  ∀ t r, (∀ s, t = .own s → s.Traced known) → r.database.Traced known →
    (∀ s, (f t r).2.1 = .own s → s.Traced known) ∧ (f t r).2.2.database.Traced known

lemma keeps_within {step : Session → Relational → Except Error Unit × Session × Relational}
    (h : ∀ s r, s.Traced known → r.database.Traced known →
      (step s r).2.1.Traced known ∧ (step s r).2.2.database.Traced known) :
    Keeps known fun t r => within t r fun s => step s r := by
  intro t r ht hd
  cases t with
  | foreign a => exact ⟨fun s same => (nomatch same), hd⟩
  | own s =>
    obtain ⟨hs, hd'⟩ := h s r (ht s rfl) hd
    dsimp only [within]
    split_ifs
    · refine ⟨fun s' same => ?_, hd'⟩
      rwa [← Handle.own.inj same]
    · exact ⟨ht, hd⟩

lemma keeps_write {w : Write}
    (h : ∀ g, w = .saveGroup g → ∀ m ∈ g.members, known g.id m.id m.color.text) :
    Keeps known (backend.write w) := by
  refine keeps_within fun s r hs hd => ?_
  have merged := hs.mergeAll (r := r) (rowsOf_traced h)
  split
  next rows => rw [rows] at merged; exact ⟨merged, hd⟩
  next s' rows =>
    rw [rows] at merged
    exact eraseFor_traced merged hd w

lemma keeps_log (events : List Event) : Keeps known (backend.log events) := by
  refine keeps_within fun s r hs hd => ?_
  refine flush_traced { hs with inserts := fun row mem => ?_ } hd
  rcases List.mem_append.mp mem with mem | mem
  · exact hs.inserts row mem
  · obtain ⟨e, -, rfl⟩ := List.mem_map.mp mem
    trivial

lemma keeps_commit : Keeps known backend.commit := by
  refine keeps_within fun s r hs hd => ?_
  have written : (if s.broken then (false, s, r) else flush s r).2.1.Traced known ∧
      (if s.broken then (false, s, r) else flush s r).2.2.database.Traced known := by
    split_ifs
    · exact ⟨hs, hd⟩
    · exact flush_traced hs hd
  generalize (if s.broken then (false, s, r) else flush s r) = after at written
  obtain ⟨worked, s', r'⟩ := after
  obtain ⟨hs', hd'⟩ := written
  cases worked with
  | false => exact ⟨.closed s', by rwa [database_release]⟩
  | true => exact ⟨.closed s', by rw [database_release]; exact hs'.seen hd'⟩

lemma keeps_rollback : Keeps known backend.rollback := by
  intro t r ht hd
  cases t with
  | foreign a => exact ⟨fun s same => (nomatch same), hd⟩
  | own s =>
    dsimp only [backend, rollback]
    split_ifs
    · refine ⟨fun s' same => ?_, by rwa [database_release]⟩
      rw [← Handle.own.inj same]
      exact .closed s
    · exact ⟨ht, hd⟩

/-! ## Changes without a transaction -/

lemma immediately_traced (hd : r.database.Traced known) {e : Error}
    {change : Database → Option Database}
    (h : ∀ d', change r.database = some d' → d'.Traced known) :
    (immediately e change r).2.database.Traced known := by
  unfold immediately
  split
  next d' done =>
    split_ifs at done
    exact h d' done
  next => exact hd

lemma saveDevice_traced (hd : r.database.Traced known) (user : Id) (device : String) :
    (saveDevice user device r).2.database.Traced known := by
  have traced : Row.Traced known (.device user device) := trivial
  dsimp only [saveDevice]
  split
  · exact hd
  · exact immediately_traced hd fun d' done => hd.insert? traced done
  · split_ifs
    · exact hd
    · exact immediately_traced hd fun d' done => hd.update? traced done
  · exact hd

lemma removeDevice_traced (hd : r.database.Traced known) (user : Id) :
    (removeDevice user r).2.database.Traced known :=
  immediately_traced hd fun _ done => hd.delete? done

lemma markProcessed_traced (hd : r.database.Traced known) (event : Id) (now : Timestamp) :
    (markProcessed event now r).2.database.Traced known := by
  dsimp only [markProcessed]
  split
  · exact hd
  · split
    · exact hd
    · split
      · exact hd
      · refine immediately_traced hd fun d' done => ?_
        rw [← Option.some.inj done]
        exact hd.place trivial

/-! ## Runs -/

namespace Shared

lemma Traced.use {s : Shared} (h : s.Traced known) (k : ℕ)
    {f : Handle Session → Relational → Except Error Unit × Handle Session × Relational}
    (hf : Keeps known f) : (s.use k f).2.Traced known := by
  unfold Shared.use
  split
  · exact h
  next t found =>
    have mem := List.mem_of_getElem? found
    obtain ⟨ht, hd⟩ := hf t s.store (fun u same => h.handles u (same ▸ mem)) h.stored
    refine ⟨hd, fun u hu => ?_⟩
    rcases List.mem_or_eq_of_mem_set hu with old | new
    · exact h.handles u old
    · exact ht u new.symm

/-- **An operation brings no colours but those that it saves or that others bring.** -/
theorem Traced.act {s : Shared} (h : s.Traced known) (x : Step)
    (saves : ∀ i u c, x.Saves i u c → known i u c.text)
    (brings : ∀ i u color, x.Brings i u color → known i u color) : (s.act x).2.Traced known := by
  cases x with
  | start =>
    refine ⟨h.stored, fun u hu => ?_⟩
    rcases List.mem_append.mp hu with old | new
    · exact h.handles u old
    · rw [Handle.own.inj (List.mem_singleton.mp new)]
      exact .new _
  | meet active =>
    refine ⟨h.stored, fun u hu => ?_⟩
    rcases List.mem_append.mp hu with old | new
    · exact h.handles u old
    · cases List.mem_singleton.mp new
  | write k w =>
    refine h.use k (keeps_write ?_)
    rintro g rfl m mem
    exact saves g.id m.id m.color ⟨k, g, rfl, rfl, m, mem, rfl, rfl⟩
  | log k events => exact h.use k (keeps_log events)
  | commit k => exact h.use k keeps_commit
  | rollback k => exact h.use k keeps_rollback
  | saveDevice user device => exact ⟨saveDevice_traced h.stored user device, h.handles⟩
  | removeDevice user => exact ⟨removeDevice_traced h.stored user, h.handles⟩
  | markProcessed event now => exact ⟨markProcessed_traced h.stored event now, h.handles⟩
  | replace d =>
    exact ⟨fun i u row there => brings i u row.color ⟨d, row, rfl, there, rfl⟩, h.handles⟩

/-- Operations one after the other bring no colours but those that they save or that others
bring. -/
theorem Traced.run {s : Shared} (h : s.Traced known) {xs : List Step}
    (saves : ∀ x ∈ xs, ∀ i u c, x.Saves i u c → known i u c.text)
    (brings : ∀ x ∈ xs, ∀ i u color, x.Brings i u color → known i u color) :
    (s.run xs).Traced known := by
  induction xs generalizing s with
  | nil => exact h
  | cons x xs ih =>
    obtain ⟨saved, saves⟩ := List.forall_mem_cons.mp saves
    obtain ⟨brought, brings⟩ := List.forall_mem_cons.mp brings
    exact ih (h.act x saved brought) saves brings

/-- **Every colour in a run has been saved in it, or it came from elsewhere.** -/
theorem traced_run (r : Relational) (xs : List Step) :
    ((begin r).run xs).Traced fun i u color =>
      (∃ c, Saved xs i u c ∧ color = c.text) ∨ Foreign r xs i u color := by
  have first : (begin r).Traced fun i u color =>
      (∃ c, Saved xs i u c ∧ color = c.text) ∨ Foreign r xs i u color :=
    ⟨fun i u row there => .inr (.inl ⟨row, there, rfl⟩), fun t ht => by cases ht⟩
  refine first.run (fun x mem i u c saves => ?_) fun x mem i u color brings => ?_
  · exact .inl ⟨c, ⟨x, mem, saves⟩, rfl⟩
  · exact .inr (.inr ⟨x, mem, brings⟩)

end Shared

end CommonPurse.Store.Relational
