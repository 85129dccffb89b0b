import CommonPurse.Proofs.Relational.Session

/-!
# What can become of a unit of work on the relational store

A unit of work that was planned on what the tables used to show may meet rows that have changed, and
an address or an identifier that has been taken in between. Then it fails as a whole and the tables
stay as they are. Otherwise each row that is saved stands in its table as the columns keep it, and
what stood under the other keys is still there.

## Main definitions

* `CommonPurse.Store.Relational.Placed` — rows that are written one after the other.

## Main results

* `CommonPurse.Store.Relational.Placed.row?_of_mem`, `Placed.row?_of_notMem` — what is found when
  rows have been written.
* `CommonPurse.Store.Relational.carryOut_cases` — what can become of a unit of work.
-/

namespace CommonPurse.Store.Relational

/-! ## Rows that are written -/

/-- Rows that are written one after the other: of each is placed what the columns keep, and the
address of an account is free when it is its turn. -/
inductive Placed : Database → List Row → Database → Prop
  | nil (d : Database) : Placed d [] d
  | cons {d d' : Database} {row kept : Row} {rows : List Row}
      (keeps : Database.kept? row = some kept) (free : d.addressFree kept = true)
      (rest : Placed (d.place kept) rows d') : Placed d (row :: rows) d'

/-- What columns keep of a row stands under the same key. -/
lemma key_of_kept? {row kept : Row} (h : Database.kept? row = some kept) : kept.key = row.key := by
  cases row with
  | expense e =>
    obtain ⟨a, -, rfl⟩ := Option.map_eq_some_iff.mp h
    rfl
  | _ =>
    obtain rfl := Option.some.inj h
    rfl

lemma isUser_of_kept? {row kept : Row} (h : Database.kept? row = some kept) :
    kept.isUser = row.isUser := by
  cases row with
  | expense e =>
    obtain ⟨a, -, rfl⟩ := Option.map_eq_some_iff.mp h
    rfl
  | _ =>
    obtain rfl := Option.some.inj h
    rfl

namespace Placed

variable {d d₁ d' : Database} {rows more : List Row}

lemma append (h : Placed d rows d₁) (h' : Placed d₁ more d') : Placed d (rows ++ more) d' := by
  induction h with
  | nil => exact h'
  | cons keeps free rest ih => exact .cons keeps free (ih h')

/-- What placing a row preserves is preserved. -/
lemma preserves {P : Database → Prop} (h : Placed d rows d') (first : P d)
    (step : ∀ d row kept, row ∈ rows → Database.kept? row = some kept →
      d.addressFree kept = true → P d → P (d.place kept)) : P d' := by
  induction h with
  | nil => exact first
  | @cons d d' row kept rows keeps free rest ih =>
    apply ih
    · exact step d row kept List.mem_cons_self keeps free first
    · exact fun d x k hx => step d x k (List.mem_cons_of_mem _ hx)

lemma whole (h : Placed d rows d') (hd : d.Whole) : d'.Whole :=
  h.preserves hd fun _ _ kept _ _ _ hd => hd.place kept

/-- Under keys of none of the rows the old rows are found. -/
lemma row?_of_notMem (h : Placed d rows d') (hd : d.Whole) {k : Key}
    (hk : k ∉ rows.map Row.key) : d'.row? k = d.row? k := by
  induction h with
  | nil => rfl
  | @cons d d' row kept rows keeps free rest ih =>
    rw [List.map_cons, List.mem_cons, not_or] at hk
    have key := key_of_kept? keeps
    rw [ih (hd.place kept) hk.2, Database.row?_place hd.complete, if_neg]
    intro heq
    exact hk.1 (heq.symm.trans key)

/-- Under the key of each row stands what the columns keep of it. -/
lemma row?_of_mem (h : Placed d rows d') (hd : d.Whole) (keys : (rows.map Row.key).Nodup) {row : Row}
    (hr : row ∈ rows) :
    ∃ kept, Database.kept? row = some kept ∧ d'.row? row.key = some (some kept) := by
  induction h with
  | nil => cases hr
  | @cons d d' first kept rows keeps free rest ih =>
    rw [List.map_cons, List.nodup_cons] at keys
    rcases List.mem_cons.mp hr with rfl | hr
    · refine ⟨kept, keeps, ?_⟩
      rw [rest.row?_of_notMem (hd.place kept) keys.1, Database.row?_place hd.complete,
        if_pos (key_of_kept? keeps)]
    · exact ih (hd.place kept) keys.2 hr

/-- A key that is free afterwards has been free before. -/
lemma free_before (h : Placed d rows d') (hd : d.Whole) {k : Key} (free : d'.row? k = some none) :
    d.row? k = some none := by
  induction h with
  | nil => exact free
  | @cons d d' row kept rows keeps _ rest ih =>
    have after := ih (hd.place kept) free
    rw [Database.row?_place hd.complete] at after
    split_ifs at after
    · cases after
    · exact after

/-- The address of an account among the rows has been free before, given that there is no other
account among them. -/
lemma addressFree (h : Placed d rows d')
    (single : rows.Pairwise fun a b => a.isUser = true → b.isUser = false) {row : Row}
    (hr : row ∈ rows) {kept : Row} (keeps : Database.kept? row = some kept)
    (user : row.isUser = true) : d.addressFree kept = true := by
  induction h with
  | nil => cases hr
  | @cons d d' first kept' rows keeps' free rest ih =>
    obtain ⟨alone, single⟩ := List.pairwise_cons.mp single
    rcases List.mem_cons.mp hr with rfl | hr
    · rwa [Option.some.inj (keeps.symm.trans keeps')]
    · have other : kept'.isUser = false := by
        rw [isUser_of_kept? keeps']
        cases hf : first.isUser with
        | false => rfl
        | true =>
          rw [alone row hr hf] at user
          cases user
      rw [← Database.addressFree_place other]
      exact ih single hr

end Placed

/-! ## Statements that succeed -/

variable {d d' : Database}

/-- An update that succeeds writes its row. -/
lemma placed_of_update? (h : d.Whole) {read new : Row} (found : d.row? new.key = some (some read))
    (done : d.update? read new = some d') : Placed d [new] d' := by
  have key := h.keyed _ _ found
  unfold Database.update? at done
  split_ifs at done with changed
  · rw [found] at done
    cases hk : Database.kept? new with
    | none => simp [hk] at done
    | some kept =>
      have same : Database.patch read kept read = kept :=
        Database.patch_self (key.trans (key_of_kept? hk).symm)
      simp only [hk, same] at done
      split_ifs at done with free
      rw [← Option.some.inj done]
      exact .cons hk free (.nil _)
  · have same : read = new ∧ Database.kept? new = some new ∧ new.isUser = false := by
      cases read <;> cases new <;> simp_all [Database.differs, Row.key, Database.kept?, Row.isUser]
    obtain ⟨rfl, kept, other⟩ := same
    rw [← Option.some.inj done]
    have placed := Placed.cons kept (Database.addressFree_of_isUser other) (.nil (d.place read))
    rwa [Database.place_of_row? h.complete found] at placed

/-- Updates that succeed write their rows. -/
lemma placed_of_updateAll (h : d.Whole) {updates : List (Row × Row)}
    (found : ∀ u ∈ updates, d.row? u.2.key = some (some u.1))
    (keys : ((updates.map (·.2)).map Row.key).Nodup) (done : updateAll updates d = some d') :
    Placed d (updates.map (·.2)) d' := by
  induction updates generalizing d with
  | nil =>
    rw [← Option.some.inj done]
    exact .nil d
  | cons u rest ih =>
    obtain ⟨read, new⟩ := u
    simp only [List.map_cons, List.nodup_cons, List.forall_mem_cons] at found keys ⊢
    obtain ⟨d₁, first, others⟩ := Option.bind_eq_some_iff.mp done
    have one := placed_of_update? h found.1 first
    show Placed d ([new] ++ rest.map (·.2)) d'
    refine one.append (ih (one.whole h) ?_ keys.2 others)
    intro u hu
    rw [one.row?_of_notMem h, found.2 u hu]
    intro heq
    rw [List.map_singleton, List.mem_singleton] at heq
    exact keys.1 (heq ▸ List.mem_map_of_mem (List.mem_map_of_mem hu))

/-- An insert that succeeds writes its row, and its key has been free. -/
lemma placed_of_insert? {row : Row} (done : d.insert? row = some d') :
    Placed d [row] d' ∧ d.row? row.key = some none := by
  unfold Database.insert? at done
  cases hr : d.row? row.key with
  | none => simp [hr] at done
  | some found =>
    cases found with
    | some old => simp [hr] at done
    | none =>
      cases hk : Database.kept? row with
      | none => simp [hr, hk] at done
      | some kept =>
        simp only [hr, hk] at done
        split_ifs at done with free
        rw [← Option.some.inj done]
        exact ⟨.cons hk free (.nil _), rfl⟩

/-- Inserts that succeed write their rows, and their keys have been free. -/
lemma placed_of_insertAll (h : d.Whole) {rows : List Row} (done : insertAll rows d = some d') :
    Placed d rows d' ∧ ∀ row ∈ rows, d.row? row.key = some none := by
  induction rows generalizing d with
  | nil =>
    rw [← Option.some.inj done]
    exact ⟨.nil d, fun _ h => nomatch h⟩
  | cons row rest ih =>
    obtain ⟨d₁, first, others⟩ := Option.bind_eq_some_iff.mp done
    obtain ⟨one, new⟩ := placed_of_insert? first
    obtain ⟨placed, free⟩ := ih (one.whole h) others
    refine ⟨one.append placed, fun x hx => ?_⟩
    rcases List.mem_cons.mp hx with rfl | hx
    · exact new
    · exact one.free_before h (free x hx)

/-- **Writing what has been collected**, with the row of an event behind it. When that succeeds, all
rows have been written in some order, and the event is new. -/
lemma placed_of_flushed? {s : Session} {rows : List Row} (h : Collected s d rows) (whole : d.Whole)
    (keys : (rows.map Row.key).Nodup) {e : Event}
    (done : flushed? { s with inserts := s.inserts ++ [eventRow e] } d = some d') :
    ∃ order, order.Perm rows ∧ Placed d (order ++ [eventRow e]) d' ∧
      d.row? (.event e.id) = some none := by
  obtain ⟨d₁, updated, inserted⟩ := Option.bind_eq_some_iff.mp done
  have sorted := List.mergeSort_perm s.updates fun a b => rank a.2 ≤ rank b.2
  have nodup : ((s.updates.map (·.2)).map Row.key).Nodup := by
    have all := (h.perm.map Row.key).nodup_iff.mpr keys
    rw [List.map_append, List.nodup_append] at all
    exact all.1
  have updates := placed_of_updateAll whole (fun u hu => h.read u (sorted.mem_iff.mp hu))
    (((sorted.map (·.2)).map Row.key).nodup_iff.mpr nodup) updated
  obtain ⟨inserts, free⟩ := placed_of_insertAll (updates.whole whole) inserted
  refine ⟨_, ((sorted.map (·.2)).append_right s.inserts).trans h.perm, ?_, ?_⟩
  · rw [List.append_assoc]
    exact updates.append inserts
  · apply updates.free_before whole
    exact free (eventRow e) (List.mem_append_right _ (List.mem_singleton_self _))

/-! ## The log and the commit -/

variable {s : Session} {r : Relational} {rows : List Row}

/-- When writing what has been collected fails, the transaction is rolled back. -/
lemma Underway.rollback_of_stuck (h : Underway s r d rows) {e : Event}
    (stuck : flushed? { s with inserts := s.inserts ++ [eventRow e] } d = none) :
    ∃ x s' r', backend.log [e] (.own s) r = (.error x, .own s', r') ∧ s'.active = true ∧
      backend.rollback (.own s') r' = (.ok (), .own s'.closed, ⟨r.database, none, r.opened⟩) := by
  obtain ⟨number, active, broken, working, inserts, updates⟩ := s
  obtain ⟨rfl, rfl, writes, sees, -⟩ := h
  have may : mayWrite ⟨number, true, false, working, inserts ++ [eventRow e], updates⟩ r = true :=
    writes
  have same : Relational.seen ⟨number, true, false, working, inserts ++ [eventRow e], updates⟩ r =
    d := sees
  have released : release ⟨number, true, true, none, [], []⟩
      (release ⟨number, true, false, working, inserts ++ [eventRow e], updates⟩ r) =
        ⟨r.database, none, r.opened⟩ := by
    obtain ⟨database, writer, opened⟩ := r
    cases writer with
    | none => simp [release]
    | some n =>
      have own : n = number := by simpa [mayWrite] using writes
      simp [release, own]
  refine ⟨⟨.insertion, "Failed to save events", [("count", .integer [e].length)]⟩,
    ⟨number, true, true, none, [], []⟩,
    release ⟨number, true, false, working, inserts ++ [eventRow e], updates⟩ r, ?_, rfl, ?_⟩
  · simp [backend, log, within, flush, isClean, may, same, stuck, outcome, Session.failed]
  · simp only [backend, rollback, if_true, released]

/-- **What can become of a unit of work** that deletes first and saves then, with one event, on a store
to which nobody else writes: it fails and the tables stay as they are, or the rows of everything that
is saved are written in some order, with that of the event behind them, which is new. -/
theorem carryOut_cases {ds ws : List Write} {e : Event} (idle : r.writer = none)
    (hds : ∀ w ∈ ds, w.isSave = false) (hws : ∀ w ∈ ws, w.isSave = true)
    (hd : deletions r.database ds = some d) (whole : d.Whole)
    (keys : ((ws.flatMap rowsOf).map Row.key).Nodup) :
    (∃ x, backend.carryOut (ds ++ ws) [e] r = (.error x, ⟨r.database, none, r.opened + 1⟩)) ∨
      ∃ d' order, backend.carryOut (ds ++ ws) [e] r = (.ok (), ⟨d', none, r.opened + 1⟩) ∧
        order.Perm (ws.flatMap rowsOf) ∧ Placed d (order ++ [eventRow e]) d' ∧
        d.row? (.event e.id) = some none := by
  have start : Underway (.new r.opened) { r with opened := r.opened + 1 } r.database [] :=
    ⟨rfl, rfl, by simp [mayWrite, idle], rfl, .nil rfl rfl⟩
  have opened : backend.start r = (.ok (.new r.opened), { r with opened := r.opened + 1 }) := rfl
  obtain ⟨s₁, r₁, hdeletes, hu₁, same⟩ := start.deletes hds hd ws
  obtain ⟨s₂, hsaves, hu₂⟩ := hu₁.saves whole hws keys
  rw [List.nil_append] at hu₂
  cases flushed : flushed? { s₂ with inserts := s₂.inserts ++ [eventRow e] } d with
  | none =>
    left
    obtain ⟨x, s₃, r₃, hlog, active, hrollback⟩ := hu₂.rollback_of_stuck flushed
    have written : backend.writeAndCommit (ds ++ ws) [e] (.own (.new r.opened))
        { r with opened := r.opened + 1 } = (.error x, .own s₃, r₃) := by
      simp only [Backend.writeAndCommit, hdeletes, hsaves, hlog]
    refine ⟨x, ?_⟩
    have isOpen : backend.isOpen (.own s₃) = true := active
    simp only [Backend.carryOut, opened, written, Backend.finish, isOpen, if_true, hrollback,
      same.database, same.opened]
  | some d' =>
    right
    obtain ⟨s₃, r₃, hlog, hcommit⟩ := hu₂.commit_of_flushed flushed
    have written : backend.writeAndCommit (ds ++ ws) [e] (.own (.new r.opened))
        { r with opened := r.opened + 1 } = (.ok (), .own s₃.closed, ⟨d', none, r₁.opened⟩) := by
      simp only [Backend.writeAndCommit, hdeletes, hsaves, hlog, hcommit]
    obtain ⟨order, perm, placed, new⟩ := placed_of_flushed? hu₂.collected whole keys flushed
    refine ⟨d', order, ?_, perm, placed, new⟩
    simp only [Backend.carryOut, opened, written, same.opened]
    rfl

end CommonPurse.Store.Relational
