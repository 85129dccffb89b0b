import CommonPurse.Proofs.Relational.Database
import CommonPurse.Store.Relational
import Mathlib.Data.List.Perm.Basic

/-!
# A unit of work on the relational store

Rows are collected, told apart into updates and inserts, and written in that order when the events
are logged. When nothing is in the way, all this comes to placing the rows in the order in which
they were given.

## Main definitions

* `CommonPurse.Store.Relational.deletions` — the tables after deletions.
* `CommonPurse.Store.Relational.Ready` — rows with which nothing is in the way.
* `CommonPurse.Store.Relational.Collected` — the rows that a transaction has collected.
* `CommonPurse.Store.Relational.Underway` — a transaction in which nothing has failed.

## Main results

* `CommonPurse.Store.Relational.flushed?_of_collected` — writing places the rows in their order.
* `CommonPurse.Store.Relational.carryOut_eq` — what a unit of work leads to.
-/

namespace CommonPurse.Store

/-- Whether a write saves something; the others delete something. -/
def Write.isSave : Write → Bool
  | .saveUser _ => true
  | .saveCredential _ _ => true
  | .saveGroup _ => true
  | .saveExpense _ => true
  | .saveSettlement _ => true
  | .deleteUser _ => false
  | .deleteCredential _ => false
  | .deleteGroup _ => false
  | .deleteExpense _ => false

namespace Relational

/-- The tables after a deletion. The members of a group go before the group. -/
def deletion (d : Database) : Write → Option Database
  | .deleteUser i => d.delete? (.user i)
  | .deleteCredential email => d.delete? (.credential (Text.lower email))
  | .deleteGroup i => (d.deleteMembers? i).bind (·.delete? (.group i))
  | .deleteExpense i => d.delete? (.expense i)
  | _ => some d

/-- The tables after deletions. -/
def deletions (d : Database) : List Write → Option Database
  | [] => some d
  | w :: ws => (deletion d w).bind (deletions · ws)

/-- Rows with which nothing is in the way: their keys differ, the columns keep them, and at most one
is that of an account, which is new and has a free address. -/
structure Ready (d : Database) (rows : List Row) : Prop where
  keys : (rows.map Row.key).Nodup
  kept : ∀ row ∈ rows, Database.kept? row = some row
  accounts : ∀ row ∈ rows, row.isUser = true →
    d.row? row.key = some none ∧ d.addressFree row = true
  single : rows.Pairwise fun a b => a.isUser = true → b.isUser = false

/-- The rows that a transaction has collected: updates of what was read, inserts of what is new, and
writing the ones before the others places the rows in their order. -/
structure Collected (s : Session) (d : Database) (rows : List Row) : Prop where
  read : ∀ u ∈ s.updates, d.row? u.2.key = some (some u.1)
  new : ∀ row ∈ s.inserts, d.row? row.key = some none
  perm : (s.updates.map (·.2) ++ s.inserts).Perm rows
  placed : d.placeAll (s.updates.map (·.2) ++ s.inserts) = d.placeAll rows

/-- Nothing has been committed and no transaction has been opened from one state of a store to
another. -/
structure Unchanged (r r' : Relational) : Prop where
  database : r'.database = r.database
  opened : r'.opened = r.opened

lemma Unchanged.refl (r : Relational) : Unchanged r r := ⟨rfl, rfl⟩

lemma Unchanged.trans {a b c : Relational} (hab : Unchanged a b) (hbc : Unchanged b c) :
    Unchanged a c :=
  ⟨hbc.database.trans hab.database, hbc.opened.trans hab.opened⟩

/-- A transaction that no longer writes has changed nothing that is stored. -/
lemma database_release (s : Session) (r : Relational) : (release s r).database = r.database := by
  unfold release
  split_ifs <;> rfl

/-- A transaction in which nothing has failed, with the tables that it sees and the rows that it has
collected. -/
structure Underway (s : Session) (r : Relational) (d : Database) (rows : List Row) : Prop where
  active : s.active = true
  unbroken : s.broken = false
  writes : mayWrite s r = true
  seen : seen s r = d
  collected : Collected s d rows

variable {s : Session} {r : Relational} {d : Database} {rows more : List Row} {row : Row}

/-! ## Collecting rows -/

lemma Collected.nil (hi : s.inserts = []) (hu : s.updates = []) : Collected s d [] where
  read u h := by rw [hu] at h; cases h
  new row h := by rw [hi] at h; cases h
  perm := by rw [hi, hu]; rfl
  placed := by rw [hi, hu]; rfl

lemma Collected.eq_nil (h : Collected s d []) : s.inserts = [] ∧ s.updates = [] := by
  have nil := h.perm.eq_nil
  rw [List.append_eq_nil_iff, List.map_eq_nil_iff] at nil
  exact nil.symm

/-- A new row goes behind the inserts. -/
lemma Collected.insert (h : Collected s d rows) (new : d.row? row.key = some none) :
    Collected { s with inserts := s.inserts ++ [row] } d (rows ++ [row]) where
  read := h.read
  new x hx := by
    rcases List.mem_append.mp hx with hx | hx
    · exact h.new x hx
    · rw [List.mem_singleton.mp hx, new]
  perm := by
    rw [← List.append_assoc]
    exact h.perm.append_right [row]
  placed := by
    rw [← List.append_assoc, Database.placeAll_append, h.placed, Database.placeAll_append]

/-- Another row is collected. When it replaces a row it is placed with the updates, which makes no
difference. -/
lemma Collected.merge (h : Collected s d rows) (whole : d.Whole) (hs : seen s r = d)
    (hb : s.broken = false) (hk : row.key ∉ rows.map Row.key) :
    ∃ i u, merge row s r = some { s with inserts := i, updates := u } ∧
      Collected { s with inserts := i, updates := u } d (rows ++ [row]) := by
  have keys := h.perm.map Row.key
  have fresh : (s.updates.any fun u => u.2.key = row.key) = false := by
    rw [List.any_eq_false]
    intro u hu heq
    refine hk (keys.mem_iff.mp ?_)
    rw [List.map_append, List.map_map]
    exact List.mem_append_left _ (List.mem_map.mpr ⟨u, hu, by simpa using heq⟩)
  unfold Relational.merge
  rw [if_neg (by simp [hb]), if_neg (by simp [fresh]), hs]
  cases hr : d.row? row.key with
  | none => exact absurd hr (whole.complete.row?_ne_none _)
  | some found =>
    cases found with
    | none => exact ⟨s.inserts ++ [row], s.updates, rfl, h.insert hr⟩
    | some old =>
      refine ⟨s.inserts, s.updates ++ [(old, row)], rfl, ?_, h.new, ?_, ?_⟩
      · intro u hu
        rcases List.mem_append.mp hu with hu | hu
        · exact h.read u hu
        · rw [List.mem_singleton.mp hu, hr]
      · rw [List.map_append, List.append_assoc]
        have behind : ([row] ++ s.inserts).Perm (s.inserts ++ [row]) := List.perm_append_comm
        refine (behind.append_left (s.updates.map (·.2))).trans ?_
        rw [← List.append_assoc]
        exact h.perm.append_right [row]
      · have other : row.key ∉ (s.updates.map (·.2)).map Row.key ∧
            row.key ∉ s.inserts.map Row.key := by
          rw [← not_or, ← List.mem_append, ← List.map_append]
          exact fun hm => hk (keys.mem_iff.mp hm)
        have still : (d.placeAll (s.updates.map (·.2))).row? row.key = some (some old) := by
          rw [Database.row?_placeAll whole other.1, hr]
        rw [List.map_append, List.append_assoc, Database.placeAll_append, List.map_singleton,
          List.singleton_append, Database.placeAll_cons,
          Database.placeAll_place (whole.placeAll _) still other.2, ← Database.placeAll_append,
          h.placed, Database.placeAll_append]
        rfl

lemma Collected.mergeAll (h : Collected s d rows) (whole : d.Whole) (hs : seen s r = d)
    (hb : s.broken = false) (keys : ((rows ++ more).map Row.key).Nodup) :
    ∃ i u, mergeAll more s r = (true, { s with inserts := i, updates := u }) ∧
      Collected { s with inserts := i, updates := u } d (rows ++ more) := by
  induction more generalizing s rows with
  | nil => exact ⟨s.inserts, s.updates, rfl, (List.append_nil rows).symm ▸ h⟩
  | cons row more ih =>
    have hk : row.key ∉ rows.map Row.key := by
      rw [List.map_append, List.nodup_append] at keys
      exact fun hm => keys.2.2 _ hm _ List.mem_cons_self rfl
    obtain ⟨i, u, hm, hc⟩ := h.merge whole hs hb hk
    rw [← List.singleton_append, ← List.append_assoc] at keys
    obtain ⟨i', u', hm', hc'⟩ := ih hc hs hb keys
    rw [List.append_assoc, List.singleton_append] at hc'
    exact ⟨i', u', by simp only [Relational.mergeAll, hm, hm'], hc'⟩

/-! ## Writing rows -/

/-- **Writing places the rows in their order.** Accounts would be updated in an order of their own,
but no account is updated. -/
theorem flushed?_of_collected (h : Collected s d rows) (whole : d.Whole) (ready : Ready d rows) :
    flushed? s d = some (d.placeAll rows) := by
  have keys := (h.perm.map Row.key).nodup_iff.mpr ready.keys
  rw [List.map_append, List.nodup_append] at keys
  have update : ∀ u ∈ s.updates, u.2 ∈ rows := fun u hu =>
    h.perm.mem_iff.mp (List.mem_append_left _ (List.mem_map_of_mem hu))
  have insert : ∀ row ∈ s.inserts, row ∈ rows := fun row hr =>
    h.perm.mem_iff.mp (List.mem_append_right _ hr)
  have other : ∀ u ∈ s.updates, u.2.isUser = false := by
    intro u hu
    cases hc : u.2.isUser with
    | false => rfl
    | true =>
      have new := (ready.accounts u.2 (update u hu) hc).1
      rw [h.read u hu] at new
      cases new
  have order : (s.updates.mergeSort fun a b => rank a.2 ≤ rank b.2) = s.updates := by
    refine List.mergeSort_of_pairwise (List.pairwise_iff_forall_sublist.mpr ?_)
    intro a b hab
    have ha := rank_of_isUser (other a (hab.subset List.mem_cons_self))
    have hb := rank_of_isUser (other b (hab.subset (List.mem_cons_of_mem _ List.mem_cons_self)))
    simp only [ha, hb, decide_eq_true_eq, Nat.le_refl]
  have updated := Database.updateAll_eq_placeAll whole h.read keys.1
    (fun u hu => ready.kept u.2 (update u hu)) other
  have free : ∀ row ∈ s.inserts,
      (d.placeAll (s.updates.map (·.2))).addressFree row = true := by
    have kept : ∀ (l : List (Row × Row)) (d : Database) (row : Row),
        (∀ u ∈ l, u.2.isUser = false) →
          (d.placeAll (l.map (·.2))).addressFree row = d.addressFree row := by
      intro l
      induction l with
      | nil => exact fun _ _ _ => rfl
      | cons u l ih =>
        intro d row hl
        rw [List.map_cons, Database.placeAll_cons, ih _ _ fun x hx =>
          hl x (List.mem_cons_of_mem _ hx), Database.addressFree_place (hl u List.mem_cons_self)]
    intro row hr
    rw [kept s.updates d row other]
    cases hu : row.isUser with
    | true => exact (ready.accounts row (insert row hr) hu).2
    | false => exact Database.addressFree_of_isUser hu
  have single : (s.updates.map (·.2) ++ s.inserts).Pairwise
      fun a b => a.isUser = true → b.isUser = false := by
    refine (h.perm.pairwise_iff ?_).mpr ready.single
    intro a b hab hb
    cases ha : a.isUser with
    | false => rfl
    | true => rw [hab ha] at hb; cases hb
  have new : ∀ row ∈ s.inserts,
      (d.placeAll (s.updates.map (·.2))).row? row.key = some none := by
    intro row hr
    rw [Database.row?_placeAll whole fun hm =>
      keys.2.2 _ hm _ (List.mem_map_of_mem hr) rfl, h.new row hr]
  rw [flushed?, order, updated, Option.bind_some,
    Database.insertAll_eq_placeAll (whole.placeAll _) new keys.2.1
      (fun row hr => ready.kept row (insert row hr)) free (List.pairwise_append.mp single).2.1,
    ← Database.placeAll_append, h.placed]

/-! ## Writes -/

/-- A write that saves something collects its rows. -/
lemma Underway.save (h : Underway s r d rows) (whole : d.Whole) {w : Write} (hw : w.isSave = true)
    (keys : ((rows ++ rowsOf w).map Row.key).Nodup) :
    ∃ s', backend.write w (.own s) r = (.ok (), .own s', r) ∧
      Underway s' r d (rows ++ rowsOf w) := by
  obtain ⟨i, u, hm, hc⟩ := h.collected.mergeAll whole h.seen h.unbroken keys
  refine ⟨{ s with inserts := i, updates := u }, ?_, h.active, h.unbroken, h.writes, h.seen, hc⟩
  have stays : ∀ s, eraseFor w s r = (true, s, r) := by
    intro s
    cases w <;> first | rfl | cases hw
  show write w (.own s) r = _
  simp only [write, within, h.active, if_true, hm, stays, outcome]

lemma Underway.wrote (h : Underway s r d []) (d' : Database) :
    Underway { s with working := some d', updates := [] } { r with writer := some s.number } d' []
    where
  active := h.active
  unbroken := h.unbroken
  writes := by simp [mayWrite]
  seen := rfl
  collected := .nil h.collected.eq_nil.1 rfl

lemma Underway.erase (h : Underway s r d []) (k : Key) {d' : Database}
    (hd : d.delete? k = some d') :
    ∃ s' r', erase k s r = some (s', r') ∧ Underway s' r' d' [] ∧ Unchanged r r' := by
  refine ⟨_, _, ?_, h.wrote d', rfl, rfl⟩
  simp [Relational.erase, h.unbroken, h.writes, h.seen, hd, Relational.wrote,
    h.collected.eq_nil.2]

lemma Underway.eraseMembers (h : Underway s r d []) {group : Id} {d' : Database}
    (hd : d.deleteMembers? group = some d') :
    ∃ s' r', eraseMembers group s r = some (s', r') ∧ Underway s' r' d' [] ∧
      Unchanged r r' := by
  refine ⟨_, _, ?_, h.wrote d', rfl, rfl⟩
  simp [Relational.eraseMembers, h.unbroken, h.writes, h.seen, hd, Relational.wrote,
    h.collected.eq_nil.2]

/-- A write that deletes something changes the tables that the transaction sees. -/
lemma Underway.delete (h : Underway s r d []) {w : Write} (hw : w.isSave = false) {d' : Database}
    (hd : deletion d w = some d') :
    ∃ s' r', backend.write w (.own s) r = (.ok (), .own s', r') ∧ Underway s' r' d' [] ∧
      Unchanged r r' := by
  have nothing : mergeAll (rowsOf w) s r = (true, s) := by
    cases w <;> first | rfl | cases hw
  have erased : ∃ s' r', eraseFor w s r = (true, s', r') ∧ Underway s' r' d' [] ∧
      Unchanged r r' := by
    cases w with
    | deleteUser i =>
      obtain ⟨s', r', he, hu, ho⟩ := h.erase (.user i) hd
      exact ⟨s', r', by simp only [eraseFor, he], hu, ho⟩
    | deleteCredential email =>
      obtain ⟨s', r', he, hu, ho⟩ := h.erase (.credential (Text.lower email)) hd
      exact ⟨s', r', by simp only [eraseFor, he], hu, ho⟩
    | deleteExpense i =>
      obtain ⟨s', r', he, hu, ho⟩ := h.erase (.expense i) hd
      exact ⟨s', r', by simp only [eraseFor, he], hu, ho⟩
    | deleteGroup i =>
      obtain ⟨d₁, hm, hg⟩ := Option.bind_eq_some_iff.mp hd
      obtain ⟨s₁, r₁, he₁, hu₁, ho₁⟩ := h.eraseMembers hm
      obtain ⟨s', r', he, hu, ho⟩ := hu₁.erase (.group i) hg
      exact ⟨s', r', by simp only [eraseFor, he₁, he], hu, ho₁.trans ho⟩
    | _ => cases hw
  obtain ⟨s', r', he, hu, ho⟩ := erased
  refine ⟨s', r', ?_, hu, ho⟩
  show write w (.own s) r = _
  simp only [write, within, h.active, if_true, nothing, he, outcome]

/-- Deletions come first. -/
lemma Underway.deletes (h : Underway s r d []) {ds : List Write}
    (hds : ∀ w ∈ ds, w.isSave = false) {d' : Database} (hd : deletions d ds = some d')
    (ws : List Write) :
    ∃ s' r', backend.writeAll (ds ++ ws) (.own s) r = backend.writeAll ws (.own s') r' ∧
      Underway s' r' d' [] ∧ Unchanged r r' := by
  induction ds generalizing s r d with
  | nil => exact ⟨s, r, rfl, Option.some.inj hd ▸ h, .refl r⟩
  | cons w ds ih =>
    obtain ⟨d₁, hd₁, hd⟩ := Option.bind_eq_some_iff.mp hd
    obtain ⟨s₁, r₁, hw, hu, ho⟩ := h.delete (hds w List.mem_cons_self) hd₁
    obtain ⟨s', r', hws, hu', ho'⟩ := ih hu (fun x hx => hds x (List.mem_cons_of_mem _ hx)) hd
    exact ⟨s', r', by rw [List.cons_append, Backend.writeAll, hw, ← hws], hu', ho.trans ho'⟩

/-- Then everything is collected that is saved. -/
lemma Underway.saves (h : Underway s r d rows) (whole : d.Whole) {ws : List Write}
    (hws : ∀ w ∈ ws, w.isSave = true)
    (keys : ((rows ++ ws.flatMap rowsOf).map Row.key).Nodup) :
    ∃ s', backend.writeAll ws (.own s) r = (.ok (), .own s', r) ∧
      Underway s' r d (rows ++ ws.flatMap rowsOf) := by
  induction ws generalizing s rows with
  | nil => exact ⟨s, rfl, (List.append_nil rows).symm ▸ h⟩
  | cons w ws ih =>
    rw [List.flatMap_cons, ← List.append_assoc] at keys
    have front : ((rows ++ rowsOf w).map Row.key).Nodup := by
      rw [List.map_append, List.nodup_append] at keys
      exact keys.1
    obtain ⟨s₁, hw, hu⟩ := h.save whole (hws w List.mem_cons_self) front
    obtain ⟨s', hrest, hu'⟩ := ih hu (fun x hx => hws x (List.mem_cons_of_mem _ hx)) keys
    rw [List.append_assoc, ← List.flatMap_cons] at hu'
    exact ⟨s', by rw [Backend.writeAll, hw, ← hrest], hu'⟩

/-! ## The log and the commit -/

/-- Logging an event writes everything that has been collected, and the commit makes it stay. -/
lemma Underway.commit_of_flushed (h : Underway s r d rows) {e : Event} {d' : Database}
    (flushed : flushed? { s with inserts := s.inserts ++ [eventRow e] } d = some d') :
    ∃ s' r', backend.log [e] (.own s) r = (.ok (), .own s', r') ∧
      backend.commit (.own s') r' = (.ok (), .own s'.closed, ⟨d', none, r.opened⟩) := by
  obtain ⟨number, active, broken, working, inserts, updates⟩ := s
  obtain ⟨rfl, rfl, writes, sees, -⟩ := h
  have may : mayWrite ⟨number, true, false, working, inserts ++ [eventRow e], updates⟩ r = true :=
    writes
  have same : Relational.seen ⟨number, true, false, working, inserts ++ [eventRow e], updates⟩ r =
    d := sees
  refine ⟨⟨number, true, false, some d', [], []⟩, { r with writer := some number }, ?_, ?_⟩
  · simp [backend, log, within, flush, isClean, may, same, flushed, Relational.wrote, outcome]
  · simp [backend, commit, within, flush, release, Relational.seen, Session.closed]

/-- Logging a new event with which nothing is in the way places all rows. -/
lemma Underway.conclude (h : Underway s r d rows) (whole : d.Whole) {e : Event}
    (new : d.row? (.event e.id) = some none) (ready : Ready d (rows ++ [eventRow e])) :
    ∃ s' r', backend.log [e] (.own s) r = (.ok (), .own s', r') ∧
      backend.commit (.own s') r' = (.ok (), .own s'.closed,
        ⟨d.placeAll (rows ++ [eventRow e]), none, r.opened⟩) := by
  have collected : Collected { s with inserts := s.inserts ++ [eventRow e] } d
      (rows ++ [eventRow e]) := h.collected.insert new
  exact h.commit_of_flushed (flushed?_of_collected collected whole ready)

/-- **What a unit of work leads to**: the deletions are carried out, and then the rows of everything
that is saved are placed in their order, with that of the event behind them. -/
theorem carryOut_eq {ds ws : List Write} {e : Event} (idle : r.writer = none)
    (hds : ∀ w ∈ ds, w.isSave = false) (hws : ∀ w ∈ ws, w.isSave = true)
    (hd : deletions r.database ds = some d) (whole : d.Whole)
    (new : d.row? (.event e.id) = some none)
    (ready : Ready d (ws.flatMap rowsOf ++ [eventRow e])) :
    backend.carryOut (ds ++ ws) [e] r =
      (.ok (), ⟨d.placeAll (ws.flatMap rowsOf ++ [eventRow e]), none, r.opened + 1⟩) := by
  have start : Underway (.new r.opened) { r with opened := r.opened + 1 } r.database [] :=
    ⟨rfl, rfl, by simp [mayWrite, idle], rfl, .nil rfl rfl⟩
  obtain ⟨s₁, r₁, hdeletes, hu₁, ho₁⟩ := start.deletes hds hd ws
  have keys : ((ws.flatMap rowsOf).map Row.key).Nodup := by
    have all := ready.keys
    rw [List.map_append, List.nodup_append] at all
    exact all.1
  obtain ⟨s₂, hsaves, hu₂⟩ := hu₁.saves whole hws keys
  obtain ⟨s₃, r₃, hlog, hcommit⟩ := hu₂.conclude whole new ready
  have opened : backend.start r = (.ok (.new r.opened), { r with opened := r.opened + 1 }) := rfl
  have all : backend.writeAndCommit (ds ++ ws) [e] (.own (.new r.opened))
      { r with opened := r.opened + 1 } = (.ok (), .own s₃.closed,
        ⟨d.placeAll (ws.flatMap rowsOf ++ [eventRow e]), none, r₁.opened⟩) := by
    simp only [Backend.writeAndCommit, hdeletes, hsaves, List.nil_append, hlog, hcommit]
  simp only [Backend.carryOut, opened, all, ho₁.opened]
  rfl

end Relational

end CommonPurse.Store
