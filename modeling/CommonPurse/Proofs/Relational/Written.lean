import CommonPurse.Proofs.Relational.Commit
import CommonPurse.Proofs.Relational.Outcome

/-!
# What a unit of work writes into tables

The tables may have changed since a command was planned. When its unit of work succeeds all the same,
what it saves stands under the keys of its rows, what it deletes is gone, its event is in the log
behind all others, and everything else is as it was before.

## Main definitions

* `CommonPurse.Store.Relational.Database.Tidy` — all tables are there, and no row is there twice.
* `CommonPurse.Store.Write.deletes` — the keys whose rows a write deletes.
* `CommonPurse.Store.Relational.Cleared` — tables from which rows have been deleted.
* `CommonPurse.Store.Relational.Written` — tables into which a unit of work has been written.

## Main results

* `CommonPurse.Store.Relational.Database.Tidy.orderly` — tidy tables show entities in order.
* `CommonPurse.Command.Planned.carryOut_written` — a unit of work fails or is written.
-/

namespace CommonPurse

open CommonPurse.Store

namespace Store

/-- Whether a write deletes the row of a key. -/
def Write.deletes : Write → Relational.Key → Bool
  | .deleteUser i, k => k = .user i
  | .deleteCredential email, k => k = .credential (Text.lower email)
  | .deleteGroup i, k => k.isMemberOf i || k = .group i
  | .deleteExpense i, k => k = .expense i
  | _, _ => false

lemma Write.deletes_of_isSave {w : Write} (h : w.isSave = true) (k : Relational.Key) :
    w.deletes k = false := by
  cases w <;> first | rfl | cases h

namespace Relational

/-! ## Tidy tables -/

/-- All tables are there, with rows under their keys, and no member and no expense is there twice. -/
structure Database.Tidy (d : Database) : Prop where
  whole : d.Whole
  members : ∀ t ∈ d.members, t.Distinct
  expenses : ∀ t ∈ d.expenses, t.Distinct

namespace Database

variable {d : Database}

lemma tidy_empty : Database.empty.Tidy where
  whole := by
    refine ⟨⟨_, _, _, _, _, _, _, _, rfl⟩, fun k row h => ?_⟩
    cases k <;> simp [empty, row?] at h
  members t ht := by
    rw [← Option.some.inj ht]
    exact Table.distinct_empty
  expenses t ht := by
    rw [← Option.some.inj ht]
    exact Table.distinct_empty

lemma Tidy.place (h : d.Tidy) (row : Row) : (d.place row).Tidy where
  whole := h.whole.place row
  members t ht := by
    cases row with
    | member g u r =>
      obtain ⟨t', ht', rfl⟩ := Option.map_eq_some_iff.mp ht
      exact (h.members t' ht').put _ _
    | _ => exact h.members t ht
  expenses t ht := by
    cases row with
    | expense e =>
      obtain ⟨t', ht', rfl⟩ := Option.map_eq_some_iff.mp ht
      exact (h.expenses t' ht').put _ _
    | _ => exact h.expenses t ht

end Database

lemma Placed.tidy {d d' : Database} {rows : List Row} (h : Placed d rows d') (hd : d.Tidy) :
    d'.Tidy :=
  h.preserves hd fun _ _ kept _ _ _ hd => hd.place kept

/-! ## Rows that are deleted -/

/-- Tables from which the rows of some keys, none of them the key of an event, have been deleted. -/
structure Cleared (gone : Key → Bool) (d d' : Database) : Prop where
  tidy : d'.Tidy
  row? : ∀ k, d'.row? k = if gone k then some none else d.row? k
  events : d'.events = d.events

namespace Cleared

variable {d d₁ d' : Database} {gone more : Key → Bool}

lemma refl (h : d.Tidy) : Cleared (fun _ => false) d d := ⟨h, fun _ => rfl, rfl⟩

lemma trans (h : Cleared gone d d₁) (h' : Cleared more d₁ d') :
    Cleared (fun k => gone k || more k) d d' where
  tidy := h'.tidy
  row? k := by
    rw [h'.row?, h.row?]
    cases gone k <;> cases more k <;> rfl
  events := h'.events.trans h.events

/-- Rows that are left stand under their keys. -/
lemma whole_of_row? (h : d.Whole) (complete : d'.Complete)
    (rows : ∀ k, d'.row? k = if gone k then some none else d.row? k) : d'.Whole where
  complete := complete
  keyed k row hr := by
    rw [rows] at hr
    split_ifs at hr
    · cases hr
    · exact h.keyed k row hr

end Cleared

variable {d d' : Database}

/-- What is found when the row of a key has been deleted. -/
lemma Database.row?_delete? (h : d.Complete) {k : Key} (hd : d.delete? k = some d') (j : Key) :
    d'.row? j = if j = k then some none else d.row? j := by
  obtain ⟨u, c, v, g, m, e, s, l, rfl⟩ := h
  cases k <;> cases hd <;> cases j <;>
    simp only [Database.row?, Option.map_some, Table.get?_erase, reduceCtorEq, if_false,
      Key.user.injEq, Key.credential.injEq, Key.device.injEq, Key.group.injEq,
      Key.member.injEq, Key.expense.injEq, Key.settlement.injEq, Key.event.injEq,
      Prod.mk.injEq] <;>
    split_ifs <;> simp_all

/-- The row of a key can be deleted, unless it is that of an event. -/
lemma Database.Tidy.delete? (h : d.Tidy) {k : Key} (other : ∀ i, k ≠ .event i) :
    ∃ d', d.delete? k = some d' ∧ Cleared (fun j => decide (j = k)) d d' := by
  have cleared : ∀ d', d.delete? k = some d' → d'.Complete → d'.events = d.events →
      (∀ t ∈ d'.members, t.Distinct) → (∀ t ∈ d'.expenses, t.Distinct) →
        Cleared (fun j => decide (j = k)) d d' := by
    intro d' hd complete events members expenses
    have rows : ∀ j, d'.row? j = if decide (j = k) = true then some none else d.row? j := by
      intro j
      simp only [row?_delete? h.whole.complete hd j, decide_eq_true_eq]
    exact ⟨⟨Cleared.whole_of_row? h.whole complete rows, members, expenses⟩, rows, events⟩
  obtain ⟨u, c, v, g, m, e, s, l, rfl⟩ := h.whole.complete
  cases k with
  | event i => exact absurd rfl (other i)
  | member group user =>
    refine ⟨_, rfl, cleared _ rfl ⟨_, _, _, _, _, _, _, _, rfl⟩ rfl (fun t ht => ?_) h.expenses⟩
    rw [← Option.some.inj ht]
    exact (h.members _ rfl).erase _
  | expense i =>
    refine ⟨_, rfl, cleared _ rfl ⟨_, _, _, _, _, _, _, _, rfl⟩ rfl h.members fun t ht => ?_⟩
    rw [← Option.some.inj ht]
    exact (h.expenses _ rfl).erase _
  | _ => exact ⟨_, rfl, cleared _ rfl ⟨_, _, _, _, _, _, _, _, rfl⟩ rfl h.members h.expenses⟩

/-- So can the rows of the members of a group. -/
lemma Database.Tidy.deleteMembers? (h : d.Tidy) (group : Id) :
    ∃ d', d.deleteMembers? group = some d' ∧ Cleared (·.isMemberOf group) d d' := by
  obtain ⟨u, c, v, g, m, e, s, l, rfl⟩ := h.whole.complete
  refine ⟨_, rfl, ?_⟩
  have rows : ∀ j, Database.row? ⟨some u, some c, some v, some g,
      some ⟨m.rows.filter fun r => r.1.1 ≠ group⟩, some e, some s, some l⟩ j =
        if j.isMemberOf group then some none
        else Database.row? ⟨some u, some c, some v, some g, some m, some e, some s, some l⟩ j := by
    intro j
    cases j with
    | member g' u' =>
      have found := Table.get?_filter (fun k : Id × Id => k.1 ≠ group) m (g', u')
      simp only [Database.row?, Option.map_some, found, Key.isMemberOf]
      by_cases hg : g' = group <;> simp [hg]
    | _ => rfl
  refine ⟨⟨Cleared.whole_of_row? h.whole ⟨_, _, _, _, _, _, _, _, rfl⟩ rows, fun t ht => ?_,
    h.expenses⟩, rows, rfl⟩
  rw [← Option.some.inj ht]
  exact (h.members _ rfl).filter _

/-- Whatever commands delete can be deleted. -/
lemma Database.Tidy.deletion (h : d.Tidy) {w : Write} (deletes : w.isSave = false) :
    ∃ d', Relational.deletion d w = some d' ∧ Cleared w.deletes d d' := by
  cases w with
  | deleteUser i => exact h.delete? (k := .user i) fun _ heq => nomatch heq
  | deleteCredential email =>
    exact h.delete? (k := .credential (Text.lower email)) fun _ heq => nomatch heq
  | deleteExpense i => exact h.delete? (k := .expense i) fun _ heq => nomatch heq
  | deleteGroup i =>
    obtain ⟨d₁, hd₁, members⟩ := h.deleteMembers? i
    obtain ⟨d', hd', group⟩ := members.tidy.delete? (k := .group i) fun _ heq =>
      nomatch heq
    exact ⟨d', Option.bind_eq_some_iff.mpr ⟨d₁, hd₁, hd'⟩, members.trans group⟩
  | _ => cases deletes

lemma Database.Tidy.deletions (h : d.Tidy) {ds : List Write}
    (deletes : ∀ w ∈ ds, w.isSave = false) :
    ∃ d', Relational.deletions d ds = some d' ∧ Cleared (fun k => ds.any (·.deletes k)) d d' := by
  induction ds generalizing d with
  | nil => exact ⟨d, rfl, .refl h⟩
  | cons w ds ih =>
    obtain ⟨d₁, hd₁, first⟩ := h.deletion (deletes w List.mem_cons_self)
    obtain ⟨d', hd', rest⟩ := ih first.tidy fun x hx => deletes x (List.mem_cons_of_mem _ hx)
    exact ⟨d', Option.bind_eq_some_iff.mpr ⟨d₁, hd₁, hd'⟩, first.trans rest⟩

/-! ## Reads of tidy tables -/

lemma ids_of_membersOf {group : Id} {rows : List (Id × MemberRow)} {ms : List Member}
    (h : membersOf group rows = .ok ms) : ms.map (·.id) = rows.map (·.1) := by
  induction rows generalizing ms with
  | nil =>
    obtain rfl := Except.ok.inj h
    rfl
  | cons r rest ih =>
    obtain ⟨user, r⟩ := r
    simp only [membersOf] at h
    cases hm : memberOf group user r with
    | error e => simp [hm] at h
    | ok m =>
      have id : m.id = user := by
        unfold memberOf at hm
        split at hm <;> cases hm
        rfl
      cases hr : membersOf group rest with
      | error e => simp [hm, hr, Except.map] at h
      | ok ms' =>
        simp only [hm, hr, Except.map] at h
        obtain rfl := Except.ok.inj h
        rw [List.map_cons, List.map_cons, ih hr, id]

/-- No member of a group comes twice among its rows. -/
lemma nodup_membersOf {t : Table (Id × Id) MemberRow} (h : t.Distinct) (group : Id) :
    ((Database.membersOf t group).map (·.1)).Nodup :=
  ((perm_membersOf t group).map _).nodup_iff.mpr (nodup_memberRows h group)

/-- What is read as a group, from its row and the rows of its members. -/
lemma findGroup_eq_some_iff (h : d.Complete) (i : Id) (g : Group) :
    findGroup d i = .ok (some g) ↔
      ∃ row t ms, d.row? (.group i) = some (some (.group i row)) ∧ d.members = some t ∧
        membersOf i (Database.membersOf t i) = .ok ms ∧
        g = ⟨i, row.name, row.adminId, row.createdAt, ms⟩ := by
  obtain ⟨u, c, v, gs, m, e, s, l, rfl⟩ := h
  simp only [findGroup, Database.row?, Option.map_some, groupOf]
  cases gs.get? i with
  | none => simp
  | some row =>
    cases hm : membersOf i (Database.membersOf m i) <;> simp [hm, Except.map, eq_comm]

/-- **Tidy tables show entities in order.** -/
theorem Database.Tidy.orderly {r : Relational} (h : r.database.Tidy) : (view r).Orderly where
  groupId i g hg := by
    obtain ⟨row, t, ms, -, -, -, rfl⟩ := (findGroup_eq_some_iff h.whole.complete i g).mp hg
    rfl
  members i g hg := by
    obtain ⟨row, t, ms, -, ht, hm, rfl⟩ := (findGroup_eq_some_iff h.whole.complete i g).mp hg
    show (ms.map (·.id)).Nodup
    rw [ids_of_membersOf hm]
    exact nodup_membersOf (h.members t ht) i
  expenses i es hes := by
    obtain ⟨t, ht, read⟩ : ∃ t, r.database.expenses = some t ∧ openExpenses t i = es := by
      cases ht : r.database.expenses with
      | none => simp [view, reading, ht] at hes
      | some t => exact ⟨t, rfl, by simpa [view, reading, ht] using hes⟩
    have keyed : ∀ p ∈ t.rows, p.1 = p.2.id := by
      intro p hp
      have found := Table.get?_of_mem (h.expenses t ht) (k := p.1) (a := p.2) hp
      have key := h.whole.keyed (.expense p.1) (.expense p.2) (by simp [row?, ht, found])
      exact (Key.expense.inj key).symm
    have keys : t.values.map (·.id) = t.keys := by
      rw [Table.values, List.map_map]
      exact List.map_congr_left fun p hp => (keyed p hp).symm
    have sub : ((t.values.filter fun e => e.groupId = i ∧ !e.settled).map (·.id)).Sublist t.keys :=
      keys ▸ List.filter_sublist.map _
    rw [← read, openExpenses, ((Memory.sortByTime_perm _ _).map _).nodup_iff]
    exact (h.expenses t ht).sublist sub

/-- An address that is free for an account belongs to nobody else. -/
lemma Database.eq_of_addressFree {u v : User} (free : d.addressFree (.user u) = true)
    (hv : d.row? (.user v.id) = some (some (.user v))) (same : v.email = u.email) : v.id = u.id := by
  unfold addressFree at free
  obtain ⟨t, ht, hrow⟩ := Option.map_eq_some_iff.mp hv
  obtain ⟨x, hx, heq⟩ := Option.map_eq_some_iff.mp hrow
  obtain rfl := Row.user.inj heq
  simp only [ht, List.all_eq_true, decide_eq_true_eq] at free
  rcases free x (Table.mem_values_of_get? hx) with id | other
  · exact id
  · exact absurd same other

/-! ## What has been written -/

/-- What a unit of work with some writes and an event makes of tables when it succeeds, the devices
apart: what is saved stands under the keys of its rows as the columns keep it, what is deleted is
gone, the rest is as before; the event is new, and it goes behind the others; and the address of a
new account belongs to nobody else. -/
structure Written (ws : List Write) (e : Event) (d d' : Database) : Prop where
  tidy : d'.Tidy
  saved : ∀ row ∈ ws.flatMap rowsOf,
    ∃ kept, Database.kept? row = some kept ∧ d'.row? row.key = some (some kept)
  others : ∀ k, k ∉ (ws.flatMap rowsOf).map Row.key → k ≠ .event e.id → (∀ i, k ≠ .device i) →
    d'.row? k = if ws.any (·.deletes k) then some none else d.row? k
  logged : ∃ t, d.events = some t ∧ t.get? e.id = none ∧
    d'.events = some (t.put e.id ⟨storedTime e.occurredAt, none, e.document⟩)
  free : ∀ u, .saveUser u ∈ ws → ∀ v, d.row? (.user v.id) = some (some (.user v)) →
    v.email = u.email → v.id = u.id

namespace Placed

variable {rows more : List Row}

lemma split (h : Placed d (rows ++ more) d') : ∃ d₁, Placed d rows d₁ ∧ Placed d₁ more d' := by
  induction rows generalizing d with
  | nil => exact ⟨d, .nil d, h⟩
  | cons row rows ih =>
    cases h with
    | cons keeps free rest =>
      obtain ⟨d₁, before, after⟩ := ih rest
      exact ⟨d₁, .cons keeps free before, after⟩

/-- Rows of other tables leave the log alone. -/
lemma events (h : Placed d rows d') (others : ∀ row ∈ rows, ∀ i, row.key ≠ .event i) :
    d'.events = d.events := by
  refine h.preserves (P := fun x => x.events = d.events) rfl ?_
  intro d₁ row kept hr keeps _ same
  rw [← same]
  have key := key_of_kept? keeps
  cases kept with
  | event i x => exact absurd key.symm (others row hr i)
  | _ => rfl

end Placed

/-- The rows of what is saved, and that of the event behind them, have been written into tables from
which rows had been deleted. -/
lemma Cleared.written {ws : List Write} {e : Event} {d₀ : Database} {order : List Row}
    (cleared : Cleared (fun k => ws.any (·.deletes k)) d d₀)
    (keys : ((ws.flatMap rowsOf).map Row.key).Nodup) (perm : order.Perm (ws.flatMap rowsOf))
    (placed : Placed d₀ (order ++ [eventRow e]) d') (new : d₀.row? (.event e.id) = some none)
    (free : ∀ u, .saveUser u ∈ ws → ∀ v, d.row? (.user v.id) = some (some (.user v)) →
      v.email = u.email → v.id = u.id) : Written ws e d d' where
  tidy := placed.tidy cleared.tidy
  saved row hr := by
    have apart : ∀ row ∈ order, row.key ≠ .event e.id := by
      intro row hr
      obtain ⟨w, -, hr⟩ := List.mem_flatMap.mp (perm.mem_iff.mp hr)
      exact (key_ne_of_mem_rowsOf hr e.id).1
    have all : ((order ++ [eventRow e]).map Row.key).Nodup := by
      rw [List.map_append]
      refine ((perm.map _).nodup_iff.mpr keys).append (List.nodup_singleton _) fun k hk hk' => ?_
      obtain ⟨row, hr, rfl⟩ := List.mem_map.mp hk
      exact apart row hr (List.mem_singleton.mp hk')
    exact placed.row?_of_mem cleared.tidy.whole all
      (List.mem_append_left _ (perm.mem_iff.mpr hr))
  others k hk event _ := by
    rw [← cleared.row? k]
    refine placed.row?_of_notMem cleared.tidy.whole fun hm => ?_
    rw [List.map_append, List.mem_append] at hm
    rcases hm with hm | hm
    · exact hk ((perm.map _).mem_iff.mp hm)
    · exact event (List.mem_singleton.mp hm)
  logged := by
    obtain ⟨d₁, rows, last⟩ := placed.split
    have others : ∀ row ∈ order, ∀ i, row.key ≠ .event i := by
      intro row hr i
      obtain ⟨w, -, hr⟩ := List.mem_flatMap.mp (perm.mem_iff.mp hr)
      exact (key_ne_of_mem_rowsOf hr i).1
    have same := (rows.events others).trans cleared.events
    obtain ⟨u, c, v, g, m, x, s, l, hd⟩ := cleared.tidy.whole.complete
    have log : d.events = some l := by rw [← cleared.events, hd]
    refine ⟨l, log, ?_, ?_⟩
    · simpa [Database.row?, hd] using new
    · cases last with
      | cons keeps free rest =>
        cases rest
        obtain rfl := Option.some.inj keeps
        simp only [Database.place, same, log, Option.map_some, Option.map_none]
  free := free

end Relational

end Store

namespace Command

open CommonPurse.Store.Relational

/-- **What becomes of the unit of work of a command** that was planned on what some store showed in
order: on tidy tables to which nobody else writes, it fails and they stay as they are, or it is
written. -/
theorem Planned.carryOut_written {v : View} {o : Occasion} {c : Command} {p : Plan}
    (h : Planned v o c p) (hv : v.Orderly) {r : Relational} (idle : r.writer = none)
    (tidy : r.database.Tidy) :
    (∃ x, backend.carryOut p.writes p.events r =
        (.error x, ⟨r.database, none, r.opened + 1⟩)) ∨
      ∃ e d', p.events = [e] ∧
        backend.carryOut p.writes p.events r = (.ok (), ⟨d', none, r.opened + 1⟩) ∧
        Written p.writes e r.database d' := by
  obtain ⟨e, he, -⟩ := h.events_eq_singleton
  have keys := h.nodup_keys hv
  rw [he]
  rcases h.isSave_cases with deletes | saves
  · obtain ⟨d₀, hd, cleared⟩ := tidy.deletions deletes
    have rows : p.writes.flatMap rowsOf = [] := by
      refine List.flatMap_eq_nil_iff.mpr fun w hw => ?_
      have deletes := deletes w hw
      cases w <;> first | rfl | cases deletes
    have noSaves : ∀ w ∈ ([] : List Write), w.isSave = true := List.forall_mem_nil _
    have outcome := carryOut_cases (e := e) idle deletes noSaves hd cleared.tidy.whole
      List.nodup_nil
    rw [List.append_nil] at outcome
    rcases outcome with failed | ⟨d', order, done, perm, placed, new⟩
    · exact .inl failed
    · rw [List.flatMap_nil, ← rows] at perm
      refine .inr ⟨e, d', rfl, done, cleared.written keys perm placed new fun u hu => ?_⟩
      cases deletes _ hu
  · have none : ∀ k, p.writes.any (·.deletes k) = false := by
      intro k
      rw [List.any_eq_false]
      intro w hw
      simp [Write.deletes_of_isSave (saves w hw)]
    have cleared : Cleared (fun k => p.writes.any (·.deletes k)) r.database r.database := by
      simpa only [none] using Cleared.refl tidy
    have noDeletes : ∀ w ∈ ([] : List Write), w.isSave = false := List.forall_mem_nil _
    rcases carryOut_cases (e := e) idle noDeletes saves rfl tidy.whole keys with
      failed | ⟨d', order, done, perm, placed, new⟩
    · exact .inl failed
    · refine .inr ⟨e, d', rfl, done, cleared.written keys perm placed new fun u hu x hx same => ?_⟩
      obtain ⟨d₁, before, -⟩ := placed.split
      have saved : Row.user u ∈ order :=
        perm.mem_iff.mpr (List.mem_flatMap.mpr ⟨_, hu, List.mem_singleton_self _⟩)
      have single : order.Pairwise fun a b => a.isUser = true → b.isUser = false := by
        refine (perm.pairwise_iff ?_).mpr h.single
        intro a b hab hb
        cases ha : a.isUser with
        | false => rfl
        | true => rw [hab ha] at hb; cases hb
      have keeps : Database.kept? (.user u) =
        some (.user { u with createdAt := storedTime u.createdAt }) := rfl
      have free := before.addressFree single saved keeps rfl
      exact Database.eq_of_addressFree free hx same

end Command

end CommonPurse
