import CommonPurse.Proofs.Relational.Mirror
import CommonPurse.Proofs.Store.Reading
import CommonPurse.Store.Inventory
import CommonPurse.Store.Memory

/-!
# Stores that answer alike

A store in memory in which nothing is switched off and a relational store whose tables mirror its
contents give the same answers to all reads. Only the bodies of events differ: a text on one side
and a document on the other, but the same event is read from both.

## Main definitions

* `CommonPurse.Store.View.Agrees` — two stores answer alike.

## Main results

* `CommonPurse.Store.Relational.Mirrors.agrees` — tables that mirror the contents answer alike.
* `CommonPurse.Store.View.Agrees.plan`, `answer` — commands and queries are decided alike.
-/

namespace CommonPurse.Store

namespace View

/-- Two stores answer alike. -/
structure Agrees (v w : View) : Prop where
  user : v.user = w.user
  userByEmail : v.userByEmail = w.userByEmail
  credential : v.credential = w.credential
  device : v.device = w.device
  group : v.group = w.group
  expense : v.expense = w.expense
  unsettled : v.unsettled = w.unsettled
  settlement : v.settlement = w.settlement
  lastSettlement : v.lastSettlement = w.lastSettlement
  event : v.event = w.event
  processedAt : v.processedAt = w.processedAt

variable {v w : View}

/-- A command is decided alike: it does not read the bodies of events. -/
theorem Agrees.plan (h : v.Agrees w) (o : Occasion) (c : Command) : c.plan v o = c.plan w o := by
  obtain ⟨hu, he, hc, hd, hg, hx, hn, hs, hl, -, hp⟩ := h
  obtain ⟨user, email, credential, device, group, expense, unsettled, settlement, last, body,
    processed⟩ := v
  obtain ⟨user', email', credential', device', group', expense', unsettled', settlement', last',
    body', processed'⟩ := w
  dsimp only at hu he hc hd hg hx hn hs hl hp
  subst hu he hc hd hg hx hn hs hl hp
  cases c <;> rfl

/-- So is a query. -/
theorem Agrees.answer (h : v.Agrees w) (q : Query) : q.answer v = q.answer w := by
  obtain ⟨hu, he, hc, hd, hg, hx, hn, hs, hl, -, hp⟩ := h
  obtain ⟨user, email, credential, device, group, expense, unsettled, settlement, last, body,
    processed⟩ := v
  obtain ⟨user', email', credential', device', group', expense', unsettled', settlement', last',
    body', processed'⟩ := w
  dsimp only at hu he hc hd hg hx hn hs hl hp
  subst hu he hc hd hg hx hn hs hl hp
  cases q <;> rfl

end View

/-! ## The latest row -/

lemma Memory.latest_map {α β : Type} (time : β → Timestamp) (f : α → β) (l : List α) :
    latest time (l.map f) = (latest (fun a => time (f a)) l).map f := by
  cases l with
  | nil => rfl
  | cons a rest =>
    rw [List.map_cons, latest, latest, Option.map_some]
    congr 1
    induction rest generalizing a with
    | nil => rfl
    | cons b rest ih =>
      rw [List.map_cons, List.foldl_cons, List.foldl_cons]
      split <;> exact ih _

namespace Relational

open CommonPurse.Store.Memory (Contents)

variable {m : Memory} {r : Relational}

/-- The answers of a store in memory in which nothing is switched off. -/
lemma reading_of_open (h : m.crashed = []) {α : Type} (t : Repository) (a : α) :
    m.reading t a = .ok a := by
  simp [Memory.reading, Memory.isCrashed, h]

/-! ## Reads of events -/

lemma lacksId_document (e : Event) : Body.lacksId e.document = false := by
  obtain ⟨id, time, subject⟩ := e
  cases subject <;> simp [Event.document, Body.lacksId, Json.lookup]

/-- The text and the document of an event are read as the same event. -/
lemma SameEvent.read {a : EventRecord} {row : EventRow} (h : SameEvent a row) :
    ∃ e : Event, (∀ fresh now, (Body.text a.text).event fresh now = .ok e) ∧
      (∀ fresh now, (Body.document row.document).event fresh now = .ok e) ∧
      (Body.text a.text).drawn = 0 ∧ (Body.document row.document).drawn = 0 := by
  obtain ⟨e, p, he, rfl, rfl⟩ := h
  refine ⟨e, fun fresh now => ?_, fun fresh now => ?_, ?_, ?_⟩
  · simp only [Body.event, Event.decode_encode fresh now he.legible]
  · simp only [Body.event, Event.ofDocument_document .document fresh now he.legible]
  · simp [Body.drawn, Event.parse?_encode, lacksId_document]
  · simp [Body.drawn, lacksId_document]

/-! ## Single reads -/

/-- A group is read from its row and the rows of its members. -/
lemma Mirrors.findGroup (h : Mirrors m.contents r.database) (ho : m.contents.Orderly)
    (hs : m.contents.Storable) (i : Id) :
    findGroup r.database i = .ok (m.contents.groups.get? i) := by
  obtain ⟨t, ht, hd, hget⟩ := h.members
  rw [Relational.findGroup, h.groups]
  simp only [Table.get?_map]
  cases hg : m.contents.groups.get? i with
  | none => rfl
  | some g =>
    obtain rfl := ho.group_id hg
    have row : ∀ u, t.get? (g.id, u) = (g.member? u).map memberRow := by
      intro u
      rw [hget, hg]
      rfl
    have stored := hs.groups _ (Table.mem_of_get? hg)
    simp only [Option.map_some, ht, groupOf_membersOf hd (ho.members_nodup hg) stored row]
    rfl

/-- A settlement is read from its row. -/
lemma settlementOfRow_map (ho : m.contents.Orderly) (hs : m.contents.Storable)
    {x : Option (Id × Settlement)} (hx : ∀ p ∈ x, p ∈ m.contents.settlements.rows) :
    settlementOfRow (x.map fun p => (p.1, settlementRow p.2)) = .ok (x.map (·.2)) := by
  cases x with
  | none => rfl
  | some p =>
    have mem := hx p rfl
    have key := ho.settlementKeys p mem
    rw [Option.map_some, settlementOfRow, key, settlementOf_settlementRow (hs.settlements p mem)]
    rfl

/-- The open expenses of a group can be put in an order. -/
lemma comparable_openExpenses (hs : m.contents.Storable) (i : Id) :
    Memory.comparable ((Memory.openExpenses m.contents i).map (·.createdAt)) = true := by
  rw [Memory.comparable, Bool.or_eq_true, List.all_eq_true]
  left
  intro t ht
  obtain ⟨e, he, rfl⟩ := List.mem_map.mp ht
  obtain ⟨p, hp, rfl⟩ := List.mem_map.mp ((Memory.mem_openExpenses ..).mp he).1
  simp [(hs.expenses p hp).created]

/-- So can the settlements of a group. -/
lemma comparable_settlementsOf (hs : m.contents.Storable) (i : Id) :
    Memory.comparable ((Memory.settlementsOf m.contents i).map (·.finish)) = true := by
  rw [Memory.comparable, Bool.or_eq_true, List.all_eq_true]
  left
  intro t ht
  obtain ⟨s, hmem, rfl⟩ := List.mem_map.mp ht
  obtain ⟨p, hp, rfl⟩ := List.mem_map.mp (List.mem_filter.mp hmem).1
  simp [(hs.settlements p hp).finish]

/-- The last settlement of a group, on both sides. -/
lemma settlementOfRow_lastRow (ho : m.contents.Orderly) (hs : m.contents.Storable) (i : Id) :
    settlementOfRow (lastRow (m.contents.settlements.map settlementRow) i) =
      .ok (Memory.latest (·.finish) (Memory.settlementsOf m.contents i)) := by
  have rows : lastRow (m.contents.settlements.map settlementRow) i =
      (Memory.latest (fun p : Id × Settlement => p.2.finish)
        (m.contents.settlements.rows.filter fun p => p.2.groupId = i)).map
          fun p => (p.1, settlementRow p.2) := by
    rw [lastRow, Table.map, List.filter_map, Memory.latest_map]
    rfl
  have values : Memory.latest (·.finish) (Memory.settlementsOf m.contents i) =
      (Memory.latest (fun p : Id × Settlement => p.2.finish)
        (m.contents.settlements.rows.filter fun p => p.2.groupId = i)).map (·.2) := by
    rw [Memory.settlementsOf, Table.values, List.filter_map, Memory.latest_map]
    rfl
  rw [rows, values]
  exact settlementOfRow_map ho hs fun p hp => (List.mem_filter.mp (Memory.mem_of_latest hp)).1

/-! ## All reads -/

/-- **Tables that mirror the contents answer alike.** -/
theorem Mirrors.agrees (h : Mirrors m.contents r.database) (up : m.crashed = [])
    (ho : m.contents.Orderly) (hs : m.contents.Storable) : m.view.Agrees (view r) where
  user := by
    funext i
    simp [Memory.view, view, reading_of_open up, h.users, reading]
  userByEmail := by
    funext email
    simp [Memory.view, view, reading_of_open up, h.users, reading]
  credential := by
    funext email
    have up' : m.isCrashed .credentials = false := by simp [Memory.isCrashed, up]
    simp only [Memory.view, view, up', h.credentials]
    rfl
  device := by
    funext i
    simp [Memory.view, view, reading_of_open up, h.devices, reading]
  group := by
    funext i
    simp [Memory.view, view, reading_of_open up, h.findGroup ho hs]
  expense := by
    funext i
    simp [Memory.view, view, reading_of_open up, h.expenses, reading]
  unsettled := by
    funext i
    simp only [Memory.view, view, reading_of_open up, h.expenses, reading,
      comparable_openExpenses hs, if_true]
    rfl
  settlement := by
    funext i
    have found : ∀ p ∈ (m.contents.settlements.get? i).map (fun s => (i, s)),
        p ∈ m.contents.settlements.rows := by
      intro p hp
      obtain ⟨s, hs, rfl⟩ := Option.map_eq_some_iff.mp hp
      exact Table.mem_of_get? hs
    have read := settlementOfRow_map ho hs found
    simp only [Option.map_map] at read
    simp only [Memory.view, view, reading_of_open up, h.settlements, Table.get?_map,
      Option.map_map]
    exact read.symm ▸ by simp [Function.comp_def]
  lastSettlement := by
    funext i
    simp only [Memory.view, view, reading_of_open up, h.settlements,
      comparable_settlementsOf hs, if_true, settlementOfRow_lastRow ho hs]
    rfl
  event := by
    obtain ⟨t, ht, hget⟩ := h.events
    funext o i
    have bodies := hget i
    simp only [View.event, Memory.view, view, reading_of_open up, ht, reading]
    cases ha : m.contents.events.get? i <;> cases hb : t.get? i <;> rw [ha, hb] at bodies <;>
      cases bodies
    · rfl
    next a row same =>
      obtain ⟨e, he, he', hd, hd'⟩ := same.read
      simp only [Option.map_some, he, he', hd, hd']
  processedAt := by
    obtain ⟨t, ht, hget⟩ := h.events
    funext i
    have bodies := hget i
    have up' : m.isCrashed .events = false := by simp [Memory.isCrashed, up]
    simp only [Memory.view, view, up', ht]
    cases ha : m.contents.events.get? i <;> cases hb : t.get? i <;> rw [ha, hb] at bodies <;>
      cases bodies
    · rfl
    next a row same =>
      obtain ⟨e, p, -, rfl, rfl⟩ := same
      rfl

end Relational

end CommonPurse.Store
