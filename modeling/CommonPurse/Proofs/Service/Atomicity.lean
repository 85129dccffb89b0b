import CommonPurse.Proofs.Service.Perform

/-!
# Commands are carried out as a whole or not at all

On the store in memory, whatever is switched off and whatever the bus takes: a command that is
answered with an error has changed nothing, and one that returns has committed what it wrote
together with one new event, has then announced that event once, and does not depend on what the
bus made of it.

## Main definitions

* `CommonPurse.World.Refused`, `CommonPurse.World.Done` — what a call leaves behind.

## Main results

* `CommonPurse.World.perform_atomic` — all or nothing, and one announcement.
-/

namespace CommonPurse

open CommonPurse.Store

namespace World

/-! ## What a call leaves behind -/

/-- What a call that is answered with an error leaves behind: everything is as it was, but for
notes in the log and identifiers that have been drawn. -/
structure Refused (w w' : World Memory) : Prop where
  store : w'.store = w.store
  bus : w'.bus = w.bus
  trace : ∃ notes : List Log.Entry, w'.trace = w.trace ++ notes.map .logged

/-- What a call of a command leaves behind when it returns. `p` is what the command led to, `e` the
event that tells of it, and `m` the store as it was committed. -/
structure Done (c : Command) (w w' : World Memory) (a : Product) (p : Plan) (e : Event)
    (m : Memory) : Prop where
  /-- The plan is the one of the command on what the store showed before. -/
  planned : Command.Planned w.store.view w.occasion c p
  answer : a = p.product
  /-- There is one event, of this moment, with an identifier that was not in the log. -/
  single : p.events = [e]
  now : e.occurredAt = w.occasion.now
  new : w.store.contents.events.get? e.id = none
  /-- The writes and the record of the event are in the same committed store. -/
  committed : m = { w.store with
    contents := { w.store.contents.writeAll p.writes with
      events := w.store.contents.events.put e.id ⟨e.occurredAt, e.encode, none⟩ } }
  /-- The record is the only row that the log has gained, and it is not marked as processed. -/
  logged : m.contents.events.rows =
    w.store.contents.events.rows ++ [(e.id, ⟨e.occurredAt, e.encode, none⟩)]
  /-- After the commit the event is announced, and then at most a device is forgotten. -/
  course : w' =
    ((((w.withStore m).announce p.operation [e]).forget Memory.backend p.forget).say
      p.notices).draw p.drawn
  store : w'.store = m.forgetting p.forget
  /-- The bus was handed the identifier of the event, and nothing else. -/
  bus : w'.bus = (w.bus.publish [e.id]).2
  /-- One announcement can be seen in the trace; the rest are notes in the log. -/
  trace : ∃ notes : List Log.Entry, w'.trace = w.trace ++ busTrace w.bus w'.bus ++
    .logged (publishEntry p.operation 1 (w.bus.publish [e.id]).1) :: notes.map .logged

lemma announce_singleton (operation : String) (e : Event) (w : World Memory) :
    w.announce operation [e] =
      (w.publish [e.id]).2.say [publishEntry operation 1 (w.bus.publish [e.id]).1] := by
  simp [announce, publish]

/-- What is left behind when the plan of a command is carried out. -/
lemma done_concluded {c : Command} {w : World Memory} {p : Plan}
    (hp : Command.Planned w.store.view w.occasion c p)
    (ha : w.store.vet p.writes p.events = .ok ()) :
    ∃ e m, Done c w (w.concluded p) p.product p e m := by
  obtain ⟨e, he, hnow⟩ := hp.events_eq_singleton
  obtain ⟨-, -, hnew⟩ := (Memory.vet_eq_ok_iff ..).mp ha
  have hget : w.store.contents.events.get? e.id = none := by
    have hall := ((Memory.checkNew_eq_ok_iff ..).mp hnew).1
    exact hall e.id (by simp [he])
  obtain ⟨m, hm⟩ : ∃ m : Memory, m = { w.store with
      contents := { w.store.contents.writeAll p.writes with
        events := w.store.contents.events.put e.id (Memory.recordOf e) } } := ⟨_, rfl⟩
  have hmid : w.committed p = w.withStore m := by
    rw [committed, he, Memory.Contents.applyAll_changesOf, hm]
    rfl
  have hlogged : m.contents.events.rows =
      w.store.contents.events.rows ++ [(e.id, Memory.recordOf e)] := by
    rw [hm]
    exact Table.rows_put_of_absent _ hget
  have hcourse : w.concluded p =
      ((((w.withStore m).announce p.operation [e]).forget Memory.backend p.forget).say
        p.notices).draw p.drawn := by
    rw [concluded, hmid, he]
  have hworld := hcourse
  rw [forget_eq, announce_singleton] at hworld
  refine ⟨e, m, hp, rfl, he, hnow, hget, hm, hlogged, hcourse, ?_, ?_, ?_⟩
  · rw [hworld]
    rfl
  · rw [hworld]
    rfl
  · refine ⟨m.forgettingNotes p.forget ++ p.notices, ?_⟩
    rw [hworld]
    simp [draw, say, withStore, publish]

/-- **Commands are carried out as a whole or not at all.** For every store in memory, whatever it
contains and whatever is switched off, every bus and every command: a call that is answered with
an error leaves the store and the bus as they were, and one that returns leaves behind the writes
of the command together with one new event, which is announced once and after the commit. With
another bus the call has the same answer and leaves the same store.

**Proof sketch.** Both outcomes are read off `perform_eq`. The plan and what stands in its way
depend on the store alone, so the bus can be replaced. -/
theorem perform_atomic (c : Command) (w : World Memory) :
    match w.perform Memory.backend c with
    | (.error _, w') => Refused w w'
    | (.ok a, w') =>
      (∃ p e m, Done c w w' a p e m) ∧ ∀ bus, ∃ w'',
        ({ w with bus := bus } : World Memory).perform Memory.backend c = (.ok a, w'') ∧
          w''.store = w'.store := by
  rw [perform_eq]
  cases hp : c.plan w.store.view w.occasion with
  | error stop => exact ⟨rfl, rfl, stop.log, rfl⟩
  | ok p =>
    have hplanned := Command.planned_of_plan hp
    cases ha : w.store.vet p.writes p.events with
    | error e =>
      simp only [ha]
      exact ⟨rfl, rfl, [storageEntry "Unit of work failed" p.operation e], rfl⟩
    | ok u =>
      simp only [ha]
      obtain ⟨e, m, hd⟩ := done_concluded hplanned ha
      refine ⟨⟨p, e, m, hd⟩, fun bus => ?_⟩
      refine ⟨_, (perform_eq_ok_iff ..).mpr ⟨p, hplanned, ha, rfl, rfl⟩, ?_⟩
      obtain ⟨e', m', hd'⟩ := done_concluded (w := { w with bus := bus }) hplanned ha
      have hee : e' = e := by simpa [hd.single] using hd'.single.symm
      rw [hd'.store, hd.store, hd'.committed, hd.committed, hee]

end World

end CommonPurse
