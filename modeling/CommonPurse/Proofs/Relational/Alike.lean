import CommonPurse.Proofs.Pipeline.Listener
import CommonPurse.Proofs.Relational.Commit

/-!
# Single calls on both stores

A call is made in two worlds that differ in nothing but the store, and the stores hold the same. It
is followed on either side up to the same result, in worlds that again differ in nothing but the
store, with stores that again hold the same. What the two sides have in common is the world around
the store.

## Main definitions

* `CommonPurse.World.around`, `CommonPurse.World.outside` — the world around a store.
* `CommonPurse.World.Alike` — two outcomes that differ in nothing but the store.
* `CommonPurse.Processor.Alike`, `CommonPurse.Dispatcher.Alike` — processors and dispatchers, one
  for either side, that do the same.

## Main results

* `CommonPurse.World.alike_perform`, `alike_ask` — commands and queries.
* `CommonPurse.World.alike_registerDevice`, `alike_removeDevice` — devices.
* `CommonPurse.Dispatcher.alike_dispatch` — events.
* `CommonPurse.Processor.alike_notifier` — telling the members of groups.
-/

namespace CommonPurse

open CommonPurse.Store CommonPurse.Store.Relational

/-! ## Changes to devices and marks -/

namespace Store.Relational

variable {t : Int} {m : Memory} {r : Relational}

/-- What becomes of the devices and of the log does not concern the rest. -/
lemma Matches.update (h : Matches t m r) {devices : Table Id String} {events : Table Id EventRecord}
    {d : Database}
    (mirrors : Mirrors { m.contents with devices := devices, events := events } d) :
    Matches t { m with contents := { m.contents with devices := devices, events := events } }
      { r with database := d } where
  up := h.up
  idle := h.idle
  mirrors := mirrors
  orderly := { h.orderly with }
  sound := { h.sound with }
  storable := { h.storable with }
  joined := h.joined

/-- Nobody else writes, so a change may be carried out in a transaction of its own. -/
lemma Matches.immediately_eq (h : Matches t m r) (e : Error) (change : Database → Option Database) :
    immediately e change r =
      match change r.database with
      | some d => (.ok (), { r with database := d })
      | none => (.error e, r) := by
  cases hd : change r.database <;> simp [immediately, h.idle, hd]

/-- The row of a device is placed, whether there is one already or not. -/
lemma Matches.saveDevice_eq (h : Matches t m r) (user : Id) (device : String) :
    backend.saveDevice user device r =
      (.ok (), { r with database := r.database.place (.device user device) }) := by
  have whole := h.mirrors.whole h.orderly
  have row : r.database.row? (.device user) =
      some ((m.contents.devices.get? user).map (.device user)) := by
    rw [Database.row?, h.mirrors.devices, Option.map_some]
  have unfolded : backend.saveDevice user device r = Relational.saveDevice user device r := rfl
  rw [unfolded, Relational.saveDevice, row]
  cases hd : m.contents.devices.get? user with
  | none =>
    rw [hd, Option.map_none] at row
    have placed : r.database.insert? (.device user device) =
        some (r.database.place (.device user device)) := Database.insert?_eq_place row rfl rfl
    simp only [Option.map_none, h.immediately_eq, placed]
  | some old =>
    rw [hd, Option.map_some] at row
    by_cases same : old = device
    · subst same
      have placed : r.database.place (.device user old) = r.database :=
        Database.place_of_row? whole.complete row
      simp only [Option.map_some, if_true, placed]
    · have placed : r.database.update? (.device user old) (.device user device) =
          some (r.database.place (.device user device)) :=
        Database.update?_eq_place whole row rfl rfl
      simp only [Option.map_some, if_neg same, h.immediately_eq, placed]

lemma Matches.saveDevice (h : Matches t m r) (user : Id) (device : String) :
    ∃ m' r', Memory.backend.saveDevice user device m = (.ok (), m') ∧
      backend.saveDevice user device r = (.ok (), r') ∧ Matches t m' r' := by
  have mirrors := h.mirrors.devicesTo (m.contents.devices.put user device)
  have placed : r.database.place (.device user device) =
      { r.database with devices := some (m.contents.devices.put user device) } := by
    rw [Database.place, h.mirrors.devices, Option.map_some]
  refine ⟨_, _, ?_, h.saveDevice_eq user device, placed ▸ h.update mirrors⟩
  simp [Memory.backend, Memory.saveDevice, Memory.isCrashed, h.up]

lemma Matches.removeDevice (h : Matches t m r) (user : Id) :
    ∃ m' r', Memory.backend.removeDevice user m = (.ok (), m') ∧
      backend.removeDevice user r = (.ok (), r') ∧ Matches t m' r' := by
  have mirrors := h.mirrors.devicesTo (m.contents.devices.erase user)
  have removed : r.database.delete? (.device user) =
      some { r.database with devices := some (m.contents.devices.erase user) } := by
    rw [Database.delete?, h.mirrors.devices, Option.map_some]
  have unfolded : backend.removeDevice user r = Relational.removeDevice user r := rfl
  refine ⟨_, _, ?_, ?_, h.update mirrors⟩
  · simp [Memory.backend, Memory.removeDevice, Memory.isCrashed, h.up]
  · simp only [unfolded, Relational.removeDevice, h.immediately_eq, removed]

/-- An event is marked on both sides, or it is missing on both. The first mark is kept. -/
lemma Matches.markProcessed (h : Matches t m r) (i : Id) {now : Timestamp}
    (universal : now.offset = some 0) :
    ∃ x m' r', Memory.backend.markProcessed i now m = (x, m') ∧
      backend.markProcessed i now r = (x, r') ∧ Matches t m' r' := by
  obtain ⟨l, hl, hget⟩ := h.mirrors.events
  have up : m.isCrashed .events = false := by simp [Memory.isCrashed, h.up]
  have same := hget i
  simp only [Memory.backend, Memory.markProcessed, up, Bool.false_eq_true, if_false, backend,
    Relational.markProcessed, hl]
  cases ha : m.contents.events.get? i <;> cases hb : l.get? i <;> rw [ha, hb] at same <;> cases same
  · exact ⟨_, m, r, rfl, rfl, h⟩
  next a row same =>
    obtain ⟨e, p, sound, rfl, rfl⟩ := same
    cases p with
    | some first =>
      refine ⟨_, m, r, ?_, rfl, h⟩
      simp only [Option.getD_some, Table.put_of_get? ha]
    | none =>
      have both : SameEvent ⟨e.occurredAt, e.encode, some now⟩
          ⟨e.occurredAt, some now, e.document⟩ := ⟨e, some now, sound, rfl, rfl⟩
      have placed : r.database.place (.event i ⟨e.occurredAt, some (storedTime now), e.document⟩) =
          { r.database with events := some (l.put i ⟨e.occurredAt, some now, e.document⟩) } := by
        rw [Database.place, hl, storedTime_of_universal universal, Option.map_some]
      refine ⟨_, _, _, rfl, ?_, h.update (h.mirrors.eventsTo (rel_put hget both i))⟩
      simp only [h.immediately_eq, placed]

end Store.Relational

/-! ## Worlds around stores -/

namespace World

variable {σ τ α : Type} {t : Int} {m : Memory} {r : Relational}

/-- A world around a store. -/
def around (u : World Unit) (s : σ) : World σ := ⟨s, u.bus, u.transport, u.occasion, u.trace⟩

/-- The world around the store of a world. -/
def outside (w : World σ) : World Unit := ⟨(), w.bus, w.transport, w.occasion, w.trace⟩

/-- Two outcomes at one time that differ in nothing but the store, with stores that hold the
same. -/
def Alike (t : Int) (now : Timestamp) (x : α × World Memory) (y : α × World Relational) : Prop :=
  ∃ a u m r, x = (a, around u m) ∧ y = (a, around u r) ∧ u.occasion.now = now ∧ Matches t m r

@[simp] lemma store_around (u : World Unit) (s : σ) : (u.around s).store = s := rfl

@[simp] lemma occasion_around (u : World Unit) (s : σ) : (u.around s).occasion = u.occasion := rfl

/-- Announcing events has nothing to do with the store. -/
lemma announce_around (operation : String) (events : List Event) (u : World Unit) (s : σ) :
    (u.around s).announce operation events = (u.announce operation events).around s := by
  unfold announce
  split <;> rfl

lemma now_announce (operation : String) (events : List Event) (w : World σ) :
    (w.announce operation events).occasion.now = w.occasion.now := by
  unfold announce
  split <;> rfl

/-- A device is remembered alike. -/
lemma alike_registerDevice (h : Matches t m r) (u : World Unit) (user : Id) (device : String) :
    ∃ m' r', (u.around m).registerDevice Memory.backend user device = u.around m' ∧
      (u.around r).registerDevice backend user device = u.around r' ∧ Matches t m' r' := by
  obtain ⟨m', r', hm, hr, h'⟩ := h.saveDevice user device
  refine ⟨m', r', ?_, ?_, h'⟩
  · simp only [registerDevice, store_around, hm]
    rfl
  · simp only [registerDevice, store_around, hr]
    rfl

/-- A device is forgotten alike. -/
lemma alike_removeDevice (h : Matches t m r) (u : World Unit) (user : Id) :
    ∃ m' r', (u.around m).removeDevice Memory.backend user = u.around m' ∧
      (u.around r).removeDevice backend user = u.around r' ∧ Matches t m' r' := by
  obtain ⟨m', r', hm, hr, h'⟩ := h.removeDevice user
  refine ⟨m', r', ?_, ?_, h'⟩
  · simp only [removeDevice, store_around, hm]
    rfl
  · simp only [removeDevice, store_around, hr]
    rfl

lemma alike_forget (h : Matches t m r) (u : World Unit) (user : Option Id) :
    ∃ m' r', (u.around m).forget Memory.backend user = u.around m' ∧
      (u.around r).forget backend user = u.around r' ∧ Matches t m' r' := by
  cases user with
  | none => exact ⟨m, r, rfl, rfl, h⟩
  | some i => exact alike_removeDevice h u i

/-! ## Single calls -/

/-- **A command is carried out alike**, or refused for the same reason. -/
theorem alike_perform (h : Matches t m r) (u : World Unit) {c : Command}
    (moderate : c.isModerate = true) (clock : u.occasion.now.Sound)
    (later : t < u.occasion.now.wall)
    (fresh : ∀ p, c.plan m.view u.occasion = .ok p →
      ∀ n < p.drawn, m.contents.Unused (u.occasion.ids n)) :
    Alike u.occasion.now.wall u.occasion.now ((u.around m).perform Memory.backend c)
      ((u.around r).perform backend c) := by
  have same : c.plan (backend.view r) u.occasion = c.plan (Memory.backend.view m) u.occasion :=
    (h.agrees.plan u.occasion c).symm
  simp only [perform, store_around, occasion_around, same]
  cases hp : c.plan (Memory.backend.view m) u.occasion with
  | error stop => exact ⟨_, u.say stop.log, m, r, rfl, rfl, rfl, h.mono (Int.le_of_lt later)⟩
  | ok p =>
    obtain ⟨m₁, r₁, hm, hr, h₁⟩ :=
      h.carryOut (Command.planned_of_plan hp) moderate clock later (fresh p hp)
    obtain ⟨m₂, r₂, hm₂, hr₂, h₂⟩ := alike_forget h₁ (u.announce p.operation p.events) p.forget
    have moved : (u.around m).withStore m₁ = u.around m₁ := rfl
    have moved' : (u.around r).withStore r₁ = u.around r₁ := rfl
    simp only [execute, store_around, hm, hr, moved, moved', announce_around, hm₂, hr₂]
    refine ⟨_, ((u.announce p.operation p.events).say p.notices).draw p.drawn, m₂, r₂, rfl, rfl, ?_,
      h₂⟩
    exact now_announce p.operation p.events u

/-- So is a query. -/
lemma alike_ask (h : Matches t m r) (u : World Unit) (q : Query) :
    Alike t u.occasion.now ((u.around m).ask Memory.backend q) ((u.around r).ask backend q) := by
  have same : q.answer (backend.view r) = q.answer (Memory.backend.view m) :=
    (h.agrees.answer q).symm
  simp only [ask, store_around, same]
  cases q.answer (Memory.backend.view m) with
  | error stop => exact ⟨_, u.say stop.log, m, r, rfl, rfl, rfl, h⟩
  | ok p => exact ⟨_, u, m, r, rfl, rfl, rfl, h⟩

end World

/-! ## Looking events up -/

namespace Dispatcher

variable {σ τ : Type} {t : Int} {m : Memory} {r : Relational}

/-- Looking an event up is a read of the store. -/
lemma lookup_eq (b : Backend σ τ) (i : Id) (w : World σ) :
    lookup b i w =
      match ((b.view w.store).event w.occasion i).1 with
      | .error e => .error (.failed e)
      | .ok none => .error .absent
      | .ok (some e) => .ok e := by
  unfold lookup View.event
  rcases (b.view w.store).body i with e | _ | body
  · rfl
  · rfl
  · dsimp only
    cases body.event (w.occasion.ids 0) w.occasion.now <;> rfl

lemma lookupDraws_eq (b : Backend σ τ) (i : Id) (w : World σ) :
    lookupDraws b i w = ((b.view w.store).event w.occasion i).2 := by
  unfold lookupDraws View.event
  rcases (b.view w.store).body i with e | _ | body <;> rfl

/-- An event is found on both sides, after the same pauses, or on neither. -/
lemma fetch_around (h : Matches t m r) (u : World Unit) {d : Dispatcher Memory}
    {d' : Dispatcher Relational} (policy : d.policy = d'.policy) (i : Id) :
    ∃ x u', d.fetch Memory.backend i (u.around m) = (x, World.around u' m) ∧
      d'.fetch backend i (u.around r) = (x, World.around u' r) ∧
      u'.occasion.now = u.occasion.now := by
  have read : (Memory.backend.view m).event = (backend.view r).event := h.agrees.event
  have found : lookup Memory.backend i (u.around m) = lookup backend i (u.around r) := by
    simp only [lookup_eq, World.store_around, World.occasion_around, read]
  have draws : ∀ u : World Unit, lookupDraws Memory.backend i (u.around m) =
      lookupDraws backend i (u.around r) := by
    intro u
    simp only [lookupDraws_eq, World.store_around, World.occasion_around, read]
  unfold fetch
  rw [← found, ← policy]
  cases Retry.run? d.policy Miss.isAbsent (fun _ => lookup Memory.backend i (u.around m)) with
  | none => exact ⟨_, u, rfl, rfl, rfl⟩
  | some run =>
    let paused : World Unit := { u with trace := u.trace ++ run.delays.map .slept }
    let drawn := paused.draw (lookupDraws Memory.backend i (paused.around m))
    have after : (paused.around r).draw (lookupDraws backend i (paused.around r)) =
        drawn.around r := by
      rw [← draws]
      rfl
    have noted := fun entries => congrArg (World.say · entries) after
    dsimp only
    rcases run.ending with e | (_ | e) | ⟨e, attempts, total⟩ | f
    · exact ⟨_, drawn, rfl, congrArg (Prod.mk _) after, rfl⟩
    · exact ⟨_, drawn, rfl, congrArg (Prod.mk _) after, rfl⟩
    · exact ⟨_, drawn.say [unreadable e], rfl, congrArg (Prod.mk _) (noted _), rfl⟩
    · exact ⟨_, drawn.say (givenUp i attempts total), rfl, congrArg (Prod.mk _) (noted _), rfl⟩
    · exact ⟨_, drawn, rfl, congrArg (Prod.mk _) after, rfl⟩

end Dispatcher

/-! ## Processors -/

/-- Two processors, one for either side, that do the same while the clock stands still. -/
structure Processor.Alike (p : Processor Memory) (q : Processor Relational) : Prop where
  name : p.name = q.name
  handle : ∀ {t : Int} {m : Memory} {r : Relational}, Matches t m r →
    ∀ (u : World Unit) (e : Event),
      World.Alike t u.occasion.now (p.handle e (u.around m)) (q.handle e (u.around r))

/-- A note of what is handed to a processor has nothing to do with the store. -/
lemma Processor.alike_recorder (label : String)
    {after : World Memory → Except String Unit × World Memory}
    {after' : World Relational → Except String Unit × World Relational}
    (same : ∀ {t : Int} {m : Memory} {r : Relational}, Matches t m r → ∀ u : World Unit,
      World.Alike t u.occasion.now (after (u.around m)) (after' (u.around r))) :
    (Processor.recorder label after).Alike (Processor.recorder label after') where
  name := rfl
  handle h u e := same h (u.observe (.handed label e.id))

namespace Notification

variable {t : Int} {m : Memory} {r : Relational}

/-- A message is sent to the same device, or to none. -/
lemma deliver_around (h : Matches t m r) (u : World Unit) (recipient : Id) (x : Message) :
    ∃ a u', deliver Memory.backend recipient x (u.around m) = (a, World.around u' m) ∧
      deliver backend recipient x (u.around r) = (a, World.around u' r) ∧
      u'.occasion = u.occasion := by
  have devices : (backend.view r).device = (Memory.backend.view m).device := h.agrees.device.symm
  have sent : u.transport.send (backend.view r) recipient x =
      u.transport.send (Memory.backend.view m) recipient x := by
    cases u.transport with
    | memory failing => rfl
    | push url token replies => simp only [Transport.send, Transport.post, devices]
  have transport : ∀ {σ} (s : σ), (u.around s).transport = u.transport := fun _ => rfl
  simp only [deliver, World.store_around, transport, sent]
  exact ⟨_, { u with transport := _, trace := _ }, rfl, rfl, rfl⟩

lemma deliverAll_around (h : Matches t m r) (u : World Unit) (x : Message) (recipients : List Id) :
    ∃ a u', deliverAll Memory.backend x recipients (u.around m) = (a, World.around u' m) ∧
      deliverAll backend x recipients (u.around r) = (a, World.around u' r) ∧
      u'.occasion = u.occasion := by
  induction recipients generalizing u with
  | nil => exact ⟨0, u, rfl, rfl, rfl⟩
  | cons i rest ih =>
    obtain ⟨a, u₁, hm, hr, hu⟩ := deliver_around h u i x
    obtain ⟨b, u₂, hm', hr', hu'⟩ := ih u₁
    exact ⟨if a then b else b + 1, u₂, by simp only [deliverAll, hm, hm'],
      by simp only [deliverAll, hr, hr'], hu'.trans hu⟩

/-- The members of a group are told the same. -/
lemma notify_around (h : Matches t m r) (u : World Unit) (e : Event) :
    ∃ a u', notify Memory.backend e (u.around m) = (a, World.around u' m) ∧
      notify backend e (u.around r) = (a, World.around u' r) ∧ u'.occasion = u.occasion := by
  have groups : (backend.view r).group = (Memory.backend.view m).group := h.agrees.group.symm
  have prepared : ∀ group actor action, prepare (backend.view r) e.id group actor action =
      prepare (Memory.backend.view m) e.id group actor action := by
    intro group actor action
    simp only [prepare, groups]
  unfold notify
  cases e.subject with
  | account user action => exact ⟨_, u, rfl, rfl, rfl⟩
  | group group actor action =>
    simp only [World.store_around, prepared]
    split
    · rcases prepare (Memory.backend.view m) e.id group actor action with f | _ | ⟨g, x, msg⟩
      · exact ⟨_, u, rfl, rfl, rfl⟩
      · exact ⟨_, u, rfl, rfl, rfl⟩
      · obtain ⟨failed, u', hm, hr, hu⟩ := deliverAll_around h u msg (recipients g x.id)
        simp only [hm, hr]
        split
        · exact ⟨_, u'.say _, rfl, rfl, hu⟩
        · exact ⟨_, u'.say _, rfl, rfl, hu⟩
    · exact ⟨_, u, rfl, rfl, rfl⟩

end Notification

/-- **The processor that tells the members of groups does the same on either side.** -/
theorem Processor.alike_notifier :
    (Processor.notifier Memory.backend).Alike (Processor.notifier backend) where
  name := rfl
  handle {t m r} h u e := by
    obtain ⟨a, u', hm, hr, hu⟩ := Notification.notify_around h u e
    simp only [Processor.notifier, hm, hr]
    cases a with
    | ok x => exact ⟨_, u', m, r, rfl, rfl, congrArg Occasion.now hu, h⟩
    | error f => exact ⟨_, u', m, r, rfl, rfl, congrArg Occasion.now hu, h⟩

/-! ## Dispatching events -/

namespace Dispatcher

variable {t : Int} {m : Memory} {r : Relational}

/-- One processor after the other does the same on either side. -/
lemma handAll_around (h : Matches t m r) {ps : List (Processor Memory)}
    {qs : List (Processor Relational)} (alike : List.Forall₂ Processor.Alike ps qs)
    (u : World Unit) (e : Event) :
    ∃ u' m' r', handAll e ps (u.around m) = World.around u' m' ∧
      handAll e qs (u.around r) = World.around u' r' ∧
      u'.occasion.now = u.occasion.now ∧ Matches t m' r' := by
  induction alike generalizing u m r with
  | nil => exact ⟨u, m, r, rfl, rfl, rfl, h⟩
  | @cons p q ps qs both _ ih =>
    obtain ⟨a, u₁, m₁, r₁, hm, hr, hu, h₁⟩ := both.handle h u e
    cases a with
    | ok x =>
      obtain ⟨u', m', r', hm', hr', hu', h'⟩ := ih h₁ u₁
      exact ⟨u', m', r', by simp only [handAll, hm, hm'], by simp only [handAll, hr, hr'],
        hu'.trans hu, h'⟩
    | error f =>
      obtain ⟨u', m', r', hm', hr', hu', h'⟩ :=
        ih h₁ (u₁.say [.error "Event processor failed" [("processor", .text p.name)]])
      refine ⟨u', m', r', ?_, ?_, hu'.trans hu, h'⟩
      · simp only [handAll, hm, ← hm']
        rfl
      · simp only [handAll, hr, ← hr', ← both.name]
        rfl

/-- An event is marked, and noted to be, on either side. -/
lemma mark_around (h : Matches t m r) (u : World Unit) (universal : u.occasion.now.offset = some 0)
    (i : Id) :
    ∃ u' m' r', mark Memory.backend i (u.around m) = World.around u' m' ∧
      mark backend i (u.around r) = World.around u' r' ∧
      u'.occasion = u.occasion ∧ Matches t m' r' := by
  obtain ⟨x, m', r', hm, hr, h'⟩ := h.markProcessed i universal
  simp only [mark, World.store_around, World.occasion_around, hm, hr]
  cases x with
  | ok v => exact ⟨u.say _, m', r', rfl, rfl, rfl, h'⟩
  | error f => exact ⟨u.say _, m', r', rfl, rfl, rfl, h'⟩

/-- Two dispatchers, one for either side, that look events up alike and hand them to processors that
do the same. -/
structure Alike (d : Dispatcher Memory) (d' : Dispatcher Relational) : Prop where
  policy : d.policy = d'.policy
  processors : List.Forall₂ Processor.Alike d.processors d'.processors

/-- **An event is dispatched alike.** -/
theorem alike_dispatch (h : Matches t m r) (u : World Unit)
    (universal : u.occasion.now.offset = some 0) {d : Dispatcher Memory}
    {d' : Dispatcher Relational} (both : d.Alike d') (i : Id) :
    World.Alike t u.occasion.now (d.dispatch Memory.backend undisturbed i (u.around m))
      (d'.dispatch backend undisturbed i (u.around r)) := by
  obtain ⟨x, u₁, hm, hr, hu⟩ := fetch_around h u both.policy i
  simp only [dispatch_eq, hm, hr]
  cases x with
  | error a => exact ⟨a, u₁, m, r, rfl, rfl, hu, h⟩
  | ok e =>
    obtain ⟨u₂, m₂, r₂, hm₂, hr₂, hu₂, h₂⟩ := handAll_around h both.processors u₁ e
    have same := hu₂.trans hu
    obtain ⟨u₃, m₃, r₃, hm₃, hr₃, hu₃, h₃⟩ := mark_around h₂ u₂ (same ▸ universal) i
    exact ⟨.ok true, u₃, m₃, r₃, by simp only [hm₂, hm₃], by simp only [hr₂, hr₃],
      (congrArg Occasion.now hu₃).trans same, h₃⟩

end Dispatcher

end CommonPurse
