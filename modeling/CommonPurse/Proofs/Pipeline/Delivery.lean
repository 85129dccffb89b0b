import CommonPurse.Proofs.Event.Recorded
import CommonPurse.Proofs.Pipeline.Listener
import CommonPurse.Proofs.Service.Atomicity

/-!
# Nothing is lost and nothing is delivered twice

Calls commit events and put their identifiers into the queue, and the listener takes them out and
hands the events to the processors. However calls and steps of the listener follow one another,
every committed event has been dispatched, is in the hands of the listener, or waits in the queue;
and it is handed to every processor once, as it was committed.

## Main definitions

* `CommonPurse.Processor.Quiet` — a processor that keeps out of the pipeline.
* `CommonPurse.Pipeline.Delivered` — nothing is lost and nothing is delivered twice.
* `CommonPurse.Pipeline.Invariant` — what every step keeps.

## Main results

* `CommonPurse.Processor.quiet_notifier` — the processor that tells members keeps out of it.
* `CommonPurse.Pipeline.Invariant.step` — every step keeps the invariant.
* `CommonPurse.Pipeline.delivered_run` — whatever happens, nothing is lost or delivered twice.
-/

namespace CommonPurse

open CommonPurse.Store

/-! ## Processors that keep out of the pipeline -/

/-- What a processor leaves alone: the log, the switches of the collections and the queue. What it
stores besides has amounts and times that a text can name, and so has the clock. -/
structure World.Aside (w w' : World Memory) : Prop where
  log : w'.store.contents.events = w.store.contents.events
  switches : w'.store.crashed = w.store.crashed
  bus : w'.bus = w.bus
  clock : w.occasion.now.Sound → w'.occasion.now.Sound
  sound : w.store.contents.Sound → w'.store.contents.Sound

/-- A processor that keeps out of the pipeline, whether it fails or not. -/
def Processor.Quiet (p : Processor Memory) : Prop :=
  ∀ e w, World.Aside w (p.handle e w).2

/-- Delivering messages changes nothing but the transport and the trace. -/
lemma Notification.deliverAll_eq (m : Message) (recipients : List Id) (w : World Memory) :
    ∃ transport trace, (deliverAll Memory.backend m recipients w).2 =
      { w with transport := transport, trace := trace } := by
  induction recipients generalizing w with
  | nil => exact ⟨w.transport, w.trace, rfl⟩
  | cons r rest ih =>
    obtain ⟨transport, trace, h⟩ := ih (deliver Memory.backend r m w).2
    refine ⟨transport, trace, ?_⟩
    rw [deliverAll]
    dsimp only
    rw [h]
    rfl

/-- Nor does telling the members of a group about an event. -/
lemma Notification.notify_eq (e : Event) (w : World Memory) :
    ∃ transport trace, (notify Memory.backend e w).2 =
      { w with transport := transport, trace := trace } := by
  unfold notify
  cases e.subject with
  | account user action => exact ⟨w.transport, w.trace, rfl⟩
  | group group actor action =>
    dsimp only
    split
    · split
      · exact ⟨w.transport, w.trace, rfl⟩
      · exact ⟨w.transport, w.trace, rfl⟩
      next g m x _ =>
        obtain ⟨transport, trace, h⟩ := deliverAll_eq x (recipients g m.id) w
        rw [h]
        split
        · exact ⟨transport, _, rfl⟩
        · exact ⟨transport, _, rfl⟩
    · exact ⟨w.transport, w.trace, rfl⟩

/-- **The processor that tells the members of groups keeps out of the pipeline.** -/
theorem Processor.quiet_notifier : (Processor.notifier Memory.backend).Quiet := by
  intro e w
  obtain ⟨transport, trace, h⟩ := Notification.notify_eq e w
  have handled : ((Processor.notifier Memory.backend).handle e w).2 =
      (Notification.notify Memory.backend e w).2 := by
    unfold Processor.notifier
    dsimp only
    split
    next heq => rw [heq]
    next heq => rw [heq]
  rw [handled, h]
  exact ⟨rfl, rfl, rfl, id, id⟩

lemma Processor.Quiet.hand {p : Processor Memory} (h : p.Quiet) (e : Event) (w : World Memory) :
    World.Aside w (Dispatcher.hand e p w) := by
  have aside := h e w
  unfold Dispatcher.hand
  split
  next heq =>
    rw [heq] at aside
    exact aside
  next heq =>
    rw [heq] at aside
    exact ⟨aside.log, aside.switches, aside.bus, aside.clock, aside.sound⟩

/-! ## Calls -/

namespace World

lemma now_concluded (p : Plan) (w : World Memory) :
    (w.concluded p).occasion.now = w.occasion.now := by
  obtain ⟨bus, trace, h⟩ := announce_eq p.operation p.events (w.committed p)
  rw [concluded, h, forget_eq]
  rfl

/-- What a call does to the pipeline: nothing, or it commits the plan of a command together with
one new event, whose identifier it puts into the queue. -/
lemma call_cases (w : World Memory) (o : Occasion) (c : Command) :
    let w' := w.move (.call o c)
    w'.occasion.now = o.now ∧ w'.store.crashed = w.store.crashed ∧
      ((w.recorded (.call o c) = [] ∧ w'.store.contents = w.store.contents ∧ w'.bus = w.bus) ∨
        ∃ p e devices, Command.Planned w.store.view o c p ∧ p.events = [e] ∧
          w.store.contents.events.get? e.id = none ∧ w.recorded (.call o c) = [e] ∧
          w'.store.contents = { w.store.contents.writeAll p.writes with
            devices := devices, events := w.store.contents.events.put e.id (Memory.recordOf e) } ∧
          w'.bus = (w.bus.publish [e.id]).2) := by
  dsimp only [move, recorded, Memory.accepted?]
  rw [perform_eq]
  cases hp : c.plan w.store.view o with
  | error stop => exact ⟨rfl, rfl, .inl ⟨rfl, rfl, rfl⟩⟩
  | ok p =>
    cases ha : w.store.vet p.writes p.events with
    | error e =>
      simp only [ha]
      exact ⟨rfl, rfl, .inl ⟨rfl, rfl, rfl⟩⟩
    | ok u =>
      simp only [ha]
      obtain ⟨e, m, hd⟩ := done_concluded (w := { w with occasion := o })
        (Command.planned_of_plan hp) ha
      obtain ⟨devices, forgotten⟩ := m.forgetting_eq p.forget
      have store := hd.store
      rw [forgotten, hd.committed] at store
      refine ⟨now_concluded .., by rw [store], .inr ⟨p, e, devices, hd.planned, hd.single,
        hd.new, by simp [hd.single], by rw [store]; rfl, hd.bus⟩⟩

end World

/-! ## What is promised -/

/-- An event is handed to the first processors. -/
def handings (n : Nat) (e : Event) : List Handing := (List.range n).map fun k => ⟨k, e⟩

namespace Stage

/-- The event in the hands of the listener. -/
def current : Stage → List Event
  | .handing _ e _ => [e]
  | _ => []

/-- The handings of the event in the hands of the listener. -/
def begun : Stage → List Handing
  | .handing _ e next => handings next e
  | _ => []

end Stage

namespace Pipeline

/-- Nothing is lost and nothing is delivered twice. Between two iterations the listener has no
event in its hands. -/
structure Delivered (d : Dispatcher Memory) (s : Pipeline) : Prop where
  /-- The log holds the committed events in the order of their commits, each once. -/
  logged : s.world.store.contents.events.keys = s.committed.map (·.id)
  once : (s.committed.map (·.id)).Nodup
  /-- They have been dispatched, or are in the hands of the listener, or wait in the queue. -/
  order : s.committed.map (·.id) =
    s.dispatched ++ s.stage.current.map (·.id) ++ s.world.bus.waiting
  /-- Every dispatched event has been handed to every processor, in the order of the processors
  and as it was committed; the one in the hands of the listener to the first of them. -/
  handed : s.handed =
    (s.committed.take s.dispatched.length).flatMap (handings d.processors.length) ++ s.stage.begun
  current : s.stage.current <+: s.committed.drop s.dispatched.length
  /-- What has been dispatched is marked as processed, and nothing else is. -/
  marked : ∀ i, (∃ t, s.world.store.view.processedAt i = .ok (some t)) ↔ i ∈ s.dispatched
  /-- The listener goes on. -/
  running : s.stage ≠ .stopped

/-- The occasion that a move brings. -/
def Move.occasion? : Move → Option Occasion
  | .call o _ => some o
  | .ask o _ => some o
  | .tick o => some o
  | .listen => none

/-! ## The invariant -/

/-- The world keeps going: nothing is switched off, what is stored can be named, and so can the
time. -/
structure Steady (w : World Memory) : Prop where
  running : w.store.crashed = []
  stored : w.store.contents.Sound
  clock : w.occasion.now.Sound

/-- A log of events, some of which are marked as processed. -/
structure Logged (log : Table Id EventRecord) (committed : List Event) (dispatched : List Id) :
    Prop where
  keys : log.keys = committed.map (·.id)
  once : (committed.map (·.id)).Nodup
  records : ∀ e ∈ committed, ∃ t,
    log.get? e.id = some { Memory.recordOf e with processedAt := t } ∧
      (t.isSome = true ↔ e.id ∈ dispatched)
  sound : ∀ e ∈ committed, e.Sound

/-- **What every step keeps.** The committed events are the dispatched ones, the one in the hands
of the listener, and those that wait. -/
structure Invariant (d : Dispatcher Memory) (s : Pipeline) (done pending : List Event) :
    Prop where
  steady : Steady s.world
  logged : Logged s.world.store.contents.events s.committed s.dispatched
  committed : s.committed = done ++ s.stage.current ++ pending
  dispatched : s.dispatched = done.map (·.id)
  bus : s.world.bus = .queue (pending.map (·.id)) none
  handed : s.handed = done.flatMap (handings d.processors.length) ++ s.stage.begun
  stage : s.stage = .waiting ∨
    ∃ e next, s.stage = .handing e.id e next ∧ next ≤ d.processors.length

/-! ## The log -/

section Log

variable {log : Table Id EventRecord} {committed : List Event} {dispatched : List Id}

/-- A new event is logged behind the others and is not marked. -/
lemma Logged.commit (h : Logged log committed dispatched)
    (known : ∀ i ∈ dispatched, i ∈ committed.map (·.id)) {e : Event}
    (new : log.get? e.id = none) (sound : e.Sound) :
    Logged (log.put e.id (Memory.recordOf e)) (committed ++ [e]) dispatched := by
  have fresh : e.id ∉ committed.map (·.id) := by
    rw [← h.keys]
    exact (Table.get?_eq_none_iff log e.id).mp new
  refine ⟨?_, ?_, ?_, ?_⟩
  · have rows := Table.rows_put_of_absent (Memory.recordOf e) new
    rw [Table.keys, rows, List.map_append, List.map_append, ← h.keys]
    rfl
  · rw [List.map_append]
    exact List.Nodup.append h.once (List.nodup_singleton _) (by simpa using fresh)
  · intro x hx
    rcases List.mem_append.mp hx with hx | hx
    · obtain ⟨t, found, marked⟩ := h.records x hx
      have other : e.id ≠ x.id := fun same => fresh (same ▸ List.mem_map_of_mem hx)
      exact ⟨t, by rw [Table.get?_put, if_neg other, found], marked⟩
    · obtain rfl := List.mem_singleton.mp hx
      refine ⟨none, by rw [Table.get?_put, if_pos rfl]; rfl, ?_⟩
      simpa using fun hd => fresh (known _ hd)
  · intro x hx
    rcases List.mem_append.mp hx with hx | hx
    · exact h.sound x hx
    · rw [List.mem_singleton.mp hx]
      exact sound

/-- An event that is marked stays what it is. -/
lemma Logged.mark (h : Logged log committed dispatched) {e : Event} (he : e ∈ committed)
    {r : EventRecord} (hr : log.get? e.id = some r) (t : Timestamp) :
    Logged (log.put e.id { r with processedAt := some t }) committed (dispatched ++ [e.id]) := by
  refine ⟨?_, h.once, ?_, h.sound⟩
  · have mem : e.id ∈ log.keys := by
      rw [h.keys]
      exact List.mem_map_of_mem he
    rw [Table.keys_put, if_pos mem, h.keys]
  · intro x hx
    obtain ⟨t', found, marked⟩ := h.records x hx
    by_cases same : e.id = x.id
    · rw [← same, hr] at found
      refine ⟨some t, ?_, by simp [same]⟩
      rw [Table.get?_put, if_pos same, Option.some.inj found]
    · have other : x.id ≠ e.id := fun h => same h.symm
      exact ⟨t', by rw [Table.get?_put, if_neg same, found], by simpa [other] using marked⟩

end Log

/-! ## Steps of calls -/

section Steps

variable {d : Dispatcher Memory} {s : Pipeline} {done pending : List Event}

/-- What has been dispatched has been committed. -/
lemma Invariant.known (h : Invariant d s done pending) :
    ∀ i ∈ s.dispatched, i ∈ s.committed.map (·.id) := by
  intro i hi
  rw [h.dispatched] at hi
  rw [h.committed, List.map_append, List.map_append]
  exact List.mem_append_left _ (List.mem_append_left _ hi)

/-- A call keeps the invariant: an event that it commits waits behind the others. -/
lemma Invariant.call (h : Invariant d s done pending) {o : Occasion} (ho : o.now.Sound)
    (c : Command) :
    ∃ pending', Invariant d (s.step d (.call o c)) done pending' := by
  obtain ⟨now, crashed, cases⟩ := s.world.call_cases o c
  have clock : (s.world.move (.call o c)).occasion.now.Sound := by
    rw [now]
    exact ho
  rcases cases with
    ⟨none, contents, bus⟩ | ⟨p, e, devices, planned, single, new, one, contents, bus⟩
  · refine ⟨pending, ⟨crashed.trans h.steady.running, ?_, clock⟩, ?_, ?_, h.dispatched,
      bus.trans h.bus, h.handed, h.stage⟩
    · rw [Pipeline.step, contents]
      exact h.steady.stored
    · rw [Pipeline.step, none, List.append_nil, contents]
      exact h.logged
    · rw [Pipeline.step, none, List.append_nil]
      exact h.committed
  · have sound : e.Sound := planned.sound_events h.steady.stored ho e (by rw [single]; simp)
    have written := h.steady.stored.writeAll (planned.sound_writes h.steady.stored ho)
    refine ⟨pending ++ [e], ⟨crashed.trans h.steady.running, ?_, clock⟩, ?_, ?_, h.dispatched,
      ?_, h.handed, h.stage⟩
    · rw [Pipeline.step, contents]
      exact { written with }
    · rw [Pipeline.step, one, contents]
      exact h.logged.commit h.known new sound
    · rw [Pipeline.step, one, h.committed, List.append_assoc]
    · have published : (s.world.move (.call o c)).bus =
          .queue ((pending ++ [e]).map (·.id)) Option.none := by
        rw [bus, h.bus, List.map_append]
        rfl
      exact published

lemma Invariant.ask (h : Invariant d s done pending) {o : Occasion} (ho : o.now.Sound)
    (q : Query) : Invariant d (s.step d (.ask o q)) done pending := by
  have same : ∃ trace, s.world.move (.ask o q) =
      { s.world with occasion := o, trace := trace } := by
    simp only [World.move, World.ask]
    split
    · exact ⟨_, rfl⟩
    · exact ⟨_, rfl⟩
  obtain ⟨trace, same⟩ := same
  rw [Pipeline.step, same]
  exact ⟨⟨h.steady.running, h.steady.stored, ho⟩, h.logged, h.committed, h.dispatched, h.bus,
    h.handed, h.stage⟩

lemma Invariant.tick (h : Invariant d s done pending) {o : Occasion} (ho : o.now.Sound) :
    Invariant d (s.step d (.tick o)) done pending :=
  ⟨⟨h.steady.running, h.steady.stored, ho⟩, h.logged, h.committed, h.dispatched, h.bus, h.handed,
    h.stage⟩

/-! ## Steps of the listener -/

/-- **A committed event is found in the log**, and it is read as it was committed. -/
lemma lookup_logged {w : World Memory} (running : w.store.crashed = []) {committed : List Event}
    {dispatched : List Id} (h : Logged w.store.contents.events committed dispatched) {e : Event}
    (he : e ∈ committed) : Dispatcher.lookup Memory.backend e.id w = .ok e := by
  obtain ⟨t, found, -⟩ := h.records e he
  have open' : w.store.isCrashed .events = false := by
    rw [Memory.isCrashed, running]
    rfl
  have body : (Memory.backend.view w.store).body e.id = .ok (some (.text e.encode)) := by
    show w.store.reading .events _ = _
    rw [Memory.reading, open', found]
    rfl
  rw [Dispatcher.lookup, body]
  simp only [Body.event, Event.decode_encode _ _ (h.sound e he).legible]

/-- The listener takes the next identifier off the queue and finds its event. -/
lemma Invariant.take (h : Invariant d s done pending) (usable : d.policy.isUsable = true)
    (waiting : s.stage = .waiting) :
    ∃ pending', Invariant d (s.listen d) done pending' := by
  cases pending with
  | nil =>
    have nothing : s.world.bus.next? = none := by
      rw [h.bus]
      rfl
    refine ⟨[], ?_⟩
    simp only [listen, waiting, nothing]
    exact h
  | cons e rest =>
    have next : s.world.bus.next? = some (e.id, .queue (rest.map (·.id)) none) := by
      rw [h.bus]
      rfl
    have committed : e ∈ s.committed := by
      rw [h.committed]
      simp
    have found := Dispatcher.fetch_of_lookup Memory.backend usable
      (lookup_logged (w := { s.world with bus := .queue (rest.map (·.id)) none })
        h.steady.running h.logged committed)
    refine ⟨rest, ?_⟩
    simp only [listen, waiting, next, found]
    refine ⟨⟨h.steady.running, h.steady.stored, h.steady.clock⟩, h.logged, ?_, h.dispatched, rfl,
      ?_, .inr ⟨e, 0, rfl, Nat.zero_le _⟩⟩
    · rw [h.committed, waiting]
      simp [Stage.current]
    · rw [h.handed, waiting]
      simp [Stage.begun, handings]

/-- The listener hands an event to the next processor. -/
lemma Invariant.hand (h : Invariant d s done pending) (quiet : ∀ p ∈ d.processors, p.Quiet)
    {e : Event} {next : Nat} (handing : s.stage = .handing e.id e next) {p : Processor Memory}
    (hp : d.processors[next]? = some p) : Invariant d (s.listen d) done pending := by
  obtain ⟨log, switches, bus, clock, sound⟩ :=
    (quiet p (List.mem_of_getElem? hp)).hand e s.world
  have inside : next < d.processors.length := (List.getElem?_eq_some_iff.mp hp).1
  simp only [listen, handing, hp]
  refine ⟨⟨switches.trans h.steady.running, sound h.steady.stored, clock h.steady.clock⟩, ?_, ?_,
    h.dispatched, bus.trans h.bus, ?_, .inr ⟨e, next + 1, rfl, inside⟩⟩
  · rw [log]
    exact h.logged
  · rw [h.committed, handing]
    rfl
  · rw [h.handed, handing, List.append_assoc]
    simp [Stage.begun, handings, List.range_succ]

/-- Marking an event of the log changes its record, and nothing else that is stored. -/
lemma mark_eq {w : World Memory} (running : w.store.crashed = []) {i : Id} {r : EventRecord}
    (found : w.store.contents.events.get? i = some r) :
    ∃ t trace, Dispatcher.mark Memory.backend i w =
      { w with
        store := { w.store with contents := { w.store.contents with
          events := w.store.contents.events.put i { r with processedAt := some t } } }
        trace := trace } := by
  have open' : w.store.isCrashed .events = false := by
    rw [Memory.isCrashed, running]
    rfl
  have marked : Memory.backend.markProcessed i w.occasion.now w.store =
      (.ok (), { w.store with contents := { w.store.contents with
        events := w.store.contents.events.put i
          { r with processedAt := some (r.processedAt.getD w.occasion.now) } } }) := by
    show w.store.markProcessed i w.occasion.now = _
    simp [Memory.markProcessed, open', found]
  rw [Dispatcher.mark, marked]
  exact ⟨_, _, rfl⟩

/-- The listener marks an event that every processor has been handed. -/
lemma Invariant.mark (h : Invariant d s done pending) {e : Event} {next : Nat}
    (handing : s.stage = .handing e.id e next) (past : d.processors[next]? = none)
    (bound : next ≤ d.processors.length) : Invariant d (s.listen d) (done ++ [e]) pending := by
  have all : next = d.processors.length :=
    Nat.le_antisymm bound (List.getElem?_eq_none_iff.mp past)
  have committed : e ∈ s.committed := by
    rw [h.committed, handing]
    simp [Stage.current]
  obtain ⟨t, found, -⟩ := h.logged.records e committed
  obtain ⟨t', trace, marked⟩ := mark_eq h.steady.running found
  simp only [listen, handing, past, marked]
  refine ⟨⟨h.steady.running, { h.steady.stored with }, h.steady.clock⟩,
    h.logged.mark committed found t', ?_, ?_, h.bus, ?_, .inl rfl⟩
  · rw [h.committed, handing]
    simp [Stage.current]
  · rw [h.dispatched, List.map_append]
    rfl
  · rw [h.handed, handing, all]
    simp [Stage.begun]

/-! ## Runs -/

/-- **Every step keeps the invariant**, whoever takes it. -/
theorem Invariant.step (h : Invariant d s done pending) (usable : d.policy.isUsable = true)
    (quiet : ∀ p ∈ d.processors, p.Quiet) {m : Move} (clock : ∀ o ∈ m.occasion?, o.now.Sound) :
    ∃ done' pending', Invariant d (s.step d m) done' pending' := by
  cases m with
  | call o c =>
    obtain ⟨pending', h'⟩ := h.call (clock o rfl) c
    exact ⟨done, pending', h'⟩
  | ask o q => exact ⟨done, pending, h.ask (clock o rfl) q⟩
  | tick o => exact ⟨done, pending, h.tick (clock o rfl)⟩
  | listen =>
    rcases h.stage with waiting | ⟨e, next, handing, bound⟩
    · obtain ⟨pending', h'⟩ := h.take usable waiting
      exact ⟨done, pending', h'⟩
    · cases hp : d.processors[next]? with
      | some p => exact ⟨done, pending, h.hand quiet handing hp⟩
      | none => exact ⟨done ++ [e], pending, h.mark handing hp bound⟩

/-- At the start nothing has been committed. -/
lemma invariant_start (d : Dispatcher Memory) (t : Notification.Transport) {o : Occasion}
    (ho : o.now.Sound) : Invariant d (start t o) [] [] where
  steady := ⟨rfl, Memory.Contents.sound_empty, ho⟩
  logged := ⟨rfl, List.nodup_nil, by simp [start], by simp [start]⟩
  committed := rfl
  dispatched := rfl
  bus := rfl
  handed := rfl
  stage := .inl rfl

/-- Every run keeps the invariant. -/
lemma Invariant.run (h : Invariant d s done pending) (usable : d.policy.isUsable = true)
    (quiet : ∀ p ∈ d.processors, p.Quiet) (moves : List Move)
    (clock : ∀ m ∈ moves, ∀ o ∈ m.occasion?, o.now.Sound) :
    ∃ done' pending', Invariant d (s.run d moves) done' pending' := by
  induction moves generalizing s done pending with
  | nil => exact ⟨done, pending, h⟩
  | cons m ms ih =>
    obtain ⟨done', pending', h'⟩ := h.step usable quiet (clock m (by simp))
    exact ih h' fun m' hm' => clock m' (List.mem_cons_of_mem m hm')

/-- The marks of a log are on the dispatched events. -/
lemma Invariant.marked (h : Invariant d s done pending) (i : Id) :
    (∃ t, s.world.store.view.processedAt i = .ok (some t)) ↔ i ∈ s.dispatched := by
  have open' : s.world.store.isCrashed .events = false := by
    rw [Memory.isCrashed, h.steady.running]
    rfl
  simp only [Memory.view, open', Bool.false_eq_true, if_false]
  cases found : s.world.store.contents.events.get? i with
  | none =>
    have absent := (Table.get?_eq_none_iff _ i).mp found
    rw [h.logged.keys] at absent
    simpa using fun hi => absent (h.known i hi)
  | some r =>
    have mem : i ∈ s.committed.map (·.id) := by
      rw [← h.logged.keys]
      by_contra absent
      rw [(Table.get?_eq_none_iff _ i).mpr absent] at found
      exact Option.some_ne_none r found.symm
    obtain ⟨e, he, rfl⟩ := List.mem_map.mp mem
    obtain ⟨t, found', marks⟩ := h.logged.records e he
    rw [found] at found'
    rw [← marks, Option.some.inj found']
    simp [Option.isSome_iff_exists]

/-- The invariant says that nothing is lost and nothing is delivered twice. -/
lemma Invariant.delivered (h : Invariant d s done pending) : Delivered d s where
  logged := h.logged.keys
  once := h.logged.once
  order := by
    rw [h.committed, h.dispatched, h.bus, List.map_append, List.map_append]
    rfl
  handed := by
    have first : s.committed.take s.dispatched.length = done := by
      rw [h.committed, h.dispatched, List.length_map, List.append_assoc, List.take_left]
    rw [first]
    exact h.handed
  current := by
    rw [h.committed, h.dispatched, List.length_map, List.append_assoc, List.drop_left]
    exact List.prefix_append ..
  marked := h.marked
  running := by
    rcases h.stage with waiting | ⟨e, next, handing, -⟩
    · simp [waiting]
    · simp [handing]

end Steps

/-- **Nothing is lost and nothing is delivered twice**, however calls, reads and steps of the
listener follow one another, and whichever processors fail. -/
theorem delivered_run (d : Dispatcher Memory) (usable : d.policy.isUsable = true)
    (quiet : ∀ p ∈ d.processors, p.Quiet) (t : Notification.Transport) (o : Occasion)
    (ho : o.now.Sound) (moves : List Move)
    (clock : ∀ m ∈ moves, ∀ o ∈ m.occasion?, o.now.Sound) :
    Delivered d ((start t o).run d moves) := by
  obtain ⟨done, pending, h⟩ := (invariant_start d t ho).run usable quiet moves clock
  exact h.delivered

/-! ## A run -/

/-- A processor that fails on every event. -/
def sampleFailing : Processor Memory := .recorder "audit" fun w => (.error "out of order", w)

/-- A processor that fails, and the one that tells the members of groups. -/
def sampleDispatcher : Dispatcher Memory :=
  ⟨Dispatcher.usualPolicy, [sampleFailing, .notifier Memory.backend], true⟩

/-- The time passes by seconds. -/
def sampleTime (k : Nat) : Occasion := ⟨.utc (k * Timestamp.second), fun n => .ofNat (16 * k + n)⟩

/-- Somebody registers. When the first processor has been handed the event somebody else does, and
then the listener goes on until it has marked the event. -/
def sampleMoves : List Move :=
  [.call (sampleTime 1) (.register (some "Ada") (some "ada@mail.org") none), .listen, .listen,
    .call (sampleTime 2) (.register (some "Ben") (some "ben@mail.org") none), .listen, .listen]

lemma quiet_sampleFailing : sampleFailing.Quiet := fun _ _ => ⟨rfl, rfl, rfl, id, id⟩

/-- What is promised of every run holds of this one. -/
theorem delivered_sampleMoves :
    sampleDispatcher.policy.isUsable = true ∧ (∀ p ∈ sampleDispatcher.processors, p.Quiet) ∧
      (sampleTime 0).now.Sound ∧ (∀ m ∈ sampleMoves, ∀ o ∈ m.occasion?, o.now.Sound) ∧
      Delivered sampleDispatcher
        ((start (.memory []) (sampleTime 0)).run sampleDispatcher sampleMoves) := by
  have usable : sampleDispatcher.policy.isUsable = true := by decide
  have quiet : ∀ p ∈ sampleDispatcher.processors, p.Quiet := by
    simp [sampleDispatcher, quiet_sampleFailing, Processor.quiet_notifier]
  have begin : (sampleTime 0).now.Sound := by decide
  have clock : ∀ m ∈ sampleMoves, ∀ o ∈ m.occasion?, o.now.Sound := by decide
  exact ⟨usable, quiet, begin, clock,
    delivered_run sampleDispatcher usable quiet (.memory []) (sampleTime 0) begin sampleMoves clock⟩

/-- Of the two events of `sampleMoves` the first has been dispatched and the second waits. -/
example :
    let s := (start (.memory []) (sampleTime 0)).run sampleDispatcher sampleMoves
    s.dispatched = [.ofNat 17] ∧ s.world.bus.waiting = [.ofNat 33] := by
  decide +kernel

end Pipeline

end CommonPurse
