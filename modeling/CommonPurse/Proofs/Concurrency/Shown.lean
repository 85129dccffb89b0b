import CommonPurse.Proofs.Concurrency.Overlap
import CommonPurse.Proofs.Relational.Written

/-!
# What stores show while calls overlap

By the time a plan is carried out the store may show something else than what its command was
decided on. All that is left to say of a plan that waits is that some store once showed the like of
it, in order. That is enough for the contents of a store in memory to stay in order and for the
tables of a relational store to stay tidy, and for a step to change what a store shows by the writes
of one plan, if at all.

## Main definitions

* `CommonPurse.Plan.Grounded` — a plan that some store gave rise to.
* `CommonPurse.Overlap.Orderly`, `CommonPurse.Overlap.Tidy` — what steps keep of the two stores.
* `CommonPurse.Overlap.Shows` — how a step changes what a store shows.

## Main results

* `CommonPurse.Overlap.Orderly.step`, `CommonPurse.Overlap.Tidy.step` — steps keep it.
* `CommonPurse.Overlap.memory_shows`, `CommonPurse.Overlap.relational_shows` — steps change what is
  shown by the writes of a plan.
* `CommonPurse.Overlap.Recorded.step`, `CommonPurse.Overlap.RecordedInRows.step` — the log of a run
  is the log in the store.
-/

namespace CommonPurse

open CommonPurse.Store

/-- A plan that a command was given on what some store showed in order. -/
def Plan.Grounded (p : Plan) : Prop :=
  ∃ (v : View) (o : Occasion) (c : Command), v.Orderly ∧ Command.Planned v o c p

lemma Plan.Grounded.events_eq_singleton {p : Plan} (h : p.Grounded) : ∃ e, p.events = [e] := by
  obtain ⟨v, o, c, -, planned⟩ := h
  obtain ⟨e, he, -⟩ := planned.events_eq_singleton
  exact ⟨e, he⟩

namespace Overlap

variable {σ τ α : Type}

/-- How a step changes something that a store shows, given how single writes change it: not at all,
and then a call that commits is told that the store has failed; or by the writes of a plan, and then
the plan has its answer and its events are in the log. -/
inductive Shows (b : Backend σ τ) (shown : View → α) (effect : α → Write → α) (d : Overlap σ)
    (s : Step) : Prop
  | same (stays : shown (b.view (d.step b s).store) = shown (b.view d.store))
      (log : (d.step b s).log = d.log)
      (answer : ∀ p, d.attempted? s = some p →
        d.answer? b s = some (.error (.problem (.storage p.operation))))
  | done (p : Plan) (attempts : d.attempted? s = some p)
      (becomes : shown (b.view (d.step b s).store) = p.writes.foldl effect (shown (b.view d.store)))
      (log : (d.step b s).log = d.log ++ p.events) (answer : d.answer? b s = some (.ok p.product))

/-! ## The store in memory -/

/-- The contents of a store in memory are in order, and so was what all plans that wait come from. -/
structure Orderly (d : Overlap Memory) : Prop where
  contents : d.contents.Orderly
  waiting : ∀ p ∈ d.waiting, p.Grounded

lemma orderly_startOn (w : World Memory) (crashed : List Repository) :
    (startOn w (.empty crashed)).Orderly :=
  ⟨Memory.Contents.orderly_empty, fun _ h => nomatch h⟩

lemma Orderly.step {d : Overlap Memory} (h : d.Orderly) (s : Step) :
    (d.step Memory.backend s).Orderly where
  contents := by
    rcases d.memory_step s with ⟨store, -⟩ | ⟨p, devices, attempts, -, store, -⟩
    · rw [Overlap.contents, store]
      exact h.contents
    · obtain ⟨v, o, c, hv, planned⟩ := h.waiting p (mem_of_attempted? attempts)
      have written := h.contents.writeAll (planned.proper_of_view hv)
      rw [Overlap.contents, store]
      exact { written with }
  waiting :=
    forall_waiting_step h.waiting fun o c _ _ planned => ⟨_, o, c, h.contents.view, planned⟩

/-- **What a store in memory shows changes by the writes of a plan**, if a single write changes it as
it should and devices and the log have nothing to do with it. -/
theorem memory_shows {shown : View → α} {effect : α → Write → α}
    (write : ∀ (m : Memory) (w : Write), m.isCrashed w.repository = false →
      shown (Memory.view { m with contents := m.contents.write w }) = effect (shown m.view) w)
    (aside : ∀ (m : Memory) devices events,
      shown (Memory.view { m with contents :=
        { m.contents with devices := devices, events := events } }) = shown m.view)
    (d : Overlap Memory) (s : Step) : d.Shows Memory.backend shown effect s := by
  have all : ∀ (ws : List Write) (m : Memory), (∀ w ∈ ws, m.isCrashed w.repository = false) →
      shown (Memory.view { m with contents := m.contents.writeAll ws }) =
        ws.foldl effect (shown m.view) := by
    intro ws
    induction ws with
    | nil => exact fun m _ => rfl
    | cons w ws ih =>
      intro m up
      rw [List.foldl_cons, ← write m w (up w List.mem_cons_self)]
      exact ih { m with contents := m.contents.write w } fun x hx => up x (List.mem_cons_of_mem _ hx)
  rcases d.memory_step s with ⟨store, log, answer⟩ | ⟨p, devices, attempts, vetted, store, log, answer⟩
  · refine .same ?_ log answer
    rw [store]
  · obtain ⟨up, -, -⟩ := (Memory.vet_eq_ok_iff ..).mp vetted
    refine .done p attempts ?_ log answer
    rw [store]
    refine (aside ⟨d.contents.writeAll p.writes, d.store.crashed⟩ devices _).trans ?_
    exact all p.writes d.store up

/-- The log in a store in memory: the records of some events, in their order. -/
def Recorded (d : Overlap Memory) : Prop :=
  d.contents.events = ⟨d.log.map fun e => (e.id, Memory.recordOf e)⟩

/-- The log of a run is the log in the store. -/
lemma Recorded.step {d : Overlap Memory} (h : d.Recorded) (orderly : d.Orderly) (s : Step) :
    (d.step Memory.backend s).Recorded := by
  unfold Recorded
  rcases d.memory_step s with ⟨store, log, -⟩ | ⟨p, devices, attempts, vetted, store, log, -⟩
  · rw [Overlap.contents, store, log]
    exact h
  · obtain ⟨e, he⟩ := (orderly.waiting p (mem_of_attempted? attempts)).events_eq_singleton
    obtain ⟨-, -, new⟩ := (Memory.vet_eq_ok_iff ..).mp vetted
    have absent : d.contents.events.get? e.id = none :=
      ((Memory.checkNew_eq_ok_iff ..).mp new).1 e.id (by simp [he])
    have rows := Table.rows_put_of_absent (Memory.recordOf e) absent
    have before : d.contents.events.rows = d.log.map fun e => (e.id, Memory.recordOf e) := by
      rw [h]
    rw [Overlap.contents, store, log, he, List.map_append, ← before]
    exact congrArg Table.mk rows

/-! ## The relational store -/

end Overlap

namespace Store.Relational

/-- What is shown is a matter of the tables alone. -/
lemma view_eq_of_database {r r' : Relational} (h : r'.database = r.database) : view r' = view r := by
  simp only [view, h]

/-- Devices have nothing to do with what has been written. -/
lemma Written.devices {ws : List Write} {e : Event} {d d' : Database} (h : Written ws e d d')
    (t : Table Id String) : Written ws e d { d' with devices := some t } := by
  have rows : ∀ k, (∀ i, k ≠ .device i) → { d' with devices := some t }.row? k = d'.row? k := by
    intro k hk
    cases k with
    | device i => exact absurd rfl (hk i)
    | _ => rfl
  refine ⟨⟨⟨?_, fun k row hr => ?_⟩, h.tidy.members, h.tidy.expenses⟩, fun row hr => ?_,
    fun k hk event device => ?_, h.logged, h.free⟩
  · obtain ⟨u, c, v, g, m, e, s, l, rfl⟩ := h.tidy.whole.complete
    exact ⟨_, _, _, _, _, _, _, _, rfl⟩
  · cases k with
    | device i =>
      obtain ⟨x, -, rfl⟩ := Option.map_eq_some_iff.mp (Option.some.inj hr)
      rfl
    | _ => exact h.tidy.whole.keyed _ row hr
  · obtain ⟨kept, keeps, found⟩ := h.saved row hr
    refine ⟨kept, keeps, ?_⟩
    rw [rows _ ?_, found]
    intro i
    obtain ⟨w, -, hr⟩ := List.mem_flatMap.mp hr
    exact (key_ne_of_mem_rowsOf hr i).2
  · rw [rows k device]
    exact h.others k hk event device

/-- When a device is forgotten, nothing but the devices changes. -/
lemma forgetting_eq {r : Relational} (idle : r.writer = none) (h : r.database.Complete)
    (user : Option Id) :
    ∃ t, Overlap.forgetting backend r user =
      { r with database := { r.database with devices := some t } } := by
  obtain ⟨d, writer, opened⟩ := r
  obtain ⟨u, c, v, g, m, e, s, l, rfl⟩ := h
  obtain rfl : writer = none := idle
  cases user with
  | none => exact ⟨v, rfl⟩
  | some i => exact ⟨v.erase i, rfl⟩

end Store.Relational

namespace Overlap

open CommonPurse.Store.Relational (Written)

variable {σ τ α : Type}

/-- Nobody else writes to a relational store, its tables are tidy, and what all plans that wait come
from was in order. -/
structure Tidy (d : Overlap Relational) : Prop where
  idle : d.store.writer = none
  tables : d.store.database.Tidy
  waiting : ∀ p ∈ d.waiting, p.Grounded

lemma tidy_startOn (w : World Relational) : (startOn w .empty).Tidy :=
  ⟨rfl, Relational.Database.tidy_empty, fun _ h => nomatch h⟩

/-- What a step does to a relational store: nothing, and then a call that commits is told that the
store has failed, or a plan that waits is written, with its event. -/
lemma relational_step {d : Overlap Relational} (h : d.Tidy) (s : Step) :
    ((d.step Relational.backend s).store.database = d.store.database ∧
        (d.step Relational.backend s).store.writer = none ∧
        (d.step Relational.backend s).log = d.log ∧
        ∀ p, d.attempted? s = some p →
          d.answer? Relational.backend s = some (.error (.problem (.storage p.operation)))) ∨
      ∃ p e, d.attempted? s = some p ∧ p.events = [e] ∧
        Written p.writes e d.store.database (d.step Relational.backend s).store.database ∧
        (d.step Relational.backend s).store.writer = none ∧
        (d.step Relational.backend s).log = d.log ++ [e] ∧
        d.answer? Relational.backend s = some (.ok p.product) := by
  cases stepCases Relational.backend d s with
  | quiet attempts store log =>
    refine .inl ⟨by rw [store], by rw [store, h.idle], log, fun p hp => ?_⟩
    rw [attempts] at hp
    cases hp
  | failed p e left attempts outcome store log answer =>
    obtain ⟨v, o, c, hv, planned⟩ := h.waiting p (mem_of_attempted? attempts)
    rcases planned.carryOut_written hv h.idle h.tables with ⟨x, stuck⟩ | ⟨e, d', -, done, -⟩
    · rw [stuck] at outcome
      obtain rfl := (Prod.mk.inj outcome).2
      refine .inl ⟨by rw [store], by rw [store], log, fun q hq => ?_⟩
      rw [attempts] at hq
      rw [answer, Option.some.inj hq]
    · rw [done] at outcome
      cases outcome
  | done p left attempts outcome store log answer =>
    obtain ⟨v, o, c, hv, planned⟩ := h.waiting p (mem_of_attempted? attempts)
    rcases planned.carryOut_written hv h.idle h.tables with ⟨x, stuck⟩ | ⟨e, d', he, done, written⟩
    · rw [stuck] at outcome
      cases outcome
    · rw [done] at outcome
      obtain rfl := (Prod.mk.inj outcome).2
      obtain ⟨t, forgotten⟩ := Relational.forgetting_eq (r := ⟨d', none, d.store.opened + 1⟩) rfl
        written.tidy.whole.complete p.forget
      rw [forgotten] at store
      refine .inr ⟨p, e, attempts, he, ?_, by rw [store], by rw [log, he], answer⟩
      rw [store]
      exact written.devices t

lemma Tidy.step {d : Overlap Relational} (h : d.Tidy) (s : Step) :
    (d.step Relational.backend s).Tidy where
  idle := by
    rcases relational_step h s with ⟨-, idle, -⟩ | ⟨p, e, -, -, -, idle, -⟩ <;> exact idle
  tables := by
    rcases relational_step h s with ⟨same, -⟩ | ⟨p, e, -, -, written, -⟩
    · rw [same]
      exact h.tables
    · exact written.tidy
  waiting :=
    forall_waiting_step h.waiting fun o c _ _ planned => ⟨_, o, c, h.tables.orderly, planned⟩

/-- In every state of a run nobody else writes to the store, and its tables are tidy. -/
lemma tidy_of_mem_states (w : World Relational) (steps : List Step) :
    ∀ x ∈ (startOn w .empty).states Relational.backend steps, x.Tidy :=
  forall_states_of_step (fun _ s h => h.step s) (tidy_startOn w) steps

/-- **What a relational store shows changes by the writes of a plan**, if tables into which the plan
has been written show what they should. -/
theorem relational_shows {shown : View → α} {effect : α → Write → α} {d : Overlap Relational}
    (h : d.Tidy) (s : Step)
    (written : ∀ (p : Plan) (e : Event) (r' : Relational), p.Grounded → p.events = [e] →
      Written p.writes e d.store.database r'.database →
        shown (Relational.view r') = p.writes.foldl effect (shown (Relational.view d.store))) :
    d.Shows Relational.backend shown effect s := by
  rcases relational_step h s with
    ⟨same, -, log, answer⟩ | ⟨p, e, attempts, he, after, -, log, answer⟩
  · refine .same ?_ log answer
    show shown (Relational.view _) = shown (Relational.view _)
    rw [Relational.view_eq_of_database same]
  · have grounded := h.waiting p (mem_of_attempted? attempts)
    exact .done p attempts (written p e _ grounded he after) (by rw [log, he]) answer

/-- The log in a relational store: the rows of some events, in their order. -/
def RecordedInRows (d : Overlap Relational) : Prop :=
  d.store.database.events = some ⟨d.log.map fun e =>
    (e.id, ⟨Relational.storedTime e.occurredAt, none, e.document⟩)⟩

/-- The log of a run is the log in the store. -/
lemma RecordedInRows.step {d : Overlap Relational} (h : d.RecordedInRows) (tidy : d.Tidy)
    (s : Step) : (d.step Relational.backend s).RecordedInRows := by
  unfold RecordedInRows
  rcases relational_step tidy s with ⟨same, -, log, -⟩ | ⟨p, e, -, -, written, -, log, -⟩
  · rw [same, log]
    exact h
  · obtain ⟨t, before, new, after⟩ := written.logged
    obtain rfl := Option.some.inj (before.symm.trans h)
    rw [after, log, List.map_append]
    congr 1
    exact congrArg Table.mk (Table.rows_put_of_absent _ new)

end Overlap

end CommonPurse
