import CommonPurse.Proofs.Event.RoundTrip
import CommonPurse.Proofs.Relational.Session
import CommonPurse.Proofs.Store.Entries
import CommonPurse.Store.Inventory
import CommonPurse.Store.Relational

/-!
# Events saved in a transaction of the relational store

The events that a transaction saves are inserted at once into its copy of the log, whose primary key
no identifier passes twice. So either all calls and the commit succeed, and every event is in the
log, or a call is refused, and then the commit fails and the log is what it was.

## Main definitions

* `CommonPurse.Store.Backend.saveAll` — several calls that save events, with their answers.
* `CommonPurse.Store.Relational.Saving`, `CommonPurse.Store.Relational.Broken` — a transaction in
  which all calls have succeeded, and one in which a call has failed.
* `CommonPurse.Store.Relational.KeepsSaved` — what a transaction owes to the events saved in it.

## Main results

* `CommonPurse.Store.Relational.insertAll_eventRow` — what inserting events does.
* `CommonPurse.Store.Relational.Saving.saveAll` — what becomes of the calls of a transaction.
* `CommonPurse.Store.Relational.keepsSaved` — the store keeps every event that it accepts.
-/

namespace CommonPurse.Store

/-- Save several lists of events one after the other, whatever the answers are. -/
def Backend.saveAll {σ τ : Type} (b : Backend σ τ) :
    List (List Event) → Handle τ → σ → List (Except Error Unit) × Handle τ × σ
  | [], t, s => ([], t, s)
  | events :: rest, t, s =>
    match b.log events t s with
    | (r, t, s) =>
      match saveAll b rest t s with
      | (rs, t, s) => (r :: rs, t, s)

namespace Relational

/-! ## Inserting events -/

/-- The entry of an event in the log, as its columns keep it. -/
def entryOf (e : Event) : Id × EventRow := (e.id, ⟨storedTime e.occurredAt, none, e.document⟩)

/-- An event that is inserted is new to the log, and the log has it afterwards. -/
lemma insert?_eventRow {d d' : Database} {e : Event} (h : d.insert? (eventRow e) = some d') :
    ∃ log, d.events = some log ∧ log.get? e.id = none ∧
      d'.events = some (log.put e.id (entryOf e).2) := by
  have row : d.row? (eventRow e).key = d.events.map fun t => (t.get? e.id).map (.event e.id) := rfl
  unfold Database.insert? at h
  rw [row] at h
  cases table : d.events with
  | none =>
    rw [table] at h
    cases h
  | some log =>
    rw [table] at h
    cases found : log.get? e.id with
    | some r =>
      simp [found] at h
    | none =>
      refine ⟨log, rfl, found, ?_⟩
      have placed : d.place (.event e.id (entryOf e).2) = d' := by
        simpa [found, eventRow, Database.kept?, Database.addressFree, entryOf] using h
      rw [← placed, Database.place, table]
      rfl

/-- **What inserting events does**: there is a log that admits them all, and then it has them. -/
theorem insertAll_eventRow {events : List Event} {d d' : Database} {log : Table Id EventRow}
    (table : d.events = some log) (h : insertAll (events.map eventRow) d = some d') :
    log.Admits (events.map entryOf) ∧ d'.events = some (log.enter (events.map entryOf)) := by
  induction events generalizing d log with
  | nil =>
    cases h
    exact ⟨Table.admits_nil log, table⟩
  | cons e events ih =>
    rw [List.map_cons, insertAll, Option.bind_eq_some_iff] at h
    obtain ⟨d₁, inserted, rest⟩ := h
    obtain ⟨log', table', new, table₁⟩ := insert?_eventRow inserted
    obtain rfl : log = log' := Option.some.inj (table.symm.trans table')
    obtain ⟨admits, entered⟩ := ih table₁ rest
    have first : log.Admits [entryOf e] :=
      ⟨by simpa [entryOf] using new, List.nodup_singleton _⟩
    exact ⟨first.append admits, entered⟩

/-! ## Single calls -/

/-- A transaction in which the calls so far have saved some events: they are in its copy of the
log, and nothing has been committed. -/
structure Saving (r₀ : Relational) (saved : List Event) (s : Session) (r : Relational) : Prop where
  active : s.active = true
  sound : s.broken = false
  inserts : s.inserts = []
  updates : s.updates = []
  stored : r.database = r₀.database
  entered : (seen s r).events = r₀.database.events.map (·.enter (saved.map entryOf))
  admitted : ∀ log, r₀.database.events = some log → log.Admits (saved.map entryOf)
  missing : r₀.database.events = none → saved = []

/-- A transaction in which a call has failed: nothing can be written in it any more. -/
structure Broken (r₀ : Relational) (s : Session) (r : Relational) : Prop where
  active : s.active = true
  broken : s.broken = true
  stored : r.database = r₀.database

variable {r₀ r : Relational} {s : Session} {saved : List Event}

lemma saving_new (r : Relational) (n : ℕ) :
    Saving r [] (.new n) { r with opened := r.opened + 1 } where
  active := rfl
  sound := rfl
  inserts := rfl
  updates := rfl
  stored := rfl
  entered := by simp [seen, Session.new]
  admitted log _ := Table.admits_nil log
  missing _ := rfl

/-- A refusal of events. -/
def refusal (events : List Event) : Error :=
  ⟨.insertion, "Failed to save events", [("count", .integer events.length)]⟩

/-- What a call in an open transaction comes to. -/
lemma log_own (active : s.active = true) (events : List Event) :
    backend.log events (.own s) r =
      match flush { s with inserts := s.inserts ++ events.map eventRow } r with
      | (worked, s', r') => (outcome (refusal events) worked, .own s', r') := by
  simp only [backend, log, within, active, if_true]
  rfl

/-- What writing events does: with the first of them there must be a log, and the transaction gets
another copy of the tables, or it is broken. -/
lemma flush_events (sound : s.broken = false) (updates : s.updates = []) (e : Event)
    (es : List Event) :
    (∃ d, insertAll ((e :: es).map eventRow) (seen s r) = some d ∧
        flush { s with inserts := (e :: es).map eventRow } r =
          (true, { s with inserts := [], updates := [], working := some d },
            { r with writer := some s.number })) ∨
      flush { s with inserts := (e :: es).map eventRow } r =
        (false, { s with inserts := (e :: es).map eventRow : Session }.failed, release s r) := by
  have look : seen { s with inserts := (e :: es).map eventRow } r = seen s r := rfl
  have may : mayWrite { s with inserts := (e :: es).map eventRow } r = mayWrite s r := rfl
  have freed : release { s with inserts := (e :: es).map eventRow } r = release s r := rfl
  have flushed : flushed? { s with inserts := (e :: es).map eventRow } (seen s r) =
      insertAll ((e :: es).map eventRow) (seen s r) := by
    simp [flushed?, updates, updateAll]
  unfold flush
  rw [look, may, freed, flushed]
  simp only [List.map_cons, List.isEmpty_cons, Bool.false_and, Bool.false_eq_true, if_false, sound,
    isClean]
  cases mayWrite s r with
  | false => exact .inr rfl
  | true =>
    cases inserted : insertAll (eventRow e :: es.map eventRow) (seen s r) with
    | none => exact .inr rfl
    | some d => exact .inl ⟨d, rfl, rfl⟩

/-- **A call in a transaction in which all calls have succeeded** succeeds, and then the events are
saved, or it is refused, and then the transaction is broken. -/
lemma Saving.log (h : Saving r₀ saved s r) (events : List Event) :
    (∃ s' r', backend.log events (.own s) r = (.ok (), .own s', r') ∧
        Saving r₀ (saved ++ events) s' r') ∨
      ∃ s' r', backend.log events (.own s) r = (.error (refusal events), .own s', r') ∧
        Broken r₀ s' r' := by
  rw [log_own h.active, h.inserts, List.nil_append]
  rcases events with _ | ⟨e, es⟩
  · have same : { s with inserts := [] } = s := by rw [← h.inserts]
    refine .inl ⟨s, r, ?_, by rwa [List.append_nil]⟩
    rw [List.map_nil, same]
    simp [flush, h.inserts, h.updates, outcome]
  · rcases flush_events (r := r) h.sound h.updates e es with ⟨d, inserted, written⟩ | failed
    · refine .inl ⟨_, _, by rw [written]; rfl, ?_⟩
      have first : ∃ log, (seen s r).events = some log := by
        rw [List.map_cons, insertAll, Option.bind_eq_some_iff] at inserted
        obtain ⟨d₁, inserted, -⟩ := inserted
        obtain ⟨log, table, -, -⟩ := insert?_eventRow inserted
        exact ⟨log, table⟩
      obtain ⟨log, table⟩ := first
      obtain ⟨admits, entered⟩ := insertAll_eventRow table inserted
      have before := h.entered
      rw [table, eq_comm, Option.map_eq_some_iff] at before
      obtain ⟨log₀, table₀, rfl⟩ := before
      exact
        { active := h.active
          sound := h.sound
          inserts := rfl
          updates := rfl
          stored := h.stored
          entered := by
            rw [table₀, Option.map_some, List.map_append, Table.enter_append]
            exact entered
          admitted := by
            intro log' table'
            obtain rfl : log₀ = log' := Option.some.inj (table₀.symm.trans table')
            rw [List.map_append]
            exact (h.admitted log₀ table₀).append admits
          missing := fun missing => by
            rw [missing] at table₀
            cases table₀ }
    · refine .inr ⟨_, _, by rw [failed]; rfl, ?_⟩
      exact ⟨h.active, rfl, (database_release s r).trans h.stored⟩

/-- A call in a broken transaction leaves it broken, and is refused when it is about any event. -/
lemma Broken.log (h : Broken r₀ s r) (events : List Event) :
    ∃ a s' r', backend.log events (.own s) r = (a, .own s', r') ∧ Broken r₀ s' r' ∧
      (a = .ok () ∨ a = .error (refusal events)) := by
  rw [log_own h.active]
  unfold flush
  simp only [h.broken, if_true]
  split
  · exact ⟨_, _, _, rfl, ⟨h.active, rfl, h.stored⟩, .inl rfl⟩
  · exact ⟨_, _, _, rfl, ⟨h.active, rfl, h.stored⟩, .inr rfl⟩

/-! ## All calls -/

/-- Calls in a broken transaction leave it broken. -/
lemma Broken.saveAll (h : Broken r₀ s r) (batches : List (List Event)) :
    ∃ answers s' r', backend.saveAll batches (.own s) r = (answers, .own s', r') ∧
      (∀ a ∈ answers, a = .ok () ∨ ∃ events, a = .error (refusal events)) ∧ Broken r₀ s' r' := by
  induction batches generalizing s r with
  | nil => exact ⟨[], s, r, rfl, by simp, h⟩
  | cons events batches ih =>
    obtain ⟨a, s₁, r₁, call, h₁, answer⟩ := h.log events
    obtain ⟨answers, s₂, r₂, calls, others, h₂⟩ := ih h₁
    refine ⟨a :: answers, s₂, r₂, by simp only [Backend.saveAll, call, calls], ?_, h₂⟩
    exact List.forall_mem_cons.mpr ⟨answer.imp_right fun refused => ⟨events, refused⟩, others⟩

/-- **What calls that save events come to**: all of them succeed, or one of them is refused. -/
theorem Saving.saveAll (h : Saving r₀ saved s r) (batches : List (List Event)) :
    ∃ answers s' r', backend.saveAll batches (.own s) r = (answers, .own s', r') ∧
      (∀ a ∈ answers, a = .ok () ∨ ∃ events, a = .error (refusal events)) ∧
      ((∀ a ∈ answers, a = .ok ()) ∧ Saving r₀ (saved ++ batches.flatten) s' r' ∨
        (∃ events, .error (refusal events) ∈ answers) ∧ Broken r₀ s' r') := by
  induction batches generalizing s r saved with
  | nil => exact ⟨[], s, r, rfl, by simp, .inl ⟨by simp, by simpa using h⟩⟩
  | cons events batches ih =>
    rcases h.log events with ⟨s₁, r₁, call, h₁⟩ | ⟨s₁, r₁, call, h₁⟩
    · obtain ⟨answers, s₂, r₂, calls, kinds, outcome⟩ := ih h₁
      refine ⟨.ok () :: answers, s₂, r₂, by simp only [Backend.saveAll, call, calls],
        List.forall_mem_cons.mpr ⟨.inl rfl, kinds⟩, ?_⟩
      rw [List.flatten_cons, ← List.append_assoc]
      rcases outcome with ⟨succeed, h₂⟩ | ⟨⟨refused, mem⟩, h₂⟩
      · exact .inl ⟨List.forall_mem_cons.mpr ⟨rfl, succeed⟩, h₂⟩
      · exact .inr ⟨⟨refused, List.mem_cons_of_mem _ mem⟩, h₂⟩
    · obtain ⟨answers, s₂, r₂, calls, kinds, h₂⟩ := h₁.saveAll batches
      exact ⟨.error (refusal events) :: answers, s₂, r₂,
        by simp only [Backend.saveAll, call, calls],
        List.forall_mem_cons.mpr ⟨.inr ⟨events, rfl⟩, kinds⟩,
        .inr ⟨⟨events, List.mem_cons_self⟩, h₂⟩⟩

/-- The commit after calls that have all succeeded puts the events into the log. -/
lemma Saving.commit (h : Saving r₀ saved s r) :
    ∃ t r', backend.commit (.own s) r = (.ok (), t, r') ∧ r'.database = seen s r := by
  refine ⟨.own s.closed, release s { r with database := seen s r }, ?_, database_release ..⟩
  simp [backend, Relational.commit, within, h.active, h.sound, flush, h.inserts, h.updates]

/-- The commit after a call that has failed is refused and changes nothing that is stored. -/
lemma Broken.commit (h : Broken r₀ s r) :
    ∃ e t r', backend.commit (.own s) r = (.error e, t, r') ∧ r'.database = r₀.database := by
  refine ⟨⟨.transaction, "Failed to commit transaction", []⟩, .own s.closed, release s r, ?_,
    (database_release s r).trans h.stored⟩
  simp [backend, Relational.commit, within, h.active, h.broken]

/-- An event whose entry is in the log is found. -/
lemma event_of_entry {e : Event} (legible : e.Legible) {log : Table Id EventRow}
    (table : r.database.events = some log) (entry : log.get? e.id = some (entryOf e).2)
    (o : Occasion) : ((view r).event o e.id).1 = .ok (some e) := by
  have body : (view r).body e.id = .ok (some (.document e.document)) := by
    simp [view, reading, table, entry, entryOf]
  have read : (Body.document e.document).event (o.ids 0) o.now = .ok e := by
    simp [Body.event, Event.ofDocument_document .document (o.ids 0) o.now legible]
  simp [View.event, body, read, Except.map]

/-- What a new transaction of the relational store owes to the events that are saved in it. Either
all calls and the commit succeed, and then every event is found, and there is one more record for
each; or one of the calls is refused, and then the commit fails, and nothing that is stored
changes. -/
def KeepsSaved (r : Relational) (batches : List (List Event)) : Prop :=
  ∀ t r₁, backend.start r = (.ok t, r₁) →
    ∀ answers t' r₂, backend.saveAll batches (.own t) r₁ = (answers, t', r₂) →
      ∀ a t'' r₃, backend.commit t' r₂ = (a, t'', r₃) →
        (a = .ok () ∧ (∀ b ∈ answers, b = .ok ()) ∧
            (∀ e ∈ batches.flatten, ∀ o, ((view r₃).event o e.id).1 = .ok (some e)) ∧
            r₃.database.events.map (·.keys.length) =
              r.database.events.map (·.keys.length + batches.flatten.length)) ∨
          (a ≠ .ok () ∧ (∃ b ∈ answers, ∃ e : Error, b = .error e ∧ e.kind = .insertion) ∧
            r₃.database = r.database)

/-- **The relational store keeps every event that it accepts**, since no identifier gets past its
primary key twice. -/
theorem keepsSaved (r : Relational) {batches : List (List Event)}
    (legible : ∀ e ∈ batches.flatten, e.Legible) : KeepsSaved r batches := by
  intro t r₁ started answers t' r₂ called a t'' r₃ committed
  cases started
  obtain ⟨answers', s', r', calls, -, outcome⟩ := (saving_new r r.opened).saveAll batches
  cases calls.symm.trans called
  rcases outcome with ⟨succeed, h⟩ | ⟨⟨events, refused⟩, h⟩
  · obtain ⟨t₀, r₀, done, stored⟩ := h.commit
    cases done.symm.trans committed
    rw [List.nil_append] at h
    refine .inl ⟨rfl, succeed, ?_, ?_⟩
    · intro e mem
      cases table : r.database.events with
      | none => exact absurd mem (by simp [h.missing table])
      | some log =>
        have entered : r₃.database.events = some (log.enter (batches.flatten.map entryOf)) := by
          rw [stored, h.entered, table, Option.map_some]
        exact event_of_entry (legible e mem) entered
          (Table.get?_enter_of_mem (h.admitted log table).distinct (List.mem_map_of_mem mem))
    · rw [stored, h.entered]
      cases table : r.database.events with
      | none => rfl
      | some log =>
        have admits := h.admitted log table
        have length := (Table.length_keys_enter_iff admits.absent).mpr admits.distinct
        rw [List.length_map] at length
        simp only [Option.map_some, length]
  · obtain ⟨e, t₀, r₀, failed, stored⟩ := h.commit
    cases failed.symm.trans committed
    exact .inr ⟨by simp, ⟨_, refused, _, rfl, rfl⟩, stored⟩

end Relational

end CommonPurse.Store
