import CommonPurse.Proofs.Store.UnitOfWork

/-!
# Transactions that share a store

Any number of transactions of one store in memory are open at the same time, and what is done with
them comes in any order, together with the changes that need no transaction. Every step is one
operation of the store, and it has one of a few courses.

## Main definitions

* `CommonPurse.Store.Memory.Shared` — a store and the transactions on it.
* `CommonPurse.Store.Memory.Shared.act` — a single operation, with its answer.
* `CommonPurse.Store.Memory.Shared.run` — operations one after the other.
* `CommonPurse.Store.Memory.Shared.Course` — what an operation can come to.
* `CommonPurse.Store.Memory.Shared.Guarded` — checked for what is logged.

## Main results

* `CommonPurse.Store.Memory.Shared.course` — every operation takes one of these courses.
* `CommonPurse.Store.Memory.Shared.allGuarded_run` — the checks of a transaction are about the
  events that it logs.
-/

namespace CommonPurse.Store.Memory

/-- A store in memory, and the transactions that have been started on it or have come to it from
another store. A transaction is known by its place. -/
structure Shared where
  store : Memory
  handles : List (Handle Transaction)

namespace Shared

/-! ## Operations -/

/-- One operation on a shared store. -/
inductive Step where
  /-- A transaction is started. -/
  | start
  /-- A transaction of another store turns up. -/
  | meet (active : Bool)
  | write (k : Nat) (w : Write)
  | log (k : Nat) (events : List Event)
  | commit (k : Nat)
  | rollback (k : Nat)
  | saveDevice (user : Id) (device : String)
  | removeDevice (user : Id)
  | markProcessed (event : Id) (now : Timestamp)
  /-- A collection is switched off or on. -/
  | switch (r : Repository) (off : Bool)

/-- Use the transaction at a place. Beyond the last one there is nothing to use. -/
def use (s : Shared) (k : Nat)
    (f : Handle Transaction → Memory → Except Error Unit × Handle Transaction × Memory) :
    Except Error Unit × Shared :=
  match s.handles[k]? with
  | none => (.error .inactive, s)
  | some t =>
    match f t s.store with
    | (r, t, m) => (r, ⟨m, s.handles.set k t⟩)

/-- Change the store without a transaction. -/
def directly (s : Shared) (f : Memory → Except Error Unit × Memory) : Except Error Unit × Shared :=
  match f s.store with
  | (r, m) => (r, ⟨m, s.handles⟩)

/-- Carry out an operation; the answer says whether it was refused. -/
def act (s : Shared) : Step → Except Error Unit × Shared
  | .start =>
    match backend.start s.store with
    | (.ok t, m) => (.ok (), ⟨m, s.handles ++ [.own t]⟩)
    | (.error e, m) => (.error e, ⟨m, s.handles⟩)
  | .meet active => (.ok (), ⟨s.store, s.handles ++ [.foreign active]⟩)
  | .write k w => s.use k (backend.write w)
  | .log k events => s.use k (backend.log events)
  | .commit k => s.use k backend.commit
  | .rollback k => s.use k backend.rollback
  | .saveDevice user device => s.directly (backend.saveDevice user device)
  | .removeDevice user => s.directly (backend.removeDevice user)
  | .markProcessed event now => s.directly (backend.markProcessed event now)
  | .switch r off => (.ok (), ⟨s.store.setCrashed r off, s.handles⟩)

/-- Carry out operations one after the other. -/
def run (s : Shared) (steps : List Step) : Shared := steps.foldl (fun s x => (s.act x).2) s

/-- Nothing is stored yet, and there is no transaction. -/
def begin (crashed : List Repository) : Shared := ⟨.empty crashed, []⟩

@[simp] lemma run_nil (s : Shared) : s.run [] = s := rfl

@[simp] lemma run_cons (s : Shared) (x : Step) (xs : List Step) :
    s.run (x :: xs) = (s.act x).2.run xs := rfl

lemma run_append (s : Shared) (xs ys : List Step) : s.run (xs ++ ys) = (s.run xs).run ys :=
  List.foldl_append

/-! ## What operations are about -/

/-- The changes of an operation that stages some, and the transaction that they are staged in. -/
def Step.staging? : Step → Option (Nat × List Change)
  | .write k w => some (k, [.write w])
  | .log k events => some (k, events.map fun e => .log e.id (recordOf e))
  | _ => none

/-- The event whose record a change puts into the log. -/
def eventOf? : Change → Option Id
  | .log i _ => some i
  | .write _ => none

/-- The record of an event that has been processed: the first time is kept. -/
def processed (r : EventRecord) (now : Timestamp) : EventRecord :=
  { r with processedAt := some (r.processedAt.getD now) }

/-- What an operation that needs no transaction makes of contents. -/
def Step.direct? : Step → Option (Contents → Contents)
  | .saveDevice user device => some fun c => { c with devices := c.devices.put user device }
  | .removeDevice user => some fun c => { c with devices := c.devices.erase user }
  | .markProcessed event now => some fun c =>
    match c.events.get? event with
    | some r => { c with events := c.events.put event (processed r now) }
    | none => c
  | _ => none

/-! ## Single operations -/

/-- A write is refused, or it is staged in an open transaction of this store. -/
lemma write_cases (w : Write) (t : Handle Transaction) (m : Memory) :
    (∃ e, backend.write w t m = (.error e, t, m)) ∨
      ∃ u, t = .own u ∧ u.active = true ∧
        backend.write w t m = (.ok (), .own (u.stage (.write w)), m) := by
  cases hc : m.isCrashed w.repository with
  | true => exact .inl ⟨.crashed, by simp [backend, stage, hc]⟩
  | false =>
    cases t with
    | foreign a => exact .inl ⟨foreignError, by simp [backend, stage, hc]⟩
    | own u =>
      cases hu : u.active with
      | false => exact .inl ⟨.inactive, by simp [backend, stage, hc, hu]⟩
      | true => exact .inr ⟨u, rfl, hu, by simp [backend, stage, hc, hu]⟩

/-- Events are refused without a trace, or their identifiers are new and their records are staged
in an open transaction of this store, together with a check. Of a transaction that is not open, or
not of this store, nothing is noticed as long as there are no events. -/
lemma log_cases (events : List Event) (t : Handle Transaction) (m : Memory) :
    (∃ e, backend.log events t m = (.error e, t, m)) ∨
      (∃ u, t = .own u ∧ (u.active = true ∨ events = []) ∧ (events.map (·.id)).Nodup ∧
        backend.log events t m = (.ok (), .own { u with
          changes := u.changes ++ events.map fun e => .log e.id (recordOf e)
          checks := u.checks ++ [events.map (·.id)] }, m)) ∨
      events = [] ∧ backend.log events t m = (.ok (), t, m) := by
  have hb : backend.log events t m = ((m.log events t).1, (m.log events t).2, m) := rfl
  rw [hb]
  cases hc : m.isCrashed .events with
  | true => exact .inl ⟨.crashed, by simp [log, hc]⟩
  | false =>
    cases hn : checkNew m.contents (events.map (·.id)) with
    | error e => exact .inl ⟨e, by simp [log, hc, hn]⟩
    | ok v =>
      have hd : (events.map (·.id)).Nodup := ((checkNew_eq_ok_iff ..).mp hn).2
      have staged : ∀ t t', m.stageEvents events t = (.ok (), t') →
          m.log events t = (.ok (), requireNew (events.map (·.id)) t') := by
        intro t t' ht
        simp [log, hc, hn, ht]
      have refused : ∀ t t' f, m.stageEvents events t = (.error f, t') →
          m.log events t = (.error f, t') := by
        intro t t' f ht
        simp [log, hc, hn, ht]
      cases t with
      | foreign a =>
        cases events with
        | nil =>
          refine .inr (.inr ⟨rfl, ?_⟩)
          rw [staged (.foreign a) (.foreign a) rfl]
          rfl
        | cons x xs =>
          have hf : m.stageEvents (x :: xs) (.foreign a) = (.error foreignError, .foreign a) := by
            simp [stageEvents, stage, hc]
          exact .inl ⟨foreignError, by rw [refused _ _ _ hf]⟩
      | own u =>
        cases hu : u.active with
        | true =>
          refine .inr (.inl ⟨u, rfl, .inl hu, hd, ?_⟩)
          rw [staged _ _ (stageEvents_own m events hu hc)]
          rfl
        | false =>
          cases events with
          | nil =>
            refine .inr (.inl ⟨u, rfl, .inr rfl, hd, ?_⟩)
            rw [staged (.own u) (.own u) rfl]
            simp [requireNew, Transaction.require]
          | cons x xs =>
            have hf : m.stageEvents (x :: xs) (.own u) = (.error .inactive, .own u) := by
              simp [stageEvents, stage, hc, hu]
            exact .inl ⟨.inactive, by rw [refused _ _ _ hf]⟩

/-- A commit is refused without a trace, or the checks of an open transaction are passed, its
changes are applied, and it is closed. -/
lemma commit_cases (t : Handle Transaction) (m : Memory) :
    (∃ e, backend.commit t m = (.error e, t, m)) ∨
      ∃ u, t = .own u ∧ u.active = true ∧ runChecks m.contents u.checks = .ok () ∧
        backend.commit t m =
          (.ok (), .own .closed, { m with contents := m.contents.applyAll u.changes }) := by
  cases t with
  | foreign a => exact .inl ⟨foreignError, rfl⟩
  | own u =>
    cases hu : u.active with
    | false => exact .inl ⟨.inactive, by simp [backend, commit, hu]⟩
    | true =>
      cases hr : runChecks m.contents u.checks with
      | error e => exact .inl ⟨e, by simp [backend, commit, hu, hr]⟩
      | ok v => exact .inr ⟨u, rfl, hu, hr, by simp [backend, commit, hu, hr]⟩

/-- A rollback changes nothing that is stored, and afterwards the transaction is closed. -/
lemma rollback_cases (t : Handle Transaction) (m : Memory) :
    ∃ t', (∀ u, t' = .own u → u = .closed) ∧ backend.rollback t m = (.ok (), t', m) := by
  cases t with
  | foreign a => exact ⟨.foreign false, fun u hu => (nomatch hu), rfl⟩
  | own u => exact ⟨.own .closed, fun v hv => (Handle.own.inj hv).symm, rfl⟩

/-- A change without a transaction is refused, or it is carried out on the contents. -/
lemma direct_cases {x : Step} {f : Contents → Contents} (h : x.direct? = some f) (s : Shared) :
    (∃ e, s.act x = (.error e, s)) ∨
      s.act x = (.ok (), ⟨{ s.store with contents := f s.store.contents }, s.handles⟩) := by
  cases x with
  | saveDevice user device =>
    cases h
    cases hc : s.store.isCrashed .devices with
    | true => exact .inl ⟨.crashed, by simp [act, directly, backend, Memory.saveDevice, hc]⟩
    | false => exact .inr (by simp [act, directly, backend, Memory.saveDevice, hc])
  | removeDevice user =>
    cases h
    cases hc : s.store.isCrashed .devices with
    | true => exact .inl ⟨.crashed, by simp [act, directly, backend, Memory.removeDevice, hc]⟩
    | false => exact .inr (by simp [act, directly, backend, Memory.removeDevice, hc])
  | markProcessed event now =>
    cases h
    cases hc : s.store.isCrashed .events with
    | true => exact .inl ⟨.crashed, by simp [act, directly, backend, Memory.markProcessed, hc]⟩
    | false =>
      cases hr : s.store.contents.events.get? event with
      | none =>
        exact .inl ⟨.eventNotFound event, by
          simp [act, directly, backend, Memory.markProcessed, hc, hr]⟩
      | some r =>
        exact .inr (by
          simp [act, directly, backend, Memory.markProcessed, hc, hr, processed])
  | _ => cases h

/-! ## Courses -/

/-- What an operation can come to: it is refused and changes nothing; it brings a transaction; it
changes what is staged in one; it commits one; it closes one; it changes the contents directly; or
it sets a switch. -/
inductive Course (s : Shared) (x : Step) : Prop
  | refused (e : Error) (act : s.act x = (.error e, s))
  | opened (t : Handle Transaction) (quiet : x.staging? = none ∧ x.direct? = none)
      (commits : ∀ k, x ≠ .commit k) (new : ∀ u, t = .own u → u = .new)
      (act : s.act x = (.ok (), ⟨s.store, s.handles ++ [t]⟩))
  | staged (k : Nat) (u : Transaction) (changes : List Change) (checks : List (List Id))
      (stages : x.staging? = some (k, changes)) (at_ : s.handles[k]? = some (.own u))
      (live : u.active = true ∨ changes = [])
      (guarded : checks.flatten = changes.filterMap eventOf?)
      (distinct : ∀ ids ∈ checks, ids.Nodup)
      (act : s.act x = (.ok (), ⟨s.store, s.handles.set k (.own { u with
        changes := u.changes ++ changes, checks := u.checks ++ checks })⟩))
  | passed (k : Nat) (stages : x.staging? = some (k, [])) (act : s.act x = (.ok (), s))
  | committed (k : Nat) (u : Transaction) (commits : x = .commit k)
      (at_ : s.handles[k]? = some (.own u)) (live : u.active = true)
      (checked : runChecks s.store.contents u.checks = .ok ())
      (act : s.act x = (.ok (),
        ⟨{ s.store with contents := s.store.contents.applyAll u.changes },
          s.handles.set k (.own .closed)⟩))
  | dropped (k : Nat) (t : Handle Transaction) (drops : x = .rollback k)
      (closed : ∀ u, t = .own u → u = .closed)
      (act : s.act x = (.ok (), ⟨s.store, s.handles.set k t⟩))
  | direct (f : Contents → Contents) (changes : x.direct? = some f)
      (act : s.act x =
        (.ok (), ⟨{ s.store with contents := f s.store.contents }, s.handles⟩))
  | switched (r : Repository) (off : Bool) (switches : x = .switch r off)
      (act : s.act x = (.ok (), ⟨s.store.setCrashed r off, s.handles⟩))

lemma filterMap_eventOf?_log (events : List Event) :
    (events.map fun e => Change.log e.id (recordOf e)).filterMap eventOf? =
      events.map (·.id) := by
  rw [List.filterMap_map, ← List.filterMap_eq_map]
  rfl

lemma set_self {s : Shared} {k : Nat} {t : Handle Transaction} (h : s.handles[k]? = some t) :
    (⟨s.store, s.handles.set k t⟩ : Shared) = s := by
  obtain ⟨hk, rfl⟩ := List.getElem?_eq_some_iff.mp h
  rw [List.set_getElem_self]

/-- An operation that is refused by the transaction at its place is refused. -/
lemma use_refused {s : Shared} {k : Nat} {t : Handle Transaction} {e : Error}
    {f : Handle Transaction → Memory → Except Error Unit × Handle Transaction × Memory}
    (h : s.handles[k]? = some t) (hf : f t s.store = (.error e, t, s.store)) :
    s.use k f = (.error e, s) := by
  simp only [use, h, hf, set_self h]

/-- **Every operation takes one of the courses.** -/
theorem course (s : Shared) (x : Step) : Course s x := by
  cases x with
  | start =>
    exact .opened (.own .new) ⟨rfl, rfl⟩ (by simp) (fun u hu => (Handle.own.inj hu).symm) rfl
  | meet a => exact .opened (.foreign a) ⟨rfl, rfl⟩ (by simp) (fun u hu => by cases hu) rfl
  | write k w =>
    cases h : s.handles[k]? with
    | none => exact .refused .inactive (by simp [act, use, h])
    | some t =>
      rcases write_cases w t s.store with ⟨e, he⟩ | ⟨u, rfl, hu, hw⟩
      · exact .refused e (use_refused h he)
      · refine .staged k u [.write w] [] rfl h (.inl hu) rfl (by simp) ?_
        simp [act, use, h, hw, Transaction.stage]
  | log k events =>
    cases h : s.handles[k]? with
    | none => exact .refused .inactive (by simp [act, use, h])
    | some t =>
      rcases log_cases events t s.store with ⟨e, he⟩ | ⟨u, rfl, hu, hd, hl⟩ | ⟨rfl, hl⟩
      · exact .refused e (use_refused h he)
      · refine .staged k u _ [events.map (·.id)] rfl h (by simpa using hu) ?_ (by simpa using hd) ?_
        · rw [filterMap_eventOf?_log, List.flatten_singleton]
        · simp only [act, use, h, hl]
      · refine .passed k rfl ?_
        simp only [act, use, h, hl, set_self h]
  | commit k =>
    cases h : s.handles[k]? with
    | none => exact .refused .inactive (by simp [act, use, h])
    | some t =>
      rcases commit_cases t s.store with ⟨e, he⟩ | ⟨u, rfl, hu, hr, hc⟩
      · exact .refused e (use_refused h he)
      · exact .committed k u rfl h hu hr (by simp only [act, use, h, hc])
  | rollback k =>
    cases h : s.handles[k]? with
    | none => exact .refused .inactive (by simp [act, use, h])
    | some t =>
      obtain ⟨t', ht', hr⟩ := rollback_cases t s.store
      exact .dropped k t' rfl ht' (by simp only [act, use, h, hr])
  | saveDevice user device =>
    rcases direct_cases (x := .saveDevice user device) rfl s with ⟨e, he⟩ | h
    · exact .refused e he
    · exact .direct _ rfl h
  | removeDevice user =>
    rcases direct_cases (x := .removeDevice user) rfl s with ⟨e, he⟩ | h
    · exact .refused e he
    · exact .direct _ rfl h
  | markProcessed event now =>
    rcases direct_cases (x := .markProcessed event now) rfl s with ⟨e, he⟩ | h
    · exact .refused e he
    · exact .direct _ rfl h
  | switch r off => exact .switched r off rfl rfl

/-! ## Guarded transactions -/

/-- A transaction is checked for exactly the events that it logs, and when it is closed it has no
changes. -/
structure Guarded (u : Transaction) : Prop where
  checked : u.checks.flatten = u.changes.filterMap eventOf?
  distinct : ∀ ids ∈ u.checks, ids.Nodup
  emptied : u.active = false → u.changes = []

lemma guarded_new : Guarded .new := ⟨rfl, by simp [Transaction.new], fun _ => rfl⟩

lemma guarded_closed : Guarded .closed := ⟨rfl, by simp [Transaction.closed], fun _ => rfl⟩

/-- All transactions of a shared store are guarded. -/
def AllGuarded (s : Shared) : Prop :=
  ∀ (k : Nat) (u : Transaction), s.handles[k]? = some (.own u) → Guarded u

lemma allGuarded_begin (crashed : List Repository) : (begin crashed).AllGuarded := by
  intro k u hk
  simp [begin] at hk

/-- A transaction that takes the place of another one is found there; the others are found where
they were. -/
lemma getElem?_set_cases {l : List (Handle Transaction)} {j k : Nat} {t t' : Handle Transaction}
    (h : (l.set j t)[k]? = some t') : t' = t ∨ l[k]? = some t' := by
  rw [List.getElem?_set] at h
  split_ifs at h with hjk hlt
  · exact .inl (Option.some.inj h).symm
  · exact .inr h

/-- A transaction that is added at the end is found there; the others are found where they
were. -/
lemma getElem?_append_cases {l : List (Handle Transaction)} {k : Nat} {t t' : Handle Transaction}
    (h : (l ++ [t])[k]? = some t') : l.length ≤ k ∧ t' = t ∨ l[k]? = some t' := by
  rcases Nat.lt_or_ge k l.length with hlt | hge
  · rw [List.getElem?_append_left hlt] at h
    exact .inr h
  · rw [List.getElem?_append_right hge, List.getElem?_singleton] at h
    split at h
    · exact .inl ⟨hge, (Option.some.inj h).symm⟩
    · cases h

/-- Operations keep all transactions guarded. -/
lemma AllGuarded.act {s : Shared} (h : s.AllGuarded) (x : Step) : (s.act x).2.AllGuarded := by
  cases course s x with
  | refused e act => rwa [act]
  | opened t quiet commits new act =>
    rw [act]
    intro k u hk
    rcases getElem?_append_cases hk with ⟨-, hu⟩ | hk
    · exact new u hu.symm ▸ guarded_new
    · exact h k u hk
  | staged k u changes checks stages at_ live guarded distinct act =>
    rw [act]
    intro j v hj
    rcases getElem?_set_cases hj with hv | hj
    · obtain rfl := Handle.own.inj hv
      have hu := h k u at_
      refine ⟨?_, ?_, fun hoff => ?_⟩
      · rw [List.flatten_append, List.filterMap_append, hu.checked, guarded]
      · intro ids hids
        exact (List.mem_append.mp hids).elim (hu.distinct ids) (distinct ids)
      · rw [hu.emptied hoff, live.resolve_left (by simpa using hoff), List.append_nil]
    · exact h j v hj
  | passed k stages act => rwa [act]
  | committed k u commits at_ live checked act =>
    rw [act]
    intro j v hj
    rcases getElem?_set_cases hj with hv | hj
    · exact Handle.own.inj hv ▸ guarded_closed
    · exact h j v hj
  | dropped k t drops closed act =>
    rw [act]
    intro j v hj
    rcases getElem?_set_cases hj with hv | hj
    · exact closed v hv.symm ▸ guarded_closed
    · exact h j v hj
  | direct f changes act =>
    rw [act]
    exact h
  | switched r off switches act =>
    rw [act]
    exact h

/-- In every run all transactions are guarded. -/
theorem allGuarded_run (crashed : List Repository) (xs : List Step) :
    ((begin crashed).run xs).AllGuarded := by
  suffices ∀ s : Shared, s.AllGuarded → (s.run xs).AllGuarded from
    this _ (allGuarded_begin crashed)
  induction xs with
  | nil => exact fun s h => h
  | cons x xs ih => exact fun s h => ih _ (h.act x)

/-- The first check that fails is one of the checks. -/
lemma runChecks_cases (c : Contents) (checks : List (List Id)) :
    runChecks c checks = .ok () ∧ (∀ ids ∈ checks, checkNew c ids = .ok ()) ∨
      ∃ ids ∈ checks, ∃ old, runChecks c checks = .error (.alreadyLogged old) ∧
        checkNew c ids = .error (.alreadyLogged old) := by
  induction checks with
  | nil => exact .inl ⟨rfl, by simp⟩
  | cons ids rest ih =>
    cases hn : checkNew c ids with
    | ok v =>
      simp only [runChecks, hn]
      rcases ih with ⟨hr, hall⟩ | ⟨ids', hmem, old, hr, he⟩
      · exact .inl ⟨hr, List.forall_mem_cons.mpr ⟨hn, hall⟩⟩
      · exact .inr ⟨ids', List.mem_cons_of_mem _ hmem, old, hr, he⟩
    | error e =>
      obtain ⟨old, rfl⟩ : ∃ old, e = .alreadyLogged old := by
        unfold checkNew at hn
        dsimp only at hn
        split_ifs at hn
        · exact ⟨_, (Except.error.inj hn).symm⟩
        · exact ⟨_, (Except.error.inj hn).symm⟩
      exact .inr ⟨ids, List.mem_cons_self, old, by simp only [runChecks, hn], hn⟩

/-- The checks of a guarded transaction are passed exactly when no event that it logs is in the
log, and otherwise they say that one is. -/
lemma Guarded.runChecks_cases {u : Transaction} (hu : Guarded u) (c : Contents) :
    runChecks c u.checks = .ok () ∧
        (∀ i ∈ u.changes.filterMap eventOf?, c.events.get? i = none) ∨
      (∃ old, runChecks c u.checks = .error (.alreadyLogged old)) ∧
        ∃ i ∈ u.changes.filterMap eventOf?, c.events.get? i ≠ none := by
  rw [← hu.checked]
  rcases Shared.runChecks_cases c u.checks with ⟨hr, hall⟩ | ⟨ids, hmem, old, hr, he⟩
  · refine .inl ⟨hr, fun i hi => ?_⟩
    obtain ⟨ids, hids, hi⟩ := List.mem_flatten.mp hi
    exact ((checkNew_eq_ok_iff ..).mp (hall ids hids)).1 i hi
  · refine .inr ⟨⟨old, hr⟩, ?_⟩
    by_contra hnone
    push Not at hnone
    have hok : checkNew c ids = .ok () := (checkNew_eq_ok_iff ..).mpr
      ⟨fun i hi => hnone i (List.mem_flatten_of_mem hmem hi), hu.distinct ids hmem⟩
    rw [hok] at he
    cases he

end Shared

end CommonPurse.Store.Memory
