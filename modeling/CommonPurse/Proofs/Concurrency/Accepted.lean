import CommonPurse.Proofs.Concurrency.EventLog
import CommonPurse.Proofs.Relational.Saves

/-!
# Events that a transaction has accepted

Whoever saves events in a transaction and is not refused expects them to be in the log when the
transaction has been committed. The relational store keeps to that. The store in memory looks for
an identifier in the log and among the events of one call, but not among those of earlier calls:
two events with one identifier are accepted in two calls, and the second one takes the place of the
first. Apart from that all that has been accepted is kept, whatever else happens on the store.

## Main definitions

* `CommonPurse.Store.Memory.Shared.accepted` — the events that a transaction has accepted.
* `CommonPurse.Store.Memory.Shared.KeepsAccepted` — what a store owes to them.
* `CommonPurse.Store.Memory.Shared.Holding` — an open transaction that has accepted some events.

## Main results

* `CommonPurse.Store.Memory.Shared.holding_run` — what an open transaction holds after any run.
* `CommonPurse.Store.Memory.Shared.keepsAccepted_iff_of_new` — when the store keeps what it has
  accepted.
* `CommonPurse.Store.keepsEvents_iff` — both stores.
-/

namespace CommonPurse.Store.Memory.Shared

/-! ## What is owed -/

/-- The events that an operation hands to a transaction, if it is not refused. -/
def acceptedBy (k : ℕ) (s : Shared) : Step → List Event
  | .log j events => if j = k ∧ (s.act (.log j events)).1.isOk then events else []
  | _ => []

/-- The events that the transaction at a place accepts in a run. -/
def accepted (k : ℕ) : Shared → List Step → List Event
  | _, [] => []
  | s, x :: xs => s.acceptedBy k x ++ accepted k (s.act x).2 xs

/-- What a store owes to the events that are saved in the transaction at a place: no call is refused
but with the error of an insertion, and neither is the commit; and after a commit every accepted
event is found, and there is one more record for each. -/
structure KeepsAccepted (s : Shared) (k : ℕ) (xs : List Step) : Prop where
  calls : ∀ ys zs events, xs = ys ++ .log k events :: zs →
    ((s.run ys).act (.log k events)).1 = .ok () ∨ (s.run ys).Refuses (.log k events) .insertion
  commit : ((s.run xs).act (.commit k)).1 = .ok () ∨ (s.run xs).Refuses (.commit k) .insertion
  found : ((s.run xs).act (.commit k)).1 = .ok () → ∀ e ∈ accepted k s xs, ∀ o,
    (((s.run xs).act (.commit k)).2.store.view.event o e.id).1 = .ok (some e)
  gained : ((s.run xs).act (.commit k)).1 = .ok () →
    ((s.run xs).act (.commit k)).2.store.contents.events.keys.length =
      (s.run xs).store.contents.events.keys.length + (accepted k s xs).length

/-! ## What a transaction holds -/

/-- The entry that a change makes in the log. -/
def entry? : Change → Option (Id × EventRecord)
  | .log i r => some (i, r)
  | .write _ => none

/-- The entry of an event in the log. -/
def entryOf (e : Event) : Id × EventRecord := (e.id, recordOf e)

/-- The transaction at a place is open and guarded, and its changes log the events that it has
accepted. -/
def Holding (s : Shared) (k : ℕ) (events : List Event) : Prop :=
  ∃ u, s.handles[k]? = some (.own u) ∧ u.active = true ∧ Guarded u ∧
    u.changes.filterMap entry? = events.map entryOf

lemma keys_entryOf (events : List Event) :
    (events.map entryOf).map (·.1) = events.map (·.id) := by
  rw [List.map_map]
  rfl

variable {s : Shared} {k : ℕ} {events : List Event}

lemma filterMap_eventOf? (changes : List Change) :
    changes.filterMap eventOf? = (changes.filterMap entry?).map (·.1) := by
  rw [List.map_filterMap]
  congr 1
  funext c
  cases c <;> rfl

/-- What changes make of the log. -/
lemma events_applyAll (c : Contents) (changes : List Change) :
    (c.applyAll changes).events = c.events.enter (changes.filterMap entry?) := by
  induction changes generalizing c with
  | nil => rfl
  | cons x changes ih =>
    change ((c.apply x).applyAll changes).events = _
    rw [ih]
    cases x with
    | write w =>
      have same : (c.apply (.write w)).events = c.events := Contents.events_write c w
      rw [same]
      rfl
    | log i r => rfl

/-- Operations that save no events hand none to a transaction. -/
lemma acceptedBy_of_ne {x : Step} (h : ∀ events, x ≠ .log k events) : s.acceptedBy k x = [] := by
  cases x with
  | log j events =>
    refine if_neg ?_
    rintro ⟨rfl, -⟩
    exact h events rfl
  | _ => rfl

/-- Nor do those that are refused. -/
lemma acceptedBy_of_error {x : Step} {e : Error} (h : (s.act x).1 = .error e) :
    s.acceptedBy k x = [] := by
  cases x with
  | log j events => exact if_neg (by simp [h, Except.isOk, Except.toBool])
  | _ => rfl

lemma acceptedBy_log (h : (s.act (.log k events)).1 = .ok ()) :
    s.acceptedBy k (.log k events) = events :=
  if_pos ⟨rfl, by simp [h, Except.isOk, Except.toBool]⟩

/-- What the transaction at a place holds is not changed by what happens elsewhere. -/
lemma Holding.elsewhere (h : s.Holding k events) {x : Step} (other : ∀ es, x ≠ .log k es)
    (same : (s.act x).2.handles[k]? = s.handles[k]?) :
    (s.act x).2.Holding k (events ++ s.acceptedBy k x) := by
  rw [acceptedBy_of_ne other, List.append_nil]
  unfold Holding
  rwa [same]

/-- What has been staged is held. -/
lemma Holding.stage {u : Transaction} (at_ : s.handles[k]? = some (.own u))
    (open_ : u.active = true) (guarded : Guarded u)
    (logged : u.changes.filterMap entry? = events.map entryOf)
    {changes : List Change} {checks : List (List Id)} {more : List Event}
    (checked : checks.flatten = changes.filterMap eventOf?) (distinct : ∀ ids ∈ checks, ids.Nodup)
    (logs : changes.filterMap entry? = more.map entryOf) :
    (⟨s.store, s.handles.set k (.own { u with
      changes := u.changes ++ changes, checks := u.checks ++ checks })⟩ : Shared).Holding k
        (events ++ more) := by
  obtain ⟨hk, -⟩ := List.getElem?_eq_some_iff.mp at_
  refine ⟨_, List.getElem?_set_self hk, open_, ⟨?_, ?_, ?_⟩, ?_⟩
  · rw [List.flatten_append, List.filterMap_append, guarded.checked, checked]
  · intro ids mem
    exact (List.mem_append.mp mem).elim (guarded.distinct ids) (distinct ids)
  · exact fun closed => absurd (open_.symm.trans closed) (by decide)
  · rw [List.filterMap_append, List.map_append, logged, logs]

/-- An operation that neither commits the transaction nor rolls it back leaves it open, and it holds
what it has accepted. -/
lemma holding_act (h : s.Holding k events) {x : Step} (commit : x ≠ .commit k)
    (rollback : x ≠ .rollback k) : (s.act x).2.Holding k (events ++ s.acceptedBy k x) := by
  obtain ⟨u, at_, open_, guarded, logged⟩ := h
  have h : s.Holding k events := ⟨u, at_, open_, guarded, logged⟩
  cases course s x with
  | refused e act =>
    rw [acceptedBy_of_error (by rw [act]), act, List.append_nil]
    exact h
  | opened t quiet commits new act =>
    refine h.elsewhere (fun es same => by simp [same, Step.staging?] at quiet) ?_
    obtain ⟨hk, -⟩ := List.getElem?_eq_some_iff.mp at_
    rw [act, List.getElem?_append_left hk]
  | staged j v changes checks stages at' live checked distinct act =>
    by_cases here : j = k
    · subst here
      obtain rfl : u = v := Handle.own.inj (Option.some.inj (at_.symm.trans at'))
      have logs : changes.filterMap entry? = (s.acceptedBy j x).map entryOf := by
        cases x with
        | write i w =>
          cases stages
          rfl
        | log i es =>
          cases stages
          rw [acceptedBy_log (by rw [act]), List.filterMap_map, ← List.filterMap_eq_map]
          rfl
        | _ => cases stages
      rw [act]
      exact Holding.stage at_ open_ guarded logged checked distinct logs
    · refine h.elsewhere ?_ (by rw [act, List.getElem?_set_ne here])
      rintro es rfl
      cases stages
      exact here rfl
  | passed j stages act =>
    have none : s.acceptedBy k x = [] := by
      cases x with
      | log i es =>
        obtain rfl : es = [] := by simpa [Step.staging?] using congrArg (·.map (·.2)) stages
        exact ite_self []
      | _ => rfl
    rw [none, act, List.append_nil]
    exact h
  | committed j v commits at' live checked act =>
    refine h.elsewhere (by simp [commits]) ?_
    have elsewhere : j ≠ k := fun same => commit (same ▸ commits)
    rw [act, List.getElem?_set_ne elsewhere]
  | dropped j t drops closed act =>
    refine h.elsewhere (by simp [drops]) ?_
    have elsewhere : j ≠ k := fun same => rollback (same ▸ drops)
    rw [act, List.getElem?_set_ne elsewhere]
  | direct f changes act =>
    exact h.elsewhere (fun es same => by simp [same, Step.direct?] at changes) (by rw [act])
  | switched r off switches act =>
    exact h.elsewhere (by simp [switches]) (by rw [act])

/-- **What an open transaction holds after any run** that neither commits it nor rolls it back. -/
theorem holding_run (h : s.Holding k events) {xs : List Step} (commit : .commit k ∉ xs)
    (rollback : .rollback k ∉ xs) : (s.run xs).Holding k (events ++ accepted k s xs) := by
  induction xs generalizing s events with
  | nil => simpa [accepted] using h
  | cons x xs ih =>
    rw [List.mem_cons, not_or] at commit rollback
    have next := ih (holding_act h (Ne.symm commit.1) (Ne.symm rollback.1)) commit.2 rollback.2
    rwa [List.append_assoc] at next

/-! ## What is kept -/

/-- Whether the log is switched off changes only when it is switched. -/
lemma isCrashed_act {x : Step} (unswitched : ∀ off, x ≠ .switch .events off) :
    (s.act x).2.store.isCrashed .events = s.store.isCrashed .events := by
  cases course s x with
  | switched r off switches act =>
    have other : r ≠ .events := by
      rintro rfl
      exact unswitched off switches
    rw [act]
    cases off <;> simp [setCrashed, isCrashed, Ne.symm other]
  | committed k u commits at_ live checked act =>
    rw [act]
    rfl
  | direct f changes act =>
    rw [act]
    rfl
  | _ => simp_all only

lemma isCrashed_run {xs : List Step} (unswitched : ∀ off, .switch .events off ∉ xs) :
    (s.run xs).store.isCrashed .events = s.store.isCrashed .events := by
  induction xs generalizing s with
  | nil => rfl
  | cons x xs ih =>
    rw [run_cons, ih fun off mem => unswitched off (List.mem_cons_of_mem _ mem)]
    exact isCrashed_act fun off same => unswitched off (same ▸ List.mem_cons_self)

/-- What saving events in an open transaction comes to. -/
lemma Holding.log_cases (h : s.Holding k events) (on : s.store.isCrashed .events = false)
    (more : List Event) :
    (s.act (.log k more)).1 = .ok () ∨ s.Refuses (.log k more) .insertion := by
  obtain ⟨u, at_, open_, -, -⟩ := h
  have answer := log_own s.store more open_
  rcases runChecks_cases s.store.contents [more.map (·.id)] with
    ⟨-, fresh⟩ | ⟨ids, mem, old, -, known⟩
  · left
    rw [on, fresh _ (List.mem_singleton_self _)] at answer
    simp only [act, use, at_, backend, answer]
    rfl
  · right
    rw [List.mem_singleton.mp mem] at known
    rw [on, known] at answer
    refine ⟨.alreadyLogged old, rfl, use_refused at_ ?_⟩
    simp only [backend, answer]
    rfl

/-- **What the commit of an open transaction comes to**: the log has its events, or it is refused
since the log has one of them already. -/
lemma Holding.commit_cases (h : s.Holding k events) :
    ((s.act (.commit k)).1 = .ok () ∧ (∀ e ∈ events, s.store.contents.events.get? e.id = none) ∧
        (s.act (.commit k)).2.store.crashed = s.store.crashed ∧
        (s.act (.commit k)).2.store.contents.events =
          s.store.contents.events.enter (events.map entryOf)) ∨
      (s.Refuses (.commit k) .insertion ∧
        ∃ e ∈ events, s.store.contents.events.get? e.id ≠ none) := by
  obtain ⟨u, at_, open_, guarded, logged⟩ := h
  have ids : u.changes.filterMap eventOf? = events.map (·.id) := by
    rw [filterMap_eventOf?, logged, keys_entryOf]
  rcases guarded.runChecks_cases s.store.contents with
    ⟨passed, new⟩ | ⟨⟨old, failed⟩, i, mem, known⟩
  · rw [ids] at new
    have done : s.act (.commit k) = (.ok (),
        ⟨{ s.store with contents := s.store.contents.applyAll u.changes },
          s.handles.set k (.own .closed)⟩) := by
      simp [act, use, at_, backend, commit, open_, passed]
    rw [done]
    refine .inl ⟨rfl, fun e mem => new _ (List.mem_map_of_mem mem), rfl, ?_⟩
    rw [← logged]
    exact events_applyAll ..
  · rw [ids] at mem
    obtain ⟨e, he, rfl⟩ := List.mem_map.mp mem
    refine .inr ⟨⟨.alreadyLogged old, rfl, use_refused at_ ?_⟩, e, he, known⟩
    simp [backend, commit, open_, failed]

/-- What a commit that succeeds has done. -/
lemma Holding.committed (h : s.Holding k events) (ok : (s.act (.commit k)).1 = .ok ()) :
    (∀ i ∈ (events.map entryOf).map (·.1), s.store.contents.events.get? i = none) ∧
      (s.act (.commit k)).2.store.crashed = s.store.crashed ∧
        (s.act (.commit k)).2.store.contents.events =
          s.store.contents.events.enter (events.map entryOf) := by
  rcases h.commit_cases with ⟨-, absent, done⟩ | ⟨⟨e, -, refused⟩, -⟩
  · rw [keys_entryOf]
    exact ⟨List.forall_mem_map.mpr absent, done⟩
  · rw [refused] at ok
    cases ok

/-- The events that have been accepted were handed in. -/
lemma exists_log_of_mem_accepted {xs : List Step} {e : Event} (h : e ∈ accepted k s xs) :
    ∃ events, .log k events ∈ xs ∧ e ∈ events := by
  induction xs generalizing s with
  | nil => cases h
  | cons x xs ih =>
    rcases List.mem_append.mp h with h | h
    · cases x with
      | log j events =>
        simp only [acceptedBy] at h
        split_ifs at h with here
        · exact ⟨events, here.1 ▸ List.mem_cons_self, h⟩
        · cases h
      | _ => cases h
    · obtain ⟨events, mem, he⟩ := ih h
      exact ⟨events, List.mem_cons_of_mem _ mem, he⟩

/-- An event whose record is in the log is found. -/
lemma event_of_record {m : Memory} (on : m.isCrashed .events = false) {e : Event}
    (legible : e.Legible) (entry : m.contents.events.get? e.id = some (recordOf e)) (o : Occasion) :
    (m.view.event o e.id).1 = .ok (some e) := by
  have body : m.view.body e.id = .ok (some (.text e.encode)) := by
    simp [view, reading, on, entry, recordOf]
  have read : (Body.text e.encode).event (o.ids 0) o.now = .ok e := by
    simp [Body.event, Event.decode_encode (o.ids 0) o.now legible]
  simp [View.event, body, read, Except.map]

/-- Nothing is accepted while the log is switched off: calls are refused, and not as insertions. -/
lemma refused_of_crashed {t : Handle Transaction} (at_ : s.handles[k]? = some t)
    (off : s.store.isCrashed .events = true) (more : List Event) :
    s.act (.log k more) = (.error .crashed, s) :=
  use_refused at_ (by simp [backend, log, off])

/-- **When the store in memory keeps what a new transaction has accepted**, whatever else happens on
it: the log is switched on if anything is saved, and no identifier was accepted twice, unless the
commit is refused because of another one. -/
theorem keepsAccepted_iff_of_new (new : s.handles[k]? = some (.own .new)) {xs : List Step}
    (commit : .commit k ∉ xs) (rollback : .rollback k ∉ xs)
    (unswitched : ∀ off, .switch .events off ∉ xs)
    (legible : ∀ events, .log k events ∈ xs → ∀ e ∈ events, e.Legible) :
    s.KeepsAccepted k xs ↔
      (s.store.isCrashed .events = true → ∀ events, .log k events ∉ xs) ∧
        (((accepted k s xs).map (·.id)).Nodup ∨
          ∃ e ∈ accepted k s xs, (s.run xs).store.contents.events.get? e.id ≠ none) := by
  have start : s.Holding k [] := ⟨.new, new, rfl, guarded_new, rfl⟩
  have holding := holding_run start commit rollback
  rw [List.nil_append] at holding
  -- every call meets the transaction as it is open
  have met : ∀ ys zs events, xs = ys ++ .log k events :: zs →
      (s.run ys).Holding k ([] ++ accepted k s ys) ∧
        (s.run ys).store.isCrashed .events = s.store.isCrashed .events := by
    rintro ys zs events rfl
    simp only [List.mem_append, not_or] at commit rollback unswitched
    exact ⟨holding_run start commit.1 rollback.1, isCrashed_run fun off => (unswitched off).1⟩
  constructor
  · intro h
    refine ⟨?_, ?_⟩
    · intro off events mem
      obtain ⟨ys, zs, rfl⟩ := List.append_of_mem mem
      obtain ⟨⟨u, at_, -⟩, same⟩ := met ys zs events rfl
      have refused := refused_of_crashed at_ (same.trans off) events
      rcases h.calls ys zs events rfl with ok | ⟨e, kind, error⟩
      · rw [refused] at ok
        cases ok
      · rw [refused] at error
        cases error
        cases kind
    · rcases holding.commit_cases with ⟨ok, -⟩ | ⟨-, known⟩
      · obtain ⟨absent, -, entered⟩ := holding.committed ok
        left
        rw [← keys_entryOf, ← Table.length_keys_enter_iff absent, ← entered, h.gained ok,
          List.length_map]
      · exact .inr known
  · rintro ⟨on, once⟩
    have distinct : ((s.run xs).act (.commit k)).1 = .ok () →
        (((accepted k s xs).map entryOf).map (·.1)).Nodup := by
      intro ok
      obtain ⟨absent, -, -⟩ := holding.committed ok
      rw [keys_entryOf] at absent ⊢
      rcases once with once | ⟨e, mem, known⟩
      · exact once
      · exact absurd (absent _ (List.mem_map_of_mem mem)) known
    refine ⟨?_, ?_, ?_, ?_⟩
    · intro ys zs events split
      obtain ⟨open_, same⟩ := met ys zs events split
      have mem : .log k events ∈ xs := by simp [split]
      refine open_.log_cases ?_ events
      rw [same, Bool.eq_false_iff]
      exact fun off => on off events mem
    · exact holding.commit_cases.imp And.left And.left
    · intro ok e mem o
      obtain ⟨events, handed, he⟩ := exists_log_of_mem_accepted mem
      obtain ⟨-, crashed, entered⟩ := holding.committed ok
      have up : s.store.isCrashed .events = false :=
        Bool.eq_false_iff.mpr fun off => on off events handed
      refine event_of_record ?_ (legible events handed e he) ?_ o
      · rw [isCrashed, crashed, ← isCrashed, isCrashed_run unswitched, up]
      · rw [entered]
        exact Table.get?_enter_of_mem (distinct ok) (List.mem_map_of_mem mem)
    · intro ok
      obtain ⟨absent, -, entered⟩ := holding.committed ok
      rw [entered, (Table.length_keys_enter_iff absent).mpr (distinct ok), List.length_map]

end CommonPurse.Store.Memory.Shared

namespace CommonPurse.Store

open Memory

/-! ## Both stores -/

/-- **Both stores and the events that a transaction has accepted.** The relational store keeps them
all. The store in memory keeps them as long as no identifier is accepted twice. -/
theorem keepsEvents_iff {s : Shared} {k : ℕ} (new : s.handles[k]? = some (.own .new))
    {xs : List Shared.Step} (commit : .commit k ∉ xs) (rollback : .rollback k ∉ xs)
    (unswitched : ∀ off, .switch .events off ∉ xs)
    (legible : ∀ events, .log k events ∈ xs → ∀ e ∈ events, e.Legible)
    (r : Relational) {batches : List (List Event)}
    (legible' : ∀ e ∈ batches.flatten, e.Legible) :
    (s.KeepsAccepted k xs ↔
      (s.store.isCrashed .events = true → ∀ events, .log k events ∉ xs) ∧
        (((Shared.accepted k s xs).map (·.id)).Nodup ∨
          ∃ e ∈ Shared.accepted k s xs, (s.run xs).store.contents.events.get? e.id ≠ none)) ∧
      Relational.KeepsSaved r batches :=
  ⟨Shared.keepsAccepted_iff_of_new new commit rollback unswitched legible,
    Relational.keepsSaved r legible'⟩

/-- A store without contents and a new transaction on it. -/
def sampleOpened : Shared := ⟨.empty [], [.own .new]⟩

/-- Somebody logs in, and an event with an identifier tells of it. -/
def sampleLogin (i : ℕ) : Event where
  id := .ofNat i
  occurredAt := .utc 1767225600000000
  subject := .account (.ofNat 16) .loggedIn

/-- Two events that are saved one after the other are both kept. -/
theorem keepsEvents_distinct :
    sampleOpened.KeepsAccepted 0 [.log 0 [sampleLogin 1], .log 0 [sampleLogin 2]] ∧
      Relational.KeepsSaved .empty [[sampleLogin 1], [sampleLogin 2]] := by
  have clock : (Timestamp.utc 1767225600000000).Legible := by decide
  have legible : ∀ i, (sampleLogin i).Legible := fun i => ⟨clock, trivial⟩
  have opened : sampleOpened.handles[0]? = some (.own .new) := rfl
  have commit : Shared.Step.commit 0 ∉ [.log 0 [sampleLogin 1], .log 0 [sampleLogin 2]] := by simp
  have saved : ∀ e ∈ [[sampleLogin 1], [sampleLogin 2]].flatten, e.Legible := by simp [legible]
  obtain ⟨memory, relational⟩ := keepsEvents_iff opened commit (by simp) (by simp)
    (by simp [legible]) .empty saved
  exact ⟨memory.mpr ⟨nofun, .inl (by decide)⟩, relational⟩

/-- **Two events with one identifier are not both kept** when they are saved one after the other:
both calls and the commit succeed, and there is one record. -/
theorem not_keepsAccepted_twice :
    ¬sampleOpened.KeepsAccepted 0 [.log 0 [sampleLogin 1], .log 0 [{ sampleLogin 1 with
      subject := .account (.ofNat 16) .loggedOut }]] := by
  intro h
  have gained := h.gained rfl
  revert gained
  decide

end CommonPurse.Store
