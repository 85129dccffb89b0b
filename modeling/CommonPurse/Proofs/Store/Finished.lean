import CommonPurse.Proofs.Concurrency.Shared
import CommonPurse.Store.Relational

/-!
# Finished transactions

A transaction that has been committed or rolled back, or that belongs to another store, is of no
more use: whatever is tried with it is rejected and leaves no trace. The relational store keeps to
that. The store in memory looks at the events that are to be logged before it looks at the
transaction, so that an empty list of events is accepted, and events that are not new are rejected
for another reason.

## Main definitions

* `CommonPurse.Store.Use` — what can be tried with a transaction.
* `CommonPurse.Store.Backend.Ended` — a transaction that is finished, or of another store.
* `CommonPurse.Store.Backend.Rejects` — an attempt that is rejected without a trace.
* `CommonPurse.Store.Memory.Overlooks` — when the store in memory overlooks the transaction.

## Main results

* `CommonPurse.Store.Memory.rejects_iff_of_unusable` — what the store in memory rejects.
* `CommonPurse.Store.Relational.rejects_of_unusable` — what the relational store rejects.
* `CommonPurse.Store.finished_iff` — what becomes of finished transactions on both stores.
-/

namespace CommonPurse.Store

/-! ## Attempts -/

/-- What can be tried with a transaction, apart from rolling it back. -/
inductive Use where
  | write (w : Write)
  | log (events : List Event)
  | commit

/-- The collection that an attempt is about, if it is about one. -/
def Use.repository? : Use → Option Repository
  | .write w => some w.repository
  | .log _ => some .events
  | .commit => none

namespace Backend

section Ended

variable {σ τ : Type} (b : Backend σ τ)

/-- Try something with a transaction. -/
def use : Use → Handle τ → σ → Except Error Unit × Handle τ × σ
  | .write w => b.write w
  | .log events => b.log events
  | .commit => b.commit

/-- A transaction that has been committed or rolled back or belongs to another store, whatever has
been tried with it since. -/
inductive Ended : Handle τ → Prop where
  | committed {t t' : Handle τ} {s s' : σ} (h : b.commit t s = (.ok (), t', s')) : Ended t'
  | rolledBack {t t' : Handle τ} {s s' : σ} (h : b.rollback t s = (.ok (), t', s')) : Ended t'
  | foreign (active : Bool) : Ended (.foreign active)
  | used {t : Handle τ} (h : Ended t) (x : Use) (s : σ) : Ended (b.use x t s).2.1

/-- An attempt is rejected as one with a wrong transaction, and changes neither the store nor what
is staged in the transaction. -/
def Rejects (x : Use) (t : Handle τ) (s : σ) : Prop :=
  ∃ e : Error, e.kind = .transaction ∧ b.use x t s = (.error e, t, s)

/-- A transaction that is not an open one of the store. -/
def Unusable (t : Handle τ) : Prop := ∀ u, t = .own u → b.isActive u = false

/-- Roll a transaction back several times. -/
def rollbacks : ℕ → Handle τ → σ → Handle τ × σ
  | 0, t, s => (t, s)
  | n + 1, t, s => rollbacks n (b.rollback t s).2.1 (b.rollback t s).2.2

end Ended

end Backend

/-! ## The store in memory -/

namespace Memory

/-- The attempts in which the store in memory overlooks the transaction: when there is no event to
log, or when one of the events is not new. -/
def Overlooks (x : Use) (m : Memory) : Prop :=
  ∃ events, x = .log events ∧ (events = [] ∨ checkNew m.contents (events.map (·.id)) ≠ .ok ())

/-- The changes that are staged in a transaction. -/
def staged : Handle Transaction → List Change
  | .own u => u.changes
  | .foreign _ => []

/-- What is not new is rejected as something that cannot be inserted. -/
lemma kind_of_checkNew {c : Contents} {ids : List Id} {f : Error}
    (h : checkNew c ids = .error f) : f.kind = .insertion := by
  unfold checkNew at h
  dsimp only at h
  split_ifs at h
  all_goals
    obtain rfl := Except.error.inj h
    rfl

variable {m : Memory} {t : Handle Transaction}

/-- What is staged in a transaction that cannot be used is rejected. -/
lemma stage_unusable (h : backend.Unusable t) {r : Repository} (on : m.isCrashed r = false)
    (c : Change) : ∃ e : Error, e.kind = .transaction ∧ m.stage r c t = (.error e, t) := by
  cases t with
  | foreign a => exact ⟨foreignError, rfl, by simp [stage, on]⟩
  | own u =>
    have off : u.active = false := h u rfl
    exact ⟨.inactive, rfl, by simp [stage, on, off]⟩

/-- What logging in a transaction that cannot be used comes to. -/
lemma log_unusable (h : backend.Unusable t) (on : m.isCrashed .events = false)
    (events : List Event) :
    (∃ f, checkNew m.contents (events.map (·.id)) = .error f ∧ m.log events t = (.error f, t)) ∨
      (events = [] ∧ m.log events t = (.ok (), requireNew [] t)) ∨
      (events ≠ [] ∧ checkNew m.contents (events.map (·.id)) = .ok () ∧
        ∃ e : Error, e.kind = .transaction ∧ m.log events t = (.error e, t)) := by
  unfold log
  rw [on]
  cases fresh : checkNew m.contents (events.map (·.id)) with
  | error f => exact .inl ⟨f, rfl, rfl⟩
  | ok v =>
    cases events with
    | nil => exact .inr (.inl ⟨rfl, rfl⟩)
    | cons e es =>
      obtain ⟨f, kind, rejected⟩ := stage_unusable h on (.log e.id (recordOf e))
      refine .inr (.inr ⟨List.cons_ne_nil e es, rfl, f, kind, ?_⟩)
      simp only [stageEvents, rejected, Bool.false_eq_true, if_false]

lemma commit_unusable (h : backend.Unusable t) :
    ∃ e : Error, e.kind = .transaction ∧ backend.commit t m = (.error e, t, m) := by
  cases t with
  | foreign a => exact ⟨foreignError, rfl, rfl⟩
  | own u =>
    have off : u.active = false := h u rfl
    exact ⟨.inactive, rfl, by simp [backend, commit, off]⟩

/-- **What the store in memory rejects** of a transaction that cannot be used: all but the attempts
in which it overlooks the transaction. -/
theorem rejects_iff_of_unusable (h : backend.Unusable t) {x : Use}
    (on : ∀ r, x.repository? = some r → m.isCrashed r = false) :
    backend.Rejects x t m ↔ ¬Overlooks x m := by
  cases x with
  | write w =>
    obtain ⟨e, kind, rejected⟩ := stage_unusable h (on w.repository rfl) (.write w)
    have looked : ¬Overlooks (.write w) m := by
      rintro ⟨_, same, -⟩
      cases same
    refine iff_of_true ⟨e, kind, ?_⟩ looked
    simp only [Backend.use, backend, rejected]
  | commit =>
    have looked : ¬Overlooks .commit m := by
      rintro ⟨_, same, -⟩
      cases same
    exact iff_of_true (commit_unusable h) looked
  | log events =>
    have answer : backend.use (.log events) t m = ((m.log events t).1, (m.log events t).2, m) := rfl
    unfold Backend.Rejects Overlooks
    rw [answer]
    rcases log_unusable h (on .events rfl) events with
      ⟨f, old, logged⟩ | ⟨rfl, logged⟩ | ⟨some, fresh, e, kind, logged⟩
    · refine iff_of_false ?_ (not_not.mpr ⟨events, rfl, .inr (by simp [old])⟩)
      rintro ⟨e, kind, same⟩
      rw [logged] at same
      obtain rfl : f = e := by simpa using same
      rw [kind_of_checkNew old] at kind
      cases kind
    · refine iff_of_false ?_ (not_not.mpr ⟨[], rfl, .inl rfl⟩)
      rintro ⟨e, -, same⟩
      rw [logged] at same
      simp at same
    · refine iff_of_true ⟨e, kind, by rw [logged]⟩ ?_
      rintro ⟨_, same, none | old⟩
      · exact some (Use.log.inj same ▸ none)
      · exact old (Use.log.inj same ▸ fresh)

/-- Even what is overlooked changes neither the store nor what is staged, and the transaction still
cannot be used. -/
lemma use_unusable (h : backend.Unusable t) (x : Use) (m : Memory) :
    (backend.use x t m).2.2 = m ∧ staged (backend.use x t m).2.1 = staged t ∧
      backend.Unusable (backend.use x t m).2.1 := by
  have unchanged : ∀ {e : Error}, backend.use x t m = (.error e, t, m) →
      (backend.use x t m).2.2 = m ∧ staged (backend.use x t m).2.1 = staged t ∧
        backend.Unusable (backend.use x t m).2.1 := by
    intro e same
    rw [same]
    exact ⟨rfl, rfl, h⟩
  cases x with
  | write w =>
    rcases Shared.write_cases w t m with ⟨e, refused⟩ | ⟨u, rfl, active, -⟩
    · exact unchanged refused
    · exact absurd active (by simpa [backend] using h u rfl)
  | commit =>
    obtain ⟨e, -, refused⟩ := commit_unusable (m := m) h
    exact unchanged refused
  | log events =>
    rcases Shared.log_cases events t m with ⟨e, refused⟩ | ⟨u, rfl, live, -, logged⟩ | ⟨-, logged⟩
    · exact unchanged refused
    · have off : u.active = false := h u rfl
      obtain rfl : events = [] := live.resolve_left (by simp [off])
      have logged : backend.use (.log []) (.own u) m = _ := logged
      rw [logged]
      refine ⟨rfl, by simp [staged], ?_⟩
      rintro v same
      obtain rfl := Handle.own.inj same
      exact off
    · have logged : backend.use (.log events) t m = _ := logged
      rw [logged]
      exact ⟨rfl, rfl, h⟩

/-- A finished transaction cannot be used. -/
lemma unusable_of_ended (h : backend.Ended t) : backend.Unusable t := by
  induction h with
  | @committed t t' m m' h =>
    rcases Shared.commit_cases t m with ⟨e, refused⟩ | ⟨u, -, -, -, done⟩
    · rw [refused] at h
      cases h
    · rw [done] at h
      cases h
      rintro v same
      obtain rfl := Handle.own.inj same
      rfl
  | @rolledBack t t' m m' h =>
    obtain ⟨t'', closed, done⟩ := Shared.rollback_cases t m
    rw [done] at h
    cases h
    rintro v same
    rw [closed v same]
    rfl
  | foreign active => exact fun u same => nomatch same
  | used _ x m ih => exact (use_unusable ih x m).2.2

/-- Rolling back changes nothing that is stored. -/
lemma rollbacks_eq (n : ℕ) (t : Handle Transaction) (m : Memory) :
    (backend.rollbacks n t m).2 = m := by
  induction n generalizing t with
  | zero => rfl
  | succ n ih =>
    obtain ⟨t', -, done⟩ := Shared.rollback_cases t m
    rw [Backend.rollbacks, done]
    exact ih t'

end Memory

/-! ## The relational store -/

namespace Relational

variable {r : Relational} {t : Handle Session}

/-- A step in a transaction that cannot be used is rejected. -/
lemma within_unusable (h : backend.Unusable t) {α : Type}
    (step : Session → Except Error α × Session × Relational) :
    ∃ e : Error, e.kind = .transaction ∧ within t r step = (.error e, t, r) := by
  cases t with
  | foreign a => exact ⟨foreignError, rfl, rfl⟩
  | own s =>
    have off : s.active = false := h s rfl
    exact ⟨.inactive, rfl, by simp [within, off]⟩

/-- **The relational store rejects** whatever is tried with a transaction that cannot be used. -/
theorem rejects_of_unusable (h : backend.Unusable t) (x : Use) (r : Relational) :
    backend.Rejects x t r := by
  cases x with
  | write w => exact within_unusable h _
  | log events =>
    change ∃ e : Error, e.kind = .transaction ∧ log events t r = (.error e, t, r)
    exact within_unusable h _
  | commit => exact within_unusable h _

/-- A rollback leaves a transaction that cannot be used. -/
lemma unusable_rollback (t : Handle Session) (r : Relational) :
    backend.Unusable (backend.rollback t r).2.1 := by
  rintro v same
  cases t with
  | foreign a => cases same
  | own s =>
    cases active : s.active with
    | true =>
      have closed : (backend.rollback (.own s) r).2.1 = .own s.closed := by
        simp [backend, rollback, active]
      obtain rfl := Handle.own.inj (closed.symm.trans same)
      rfl
    | false =>
      have left : (backend.rollback (.own s) r).2.1 = .own s := by
        simp [backend, rollback, active]
      obtain rfl := Handle.own.inj (left.symm.trans same)
      exact active

/-- A commit that succeeds closes the transaction. -/
lemma unusable_commit {t' : Handle Session} {r' : Relational}
    (h : backend.commit t r = (.ok (), t', r')) : backend.Unusable t' := by
  cases t with
  | foreign a => cases h
  | own s =>
    simp only [backend, commit, within] at h
    generalize (if s.broken then (false, s, r) else flush s r) = written at h
    obtain ⟨worked, s', r''⟩ := written
    cases worked <;> split_ifs at h <;> cases h
    rintro v same
    obtain rfl := Handle.own.inj same
    rfl

/-- A finished transaction cannot be used. -/
lemma unusable_of_ended (h : backend.Ended t) : backend.Unusable t := by
  induction h with
  | committed h => exact unusable_commit h
  | @rolledBack t t' r r' h =>
    have left := unusable_rollback t r
    rwa [h] at left
  | foreign active => exact fun u same => nomatch same
  | used _ x r ih =>
    obtain ⟨e, -, rejected⟩ := rejects_of_unusable ih x r
    rwa [rejected]

/-- Rolling back a transaction that cannot be used changes nothing that is stored. -/
lemma rollbacks_eq (h : backend.Unusable t) (n : ℕ) (r : Relational) :
    (backend.rollbacks n t r).2 = r := by
  induction n generalizing t with
  | zero => rfl
  | succ n ih =>
    have unchanged : (backend.rollback t r).2.2 = r := by
      cases t with
      | foreign a => rfl
      | own s =>
        have off : s.active = false := h s rfl
        simp [backend, rollback, off]
    rw [Backend.rollbacks, unchanged]
    exact ih (unusable_rollback t r)

end Relational

/-! ## Both stores -/

/-- **What becomes of finished transactions.** The relational store rejects whatever is tried with
them. The store in memory rejects all but what it overlooks, and even that changes neither the store
nor what is staged. Rolling back again and again changes nothing that is stored. -/
theorem finished_iff (x : Use) (n : ℕ) :
    (∀ (m : Memory) (t : Handle Memory.Transaction), Memory.backend.Ended t →
      (∀ r, x.repository? = some r → m.isCrashed r = false) →
        (Memory.backend.Rejects x t m ↔ ¬Memory.Overlooks x m) ∧
          (Memory.backend.use x t m).2.2 = m ∧
          Memory.staged (Memory.backend.use x t m).2.1 = Memory.staged t ∧
          (Memory.backend.rollbacks n t m).2 = m) ∧
      ∀ (r : Relational) (t : Handle Relational.Session), Relational.backend.Ended t →
        Relational.backend.Rejects x t r ∧ (Relational.backend.rollbacks n t r).2 = r := by
  constructor
  · intro m t ended on
    have unusable := Memory.unusable_of_ended ended
    obtain ⟨stored, staged, -⟩ := Memory.use_unusable unusable x m
    exact ⟨Memory.rejects_iff_of_unusable unusable on, stored, staged, Memory.rollbacks_eq n t m⟩
  · intro r t ended
    have unusable := Relational.unusable_of_ended ended
    exact ⟨Relational.rejects_of_unusable unusable x r, Relational.rollbacks_eq unusable n r⟩

/-- A transaction that has been committed without changes is rejected when a user is to be deleted
with it, and so is one of the other store. -/
theorem finished_deleteUser :
    Memory.backend.Rejects (.write (.deleteUser Id.nil)) (.own .closed) (.empty []) ∧
      Relational.backend.Rejects (.write (.deleteUser Id.nil)) (.foreign true) .empty := by
  have committed : Memory.backend.commit (.own .new) (.empty []) =
      (.ok (), .own .closed, .empty []) := rfl
  have deletion : ¬Memory.Overlooks (.write (.deleteUser Id.nil)) (.empty []) := by
    rintro ⟨_, same, -⟩
    cases same
  obtain ⟨memory, relational⟩ := finished_iff (.write (.deleteUser Id.nil)) 0
  obtain ⟨rejects, -⟩ := memory (.empty []) _ (.committed committed) fun _ _ => rfl
  exact ⟨rejects.mpr deletion, (relational .empty _ (.foreign true)).1⟩

/-- **No events are accepted with a finished transaction**: the store in memory answers as if they
had been logged. -/
theorem accepts_no_events : Memory.backend.Ended (.own .closed) ∧
    ¬Memory.backend.Rejects (.log []) (.own .closed) (.empty []) := by
  have committed : Memory.backend.commit (.own .new) (.empty []) =
      (.ok (), .own .closed, .empty []) := rfl
  refine ⟨.committed committed, ?_⟩
  rintro ⟨e, -, same⟩
  cases same

end CommonPurse.Store
