import CommonPurse.Store.Backend
import Mathlib.Tactic.Lemma

/-!
# Stores that differ in their errors

An error of a store has a kind, a message and details of its own. Units of work end alike in stores
that do the same but for the errors that they raise, and none of the errors that are raised in a
unit of work is passed over.

## Main definitions

* `CommonPurse.Store.Reworded`, `CommonPurse.Store.Interrupted` — another error, and one more error.
* `CommonPurse.Store.View.Related` — the reads of two stores, one by one.
* `CommonPurse.Store.Backend.Rewords` — a store that raises other errors at the same points.
* `CommonPurse.Store.Backend.reworded` — a store whose errors are all replaced.
* `CommonPurse.Store.Backend.raised` — the errors that are raised in a unit of work.

## Main results

* `CommonPurse.Store.Backend.Rewords.carryOut` — units of work end alike.
* `CommonPurse.Store.Backend.raised_eq_nil_iff` — no error of a unit of work is passed over.
-/

namespace CommonPurse.Store

/-! ## Other errors and more errors -/

/-- The same value, or an error in both. -/
inductive Reworded {α : Type} : Except Error α → Except Error α → Prop
  | ok (a : α) : Reworded (.ok a) (.ok a)
  | error (e e' : Error) : Reworded (.error e) (.error e')

/-- The same, or an error in the second. -/
inductive Interrupted {α : Type} (x : Except Error α) : Except Error α → Prop
  | same : Interrupted x x
  | error (e : Error) : Interrupted x (.error e)

/-- The reads that requests make are related one by one. -/
structure View.Related (Q : ∀ {α : Type}, Except Error α → Except Error α → Prop)
    (v v' : View) : Prop where
  user (i : Id) : Q (v.user i) (v'.user i)
  userByEmail (address : String) : Q (v.userByEmail address) (v'.userByEmail address)
  credential (address : String) : Q (v.credential address) (v'.credential address)
  group (i : Id) : Q (v.group i) (v'.group i)
  expense (i : Id) : Q (v.expense i) (v'.expense i)
  unsettled (i : Id) : Q (v.unsettled i) (v'.unsettled i)
  lastSettlement (i : Id) : Q (v.lastSettlement i) (v'.lastSettlement i)

/-! ## Units of work -/

/-- The same result and state, or an error in both, with the same state. -/
inductive Backend.Alike {α β : Type} : Except Error α × β → Except Error α × β → Prop
  | ok (a : α) (s : β) : Alike (.ok a, s) (.ok a, s)
  | error (e e' : Error) (s : β) : Alike (.error e, s) (.error e', s)

/-- What has become of the transaction is not looked at any more. -/
lemma Backend.Alike.dropHandle {α β γ : Type} {x y : Except Error α × β × γ} (h : Alike x y) :
    Alike (x.1, x.2.2) (y.1, y.2.2) := by
  cases h with
  | ok a s => exact .ok a s.2
  | error e e' s => exact .error e e' s.2

variable {σ τ : Type}

/-- A store that does what another one does, but for the errors that it raises. -/
structure Backend.Rewords (b b' : Backend σ τ) : Prop where
  view (s : σ) : (b.view s).Related Reworded (b'.view s)
  start (s : σ) : Alike (b.start s) (b'.start s)
  isActive (t : τ) : b.isActive t = b'.isActive t
  write (w : Write) (t : Handle τ) (s : σ) : Alike (b.write w t s) (b'.write w t s)
  log (events : List Event) (t : Handle τ) (s : σ) : Alike (b.log events t s) (b'.log events t s)
  commit (t : Handle τ) (s : σ) : Alike (b.commit t s) (b'.commit t s)
  rollback (t : Handle τ) (s : σ) : Alike (b.rollback t s) (b'.rollback t s)
  saveDevice (user : Id) (device : String) (s : σ) :
    Alike (b.saveDevice user device s) (b'.saveDevice user device s)
  removeDevice (user : Id) (s : σ) : Alike (b.removeDevice user s) (b'.removeDevice user s)

namespace Backend.Rewords

variable {b b' : Backend σ τ} (h : b.Rewords b')

include h

lemma isOpen (t : Handle τ) : b.isOpen t = b'.isOpen t := by
  cases t with
  | own t => exact h.isActive t
  | foreign active => rfl

lemma writeAll (ws : List Write) (t : Handle τ) (s : σ) :
    Alike (b.writeAll ws t s) (b'.writeAll ws t s) := by
  induction ws generalizing t s with
  | nil => exact .ok () (t, s)
  | cons w ws ih =>
    have first := h.write w t s
    rw [Backend.writeAll, Backend.writeAll]
    generalize b.write w t s = x at first ⊢
    generalize b'.write w t s = y at first ⊢
    cases first with
    | ok a r => exact ih r.1 r.2
    | error e e' r => exact .error e e' r

lemma writeAndCommit (ws : List Write) (events : List Event) (t : Handle τ) (s : σ) :
    Alike (b.writeAndCommit ws events t s) (b'.writeAndCommit ws events t s) := by
  have written := h.writeAll ws t s
  unfold Backend.writeAndCommit
  generalize b.writeAll ws t s = x at written ⊢
  generalize b'.writeAll ws t s = y at written ⊢
  cases written with
  | error e e' r => exact .error e e' r
  | ok a r =>
    have logged := h.log events r.1 r.2
    dsimp only
    generalize b.log events r.1 r.2 = x at logged ⊢
    generalize b'.log events r.1 r.2 = y at logged ⊢
    cases logged with
    | error e e' r => exact .error e e' r
    | ok a r => exact h.commit r.1 r.2

/-- Whether a transaction is rolled back, and whether that fails, does not depend on the errors. -/
lemma finish {r r' : Except Error Unit} (ended : Reworded r r') (t : Handle τ) (s : σ) :
    Alike (b.finish id r t s) (b'.finish id r' t s) := by
  have undone := h.rollback t s
  unfold Backend.finish
  rw [← h.isOpen t]
  split
  · generalize b.rollback t s = x at undone ⊢
    generalize b'.rollback t s = y at undone ⊢
    cases undone with
    | error e e' q => exact .error e e' q
    | ok a q =>
      cases ended with
      | ok a => exact .ok a q
      | error e e' => exact .error e e' q
  · cases ended with
    | ok a => exact .ok a (t, s)
    | error e e' => exact .error e e' (t, s)

/-- Units of work end alike. -/
lemma carryOut (ws : List Write) (events : List Event) (s : σ) :
    Alike (b.carryOut ws events s) (b'.carryOut ws events s) := by
  have started := h.start s
  unfold Backend.carryOut
  generalize b.start s = x at started ⊢
  generalize b'.start s = y at started ⊢
  cases started with
  | error e e' s => exact .error e e' s
  | ok t s =>
    have done := h.writeAndCommit ws events (.own t) s
    dsimp only
    generalize b.writeAndCommit ws events (.own t) s = x at done ⊢
    generalize b'.writeAndCommit ws events (.own t) s = y at done ⊢
    cases done with
    | ok a r => exact (h.finish (.ok a) r.1 r.2).dropHandle
    | error e e' r => exact (h.finish (.error e e') r.1 r.2).dropHandle

end Backend.Rewords

/-! ## A store in other words -/

/-- A store whose errors are all replaced. -/
def Backend.reworded (f : Error → Error) (b : Backend σ τ) : Backend σ τ where
  view s :=
    { user := fun i => ((b.view s).user i).mapError f
      userByEmail := fun address => ((b.view s).userByEmail address).mapError f
      credential := fun address => ((b.view s).credential address).mapError f
      device := fun i => ((b.view s).device i).mapError f
      group := fun i => ((b.view s).group i).mapError f
      expense := fun i => ((b.view s).expense i).mapError f
      unsettled := fun i => ((b.view s).unsettled i).mapError f
      settlement := fun i => ((b.view s).settlement i).mapError f
      lastSettlement := fun i => ((b.view s).lastSettlement i).mapError f
      body := fun i => ((b.view s).body i).mapError f
      processedAt := fun i => ((b.view s).processedAt i).mapError f }
  start s := ((b.start s).1.mapError f, (b.start s).2)
  isActive := b.isActive
  write w t s := ((b.write w t s).1.mapError f, (b.write w t s).2)
  log events t s := ((b.log events t s).1.mapError f, (b.log events t s).2)
  commit t s := ((b.commit t s).1.mapError f, (b.commit t s).2)
  rollback t s := ((b.rollback t s).1.mapError f, (b.rollback t s).2)
  saveDevice user device s :=
    ((b.saveDevice user device s).1.mapError f, (b.saveDevice user device s).2)
  removeDevice user s := ((b.removeDevice user s).1.mapError f, (b.removeDevice user s).2)
  markProcessed event now s :=
    ((b.markProcessed event now s).1.mapError f, (b.markProcessed event now s).2)

lemma reworded_mapError {α : Type} (f : Error → Error) (x : Except Error α) :
    Reworded x (x.mapError f) := by
  cases x with
  | ok a => exact .ok a
  | error e => exact .error e (f e)

lemma Backend.alike_mapError {α β : Type} (f : Error → Error) (x : Except Error α × β) :
    Alike x (x.1.mapError f, x.2) := by
  obtain ⟨e | a, s⟩ := x
  · exact .error e (f e) s
  · exact .ok a s

lemma Backend.rewords_reworded (f : Error → Error) (b : Backend σ τ) :
    b.Rewords (b.reworded f) where
  view _ := ⟨fun _ => reworded_mapError f _, fun _ => reworded_mapError f _,
    fun _ => reworded_mapError f _, fun _ => reworded_mapError f _, fun _ => reworded_mapError f _,
    fun _ => reworded_mapError f _, fun _ => reworded_mapError f _⟩
  start _ := alike_mapError f _
  isActive _ := rfl
  write _ _ _ := alike_mapError f _
  log _ _ _ := alike_mapError f _
  commit _ _ := alike_mapError f _
  rollback _ _ := alike_mapError f _
  saveDevice _ _ _ := alike_mapError f _
  removeDevice _ _ := alike_mapError f _

/-! ## Errors that are raised in units of work -/

namespace Backend

/-- The errors that have been raised after one more step. -/
def raisedBy {α : Type} (errors : List Error) : Except Error α → List Error
  | .ok _ => errors
  | .error e => errors ++ [e]

/-- What a step leads to, with its error in the list. -/
def keeping {α β : Type} (errors : List Error) (x : Except Error α × β × σ) :
    Except Error α × β × σ × List Error :=
  (x.1, x.2.1, x.2.2, raisedBy errors x.1)

/-- A store that keeps a list of the errors which the steps of units of work raise. -/
def watched (b : Backend σ τ) : Backend (σ × List Error) τ where
  view s := b.view s.1
  start s := ((b.start s.1).1, (b.start s.1).2, raisedBy s.2 (b.start s.1).1)
  isActive := b.isActive
  write w t s := keeping s.2 (b.write w t s.1)
  log events t s := keeping s.2 (b.log events t s.1)
  commit t s := keeping s.2 (b.commit t s.1)
  rollback t s := keeping s.2 (b.rollback t s.1)
  saveDevice user device s :=
    ((b.saveDevice user device s.1).1, (b.saveDevice user device s.1).2, s.2)
  removeDevice user s := ((b.removeDevice user s.1).1, (b.removeDevice user s.1).2, s.2)
  markProcessed event now s :=
    ((b.markProcessed event now s.1).1, (b.markProcessed event now s.1).2, s.2)

/-- The errors that are raised in a unit of work: by its start, by a write, by the log, by the
commit or by the rollback. -/
def raised (b : Backend σ τ) (ws : List Write) (events : List Event) (s : σ) : List Error :=
  (b.watched.carryOut ws events (s, [])).2.2

variable (b : Backend σ τ)

lemma watched_log (events : List Event) (t : Handle τ) (s : σ × List Error) :
    b.watched.log events t s = keeping s.2 (b.log events t s.1) := rfl

lemma watched_rollback (t : Handle τ) (s : σ × List Error) :
    b.watched.rollback t s = keeping s.2 (b.rollback t s.1) := rfl

lemma watched_writeAll (ws : List Write) (t : Handle τ) (s : σ) (errors : List Error) :
    b.watched.writeAll ws t (s, errors) = keeping errors (b.writeAll ws t s) := by
  induction ws generalizing t s with
  | nil => rfl
  | cons w ws ih =>
    have first : b.watched.write w t (s, errors) = keeping errors (b.write w t s) := rfl
    rw [writeAll, writeAll, first]
    rcases b.write w t s with ⟨e | _, t, s⟩
    · rfl
    · exact ih t s

lemma watched_writeAndCommit (ws : List Write) (events : List Event) (t : Handle τ) (s : σ)
    (errors : List Error) :
    b.watched.writeAndCommit ws events t (s, errors) =
      keeping errors (b.writeAndCommit ws events t s) := by
  unfold writeAndCommit
  rw [watched_writeAll]
  rcases b.writeAll ws t s with ⟨e | _, t, s⟩
  · rfl
  · simp only [keeping, raisedBy, watched_log]
    rcases b.log events t s with ⟨e | _, t, s⟩ <;> rfl

/-- Watching changes nothing, and the list stays as it is exactly when the unit of work succeeds. -/
theorem watched_carryOut (ws : List Write) (events : List Event) (s : σ) (errors : List Error) :
    (b.watched.carryOut ws events (s, errors)).1 = (b.carryOut ws events s).1 ∧
      (b.watched.carryOut ws events (s, errors)).2.1 = (b.carryOut ws events s).2 ∧
      ((b.watched.carryOut ws events (s, errors)).2.2 = errors ↔
        (b.carryOut ws events s).1 = .ok ()) := by
  have started : b.watched.start (s, errors) =
    ((b.start s).1, (b.start s).2, raisedBy errors (b.start s).1) := rfl
  unfold carryOut
  rw [started]
  rcases b.start s with ⟨e | t, s⟩
  · simp [raisedBy]
  simp only [raisedBy, watched_writeAndCommit]
  rcases b.writeAndCommit ws events (.own t) s with ⟨r, t, s⟩
  have same : b.watched.isOpen t = b.isOpen t := rfl
  simp only [keeping, finish, same, watched_rollback]
  by_cases opened : b.isOpen t = true
  · simp only [opened, if_true]
    rcases b.rollback t s with ⟨e | _, t, s⟩ <;> cases r <;> simp [raisedBy]
  · simp only [opened]
    cases r <;> simp [raisedBy]

lemma raised_eq_nil_iff (ws : List Write) (events : List Event) (s : σ) :
    b.raised ws events s = [] ↔ (b.carryOut ws events s).1 = .ok () :=
  (b.watched_carryOut ws events s []).2.2

end Backend

end CommonPurse.Store
