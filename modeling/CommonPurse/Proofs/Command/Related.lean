import CommonPurse.Command
import CommonPurse.Proofs.Store.Rewording

/-!
# Deciding on related reads

A request is decided step by step, and what the store shows comes in by single reads. A relation
that holds for the reads of two stores and is kept by steps therefore holds for what is decided on
them, whatever the request is.

## Main definitions

* `CommonPurse.Kept` — a relation that is kept by steps.
* `CommonPurse.Stop.Reworded`, `CommonPurse.Stop.Interrupted` — what becomes of reads that fail.

## Main results

* `CommonPurse.Kept.plan`, `CommonPurse.Kept.answer` — requests are decided alike on related reads.
* `CommonPurse.kept_reworded`, `CommonPurse.kept_interrupted` — reads that fail stop a request.
-/

namespace CommonPurse

open CommonPurse.Store

/-! ## Steps -/

/-- A relation between outcomes of steps, which holds for reads of related answers and is kept from
one step to the next. -/
structure Kept (Q : ∀ {α : Type}, Except Error α → Except Error α → Prop)
    (R : ∀ {α : Type}, Except Stop α → Except Stop α → Prop) : Prop where
  refl {α : Type} (x : Except Stop α) : R x x
  read {α : Type} {x y : Except Error α} (operation : String) (h : Q x y) :
    R (read operation x) (read operation y)
  bind {α β : Type} {x y : Except Stop α} {f g : α → Except Stop β} (first : R x y)
    (next : ∀ a, R (f a) (g a)) : R (x >>= f) (y >>= g)

namespace Kept

variable {Q : ∀ {α : Type}, Except Error α → Except Error α → Prop}
  {R : ∀ {α : Type}, Except Stop α → Except Stop α → Prop} {v v' : View}

lemma loadUser (k : Kept Q R) (h : v.Related Q v') (operation : String) (user : Id) :
    R (loadUser v operation user) (loadUser v' operation user) := by
  have eq (v : View) : CommonPurse.loadUser v operation user =
      CommonPurse.read operation (v.user user) >>= fun found =>
        match found with
        | none => .error (.problem (.notFound "User not found" "user-not-found"))
        | some u => .ok u := by
    unfold CommonPurse.loadUser
    rcases v.user user with e | _ | u <;> rfl
  rw [eq, eq]
  exact k.bind (k.read operation (h.user user)) fun _ => k.refl _

lemma loadGroup (k : Kept Q R) (h : v.Related Q v') (group : Id) :
    R (loadGroup v group) (loadGroup v' group) := by
  have eq (v : View) : CommonPurse.loadGroup v group =
      CommonPurse.read "load_group" (v.group group) >>= fun found =>
        match found with
        | none => .error (.problem (.notFound "Group not found" "group-not-found"))
        | some g => .ok (.ofGroup g) := by
    unfold CommonPurse.loadGroup
    rcases v.group group with e | _ | g <;> rfl
  rw [eq, eq]
  exact k.bind (k.read _ (h.group group)) fun _ => k.refl _

/-- **Commands are decided alike on related reads.** -/
theorem plan (k : Kept Q R) (h : v.Related Q v') (o : Occasion) (c : Command) :
    R (c.plan v o) (c.plan v' o) := by
  cases c with
  | register name email hash =>
    show R (Command.planRegister ..) (Command.planRegister ..)
    unfold Command.planRegister
    cases User.register o name email with
    | error p => exact k.refl _
    | ok r => exact k.bind (k.read _ (h.userByEmail _)) fun _ => k.refl _
  | login email hash =>
    show R (Command.planLogin ..) (Command.planLogin ..)
    unfold Command.planLogin
    cases Entry.email email with
    | error p => exact k.refl _
    | ok address =>
      exact k.bind (k.read _ (h.credential _)) fun _ =>
        k.bind (k.read _ (h.userByEmail _)) fun _ => k.refl _
  | logout user => exact k.bind (k.loadUser h _ user) fun _ => k.refl _
  | deleteUser user => exact k.bind (k.loadUser h _ user) fun _ => k.refl _
  | createGroup user name color =>
    exact k.bind (k.refl _) fun _ => k.bind (k.loadUser h _ user) fun _ => k.refl _
  | joinGroup user group color =>
    exact k.bind (k.refl _) fun _ => k.bind (k.loadUser h _ user) fun _ =>
      k.bind (k.loadGroup h group) fun _ => k.refl _
  | changeColor user group color =>
    exact k.bind (k.refl _) fun _ => k.bind (k.loadGroup h group) fun _ => k.refl _
  | createExpense user group title amount =>
    exact k.bind (k.loadGroup h group) fun _ => k.refl _
  | updateExpense user group expense title amount =>
    exact k.bind (k.loadGroup h group) fun _ => k.bind (k.read _ (h.expense _)) fun _ => k.refl _
  | deleteExpense user group expense =>
    exact k.bind (k.loadGroup h group) fun _ => k.bind (k.read _ (h.expense _)) fun _ => k.refl _
  | settle user group =>
    exact k.bind (k.loadGroup h group) fun _ => k.bind (k.read _ (h.unsettled _)) fun _ =>
      k.bind (k.refl _) fun _ => k.bind (k.read _ (h.lastSettlement _)) fun _ => k.refl _
  | deleteGroup user group => exact k.bind (k.loadGroup h group) fun _ => k.refl _

lemma groupFor (k : Kept Q R) (h : v.Related Q v') (user group : Id) :
    R (Query.groupFor v user group) (Query.groupFor v' user group) :=
  k.bind (k.loadGroup h group) fun _ => k.refl _

/-- **So are queries.** -/
theorem answer (k : Kept Q R) (h : v.Related Q v') (q : Query) : R (q.answer v) (q.answer v') := by
  have map {α : Type} (f : α → Product) (x : Except Stop α) :
      x.map f = x >>= fun a => .ok (f a) := by
    cases x <;> rfl
  cases q with
  | user user =>
    show R ((CommonPurse.loadUser ..).map _) ((CommonPurse.loadUser ..).map _)
    rw [map, map]
    exact k.bind (k.loadUser h _ user) fun _ => k.refl _
  | group user group =>
    show R ((Query.groupFor ..).map _) ((Query.groupFor ..).map _)
    rw [map, map]
    exact k.bind (k.groupFor h user group) fun _ => k.refl _
  | expenses user group =>
    exact k.bind (k.groupFor h user group) fun _ =>
      k.bind (k.read _ (h.unsettled _)) fun _ => k.refl _

end Kept

/-! ## What becomes of reads that fail -/

/-- The same outcome, or an unreadable store in both, in the course of the same operation. -/
inductive Stop.Reworded {α : Type} : Except Stop α → Except Stop α → Prop
  | same (x : Except Stop α) : Reworded x x
  | unreadable (operation : String) (e e' : Error) :
      Reworded (.error (.unreadable operation e)) (.error (.unreadable operation e'))

/-- The same outcome, or an unreadable store in the second. -/
inductive Stop.Interrupted {α : Type} (x : Except Stop α) : Except Stop α → Prop
  | same : Interrupted x x
  | unreadable (operation : String) (e : Error) : Interrupted x (.error (.unreadable operation e))

/-- Another error of a read makes an operation stop all the same. -/
lemma kept_reworded : Kept Store.Reworded Stop.Reworded where
  refl := .same
  read operation h := by
    cases h with
    | ok a => exact .same _
    | error e e' => exact .unreadable operation e e'
  bind {_ _ x _ _ _} first next := by
    cases first with
    | same =>
      cases x with
      | error s => exact .same _
      | ok a => exact next a
    | unreadable operation e e' => exact .unreadable operation e e'

/-- A read that fails makes an operation stop. -/
lemma kept_interrupted : Kept Store.Interrupted Stop.Interrupted where
  refl _ := .same
  read operation h := by
    cases h with
    | same => exact .same
    | error e => exact .unreadable operation e
  bind {_ _ x _ _ _} first next := by
    cases first with
    | same =>
      cases x with
      | error s => exact .same
      | ok a => exact next a
    | unreadable operation e => exact .unreadable operation e

end CommonPurse
