import CommonPurse.Proofs.Concurrency.SettledOnce

/-!
# Calls that overlap on a store of any kind

The two steps of a call, once more: it reads and is planned, and later its unit of work is
committed. Here the store may be of any kind, queries come in between, and the log of a run is kept
beside the store: the events of the units of work that have been committed, in their order.

## Main definitions

* `CommonPurse.Overlap` — a shared world, the plans that wait, and the log.
* `CommonPurse.Overlap.step`, `CommonPurse.Overlap.states` — single steps, and the states of a run.
* `CommonPurse.Overlap.answer?` — what a call is told at a step that ends it.
* `CommonPurse.Overlap.Along` — what is asked of every step of a run.

## Main results

* `CommonPurse.Overlap.stepCases` — what a step can do.
* `CommonPurse.Overlap.forall_states` — what steps preserve holds in every state of a run.
* `CommonPurse.Overlap.interleaved_step` — on the store in memory these are the calls that
  interleave.
-/

namespace CommonPurse

open CommonPurse.Store

/-! ## Steps -/

/-- Calls that overlap: the world that they share, the plans of the calls that have read and have not
committed, and the events of the units of work that have been committed. -/
structure Overlap (σ : Type) where
  world : World σ
  waiting : List Plan
  log : List Event

namespace Overlap

/-- One step: a command is called and reads on some occasion, a query is called and answered, or one
of the waiting calls commits. -/
inductive Step where
  | read (o : Occasion) (c : Command)
  | ask (q : Query)
  | commit (k : Nat)

variable {σ τ : Type} (b : Backend σ τ)

/-- What is stored. -/
def store (d : Overlap σ) : σ := d.world.store

/-- The plan whose commit a step attempts. -/
def attempted? (d : Overlap σ) : Step → Option Plan
  | .read _ _ => none
  | .ask _ => none
  | .commit k => d.waiting[k]?

/-- The events that a plan adds to the log: its own, if its unit of work is carried out. -/
def recorded (d : Overlap σ) (p : Plan) : List Event :=
  match (b.carryOut p.writes p.events d.store).1 with
  | .ok () => p.events
  | .error _ => []

/-- Take a step. A call that is refused when it reads is over. -/
def step (d : Overlap σ) : Step → Overlap σ
  | .read o c =>
    match c.plan (b.view d.store) o with
    | .error stop => { d with world := d.world.say stop.log }
    | .ok p => { d with waiting := d.waiting ++ [p] }
  | .ask q => { d with world := (d.world.ask b q).2 }
  | .commit k =>
    match d.waiting[k]? with
    | none => d
    | some p =>
      ⟨(World.execute b p d.world).2, d.waiting.eraseIdx k, d.log ++ d.recorded b p⟩

/-- What a call is told at a step that ends it. -/
def answer? (d : Overlap σ) : Step → Option (Except Refusal Product)
  | .read o c =>
    match c.plan (b.view d.store) o with
    | .error stop => some (.error stop.refusal)
    | .ok _ => none
  | .ask q => some (d.world.ask b q).1
  | .commit k => d.waiting[k]?.map fun p => (World.execute b p d.world).1

/-- The states that steps lead through, from the first to the last. -/
def states (d : Overlap σ) : List Step → List (Overlap σ)
  | [] => [d]
  | s :: ss => d :: (d.step b s).states ss

/-- Something is true of every step of a run, in the state in which it is taken. -/
def Along (P : Overlap σ → Step → Prop) (d : Overlap σ) : List Step → Prop
  | [] => True
  | s :: ss => P d s ∧ Along P (d.step b s) ss

instance decidableAlong (P : Overlap σ → Step → Prop) [∀ d s, Decidable (P d s)] (d : Overlap σ) :
    (steps : List Step) → Decidable (d.Along b P steps)
  | [] => isTrue trivial
  | s :: ss => @instDecidableAnd _ _ _ (decidableAlong P (d.step b s) ss)

/-! ## What a step can do -/

/-- The store when the device of a user, if any, has been forgotten. -/
def forgetting (s : σ) : Option Id → σ
  | some user => (b.removeDevice user s).2
  | none => s

/-- The store that a plan leaves behind. -/
lemma store_execute (p : Plan) (w : World σ) :
    (World.execute b p w).2.store =
      match b.carryOut p.writes p.events w.store with
      | (.error _, s) => s
      | (.ok (), s) => forgetting b s p.forget := by
  have announced : ∀ v : World σ, (v.announce p.operation p.events).store = v.store := by
    intro v
    unfold World.announce
    split <;> rfl
  have forgotten : ∀ v : World σ, (v.forget b p.forget).store = forgetting b v.store p.forget := by
    intro v
    cases p.forget with
    | none => rfl
    | some user =>
      simp only [World.forget, World.removeDevice, forgetting]
      rcases b.removeDevice user v.store with ⟨e | u, s⟩ <;> rfl
  unfold World.execute
  rcases b.carryOut p.writes p.events w.store with ⟨e | u, s⟩
  · rfl
  · show (World.forget b p.forget _).store = _
    rw [forgotten, announced]
    rfl

/-- What a plan is answered. -/
lemma answer_execute (p : Plan) (w : World σ) :
    (World.execute b p w).1 =
      match (b.carryOut p.writes p.events w.store).1 with
      | .error _ => .error (.problem (.storage p.operation))
      | .ok () => .ok p.product := by
  unfold World.execute
  rcases b.carryOut p.writes p.events w.store with ⟨e | u, s⟩ <;> rfl

variable {b} {d : Overlap σ} {s : Step}

/-- What a step can do to the store and to the log: nothing, or the unit of work of a waiting plan
fails, or it is carried out. -/
inductive StepCases (b : Backend σ τ) (d : Overlap σ) (s : Step) : Prop
  | quiet (attempts : d.attempted? s = none) (store : (d.step b s).store = d.store)
      (log : (d.step b s).log = d.log)
  | failed (p : Plan) (e : Error) (left : σ) (attempts : d.attempted? s = some p)
      (outcome : b.carryOut p.writes p.events d.store = (.error e, left))
      (store : (d.step b s).store = left) (log : (d.step b s).log = d.log)
      (answer : d.answer? b s = some (.error (.problem (.storage p.operation))))
  | done (p : Plan) (left : σ) (attempts : d.attempted? s = some p)
      (outcome : b.carryOut p.writes p.events d.store = (.ok (), left))
      (store : (d.step b s).store = forgetting b left p.forget)
      (log : (d.step b s).log = d.log ++ p.events) (answer : d.answer? b s = some (.ok p.product))

/-- Every step does one of these things. -/
theorem stepCases (b : Backend σ τ) (d : Overlap σ) (s : Step) : d.StepCases b s := by
  cases s with
  | read o c =>
    refine .quiet rfl ?_ ?_ <;>
    · simp only [step]
      cases c.plan (b.view d.store) o <;> rfl
  | ask q =>
    refine .quiet rfl ?_ rfl
    show (World.ask b q d.world).2.store = d.world.store
    unfold World.ask
    cases q.answer (b.view d.world.store) <;> rfl
  | commit k =>
    cases hk : d.waiting[k]? with
    | none => refine .quiet hk ?_ ?_ <;> simp only [step, hk]
    | some p =>
      cases ho : b.carryOut p.writes p.events d.world.store with
      | mk r left =>
        cases r with
        | error e =>
          refine .failed p e left hk ho ?_ ?_ ?_
          · simp only [step, hk, store, store_execute, ho]
          · simp only [step, hk, recorded, store, ho, List.append_nil]
          · simp only [answer?, hk, answer_execute, ho, Option.map_some]
        | ok u =>
          refine .done p left hk ho ?_ ?_ ?_
          · simp only [step, hk, store, store_execute, ho]
          · simp only [step, hk, recorded, store, ho]
          · simp only [answer?, hk, answer_execute, ho, Option.map_some]

/-- Whatever waits after a step has waited before, or has been planned in it. -/
lemma mem_waiting_step {p : Plan} (h : p ∈ (d.step b s).waiting) :
    p ∈ d.waiting ∨ ∃ o c, s = .read o c ∧ Command.Planned (b.view d.store) o c p := by
  cases s with
  | read o c =>
    simp only [step] at h
    cases hp : c.plan (b.view d.store) o with
    | error stop =>
      rw [hp] at h
      exact .inl h
    | ok q =>
      rw [hp] at h
      rcases List.mem_append.mp h with h | h
      · exact .inl h
      · obtain rfl := List.mem_singleton.mp h
        exact .inr ⟨o, c, rfl, Command.planned_of_plan hp⟩
  | ask q => exact .inl h
  | commit k =>
    simp only [step] at h
    cases hk : d.waiting[k]? with
    | none =>
      rw [hk] at h
      exact .inl h
    | some q =>
      rw [hk] at h
      exact .inl (List.mem_of_mem_eraseIdx h)

lemma mem_of_attempted? {p : Plan} (h : d.attempted? s = some p) : p ∈ d.waiting := by
  cases s with
  | read o c => cases h
  | ask q => cases h
  | commit k => exact List.mem_of_getElem? h

/-- What is true of all plans that wait stays true of them when it is true of those that are planned
anew. -/
lemma forall_waiting_step {W : Plan → Prop} (h : ∀ p ∈ d.waiting, W p)
    (new : ∀ o c p, s = .read o c → Command.Planned (b.view d.store) o c p → W p) :
    ∀ p ∈ (d.step b s).waiting, W p := by
  intro p hp
  rcases mem_waiting_step hp with old | ⟨o, c, hs, planned⟩
  · exact h p old
  · exact new o c p hs planned

/-! ## Runs -/

lemma mem_states_self (b : Backend σ τ) (d : Overlap σ) (steps : List Step) :
    d ∈ d.states b steps := by
  cases steps <;> exact List.mem_cons_self

lemma foldl_step_mem_states (b : Backend σ τ) (d : Overlap σ) (steps : List Step) :
    steps.foldl (step b) d ∈ d.states b steps := by
  induction steps generalizing d with
  | nil => exact List.mem_singleton_self d
  | cons s ss ih => exact List.mem_cons_of_mem _ (ih (d.step b s))

/-- What every step preserves, given what is known of that step, holds in every state of a run. -/
theorem forall_states {P : Overlap σ → Step → Prop} {I : Overlap σ → Prop}
    (preserved : ∀ d s, P d s → I d → I (d.step b s)) {steps : List Step}
    (along : d.Along b P steps) (first : I d) : ∀ x ∈ d.states b steps, I x := by
  induction steps generalizing d with
  | nil =>
    intro x hx
    rw [List.mem_singleton.mp hx]
    exact first
  | cons s ss ih =>
    intro x hx
    rcases List.mem_cons.mp hx with rfl | hx
    · exact first
    · exact ih along.2 (preserved d s along.1 first) x hx

/-- What is true of each step by itself is true along every run of such steps. -/
lemma along_of_forall {P : Step → Prop} {steps : List Step} (h : ∀ s ∈ steps, P s) :
    d.Along b (fun _ s => P s) steps := by
  induction steps generalizing d with
  | nil => trivial
  | cons s ss ih =>
    exact ⟨h s List.mem_cons_self, ih fun x hx => h x (List.mem_cons_of_mem _ hx)⟩

/-- An invariant holds in every state of a run. -/
lemma forall_states_of_step {I : Overlap σ → Prop} (preserved : ∀ d s, I d → I (d.step b s))
    (first : I d) (steps : List Step) : ∀ x ∈ d.states b steps, I x :=
  forall_states (P := fun _ _ => True) (fun d s _ => preserved d s)
    (along_of_forall fun _ _ => trivial) first

/-- What follows for every step, from what is known of it and from what holds in the states before
and after it, is true along a run. -/
theorem Along.of_states {I R : Overlap σ → Prop} {P Q : Overlap σ → Step → Prop}
    (keeps : ∀ d s, I d → I (d.step b s))
    (follows : ∀ d s, I d → R d → R (d.step b s) → P d s → Q d s) {steps : List Step}
    (along : d.Along b P steps) (states : ∀ x ∈ d.states b steps, R x) (first : I d) :
    d.Along b Q steps := by
  induction steps generalizing d with
  | nil => trivial
  | cons s ss ih =>
    have before := states d List.mem_cons_self
    have after := states (d.step b s) (List.mem_cons_of_mem _ (mem_states_self b _ ss))
    refine ⟨follows d s first before after along.1, ?_⟩
    exact ih along.2 (fun x hx => states x (List.mem_cons_of_mem _ hx)) (keeps d s first)

/-! ## The store in memory -/

/-- Nobody has called yet, and the store has nothing in it. -/
def startOn (w : World σ) (s : σ) : Overlap σ := ⟨w.withStore s, [], []⟩

/-- What the store in memory holds. -/
def contents (d : Overlap Memory) : Memory.Contents := d.store.contents

/-- What a step does to the store in memory: nothing, and then a call that commits is told that the
store has failed, or a plan that waits is admitted, and its writes and its events are carried out. -/
lemma memory_step (d : Overlap Memory) (s : Step) :
    ((d.step Memory.backend s).store = d.store ∧ (d.step Memory.backend s).log = d.log ∧
        ∀ p, d.attempted? s = some p →
          d.answer? Memory.backend s = some (.error (.problem (.storage p.operation)))) ∨
      ∃ p devices, d.attempted? s = some p ∧ d.store.vet p.writes p.events = .ok () ∧
        (d.step Memory.backend s).store =
          ⟨{ d.contents.writeAll p.writes with
              devices := devices
              events := Memory.withEvents d.contents.events p.events }, d.store.crashed⟩ ∧
        (d.step Memory.backend s).log = d.log ++ p.events ∧
        d.answer? Memory.backend s = some (.ok p.product) := by
  cases stepCases Memory.backend d s with
  | quiet attempts store log =>
    refine .inl ⟨store, log, fun p hp => ?_⟩
    rw [attempts] at hp
    cases hp
  | failed p e left attempts outcome store log answer =>
    left
    rw [Memory.carryOut_eq] at outcome
    cases hv : d.store.vet p.writes p.events with
    | ok u => simp [hv] at outcome
    | error e' =>
      rw [hv] at outcome
      refine ⟨by rw [store, ← (Prod.mk.inj outcome).2], log, fun q hq => ?_⟩
      rw [attempts] at hq
      rw [answer, Option.some.inj hq]
  | done p left attempts outcome store log answer =>
    right
    rw [Memory.carryOut_eq] at outcome
    cases hv : d.store.vet p.writes p.events with
    | error e' => simp [hv] at outcome
    | ok u =>
      rw [hv] at outcome
      obtain ⟨devices, hd⟩ := left.forgetting_eq p.forget
      have same : forgetting Memory.backend left p.forget = left.forgetting p.forget := by
        cases p.forget <;> rfl
      refine ⟨p, devices, attempts, hv, ?_, log, answer⟩
      rw [store, same, hd, ← (Prod.mk.inj outcome).2, Memory.Contents.applyAll_changesOf]
      rfl

/-- The calls on the store in memory, without the log. -/
def interleaved (d : Overlap Memory) : Interleaved := ⟨d.world, d.waiting⟩

/-- The same step, unless it is a query. -/
def Step.interleaved? : Step → Option Interleaved.Step
  | .read o c => some (.read o c)
  | .ask _ => none
  | .commit k => some (.commit k)

/-- **On the store in memory calls overlap as they interleave.** -/
theorem interleaved_step (d : Overlap Memory) {s : Step} {s' : Interleaved.Step}
    (h : s.interleaved? = some s') :
    (d.step Memory.backend s).interleaved = d.interleaved.step s' := by
  cases s with
  | read o c =>
    cases h
    simp only [step, Interleaved.step]
    show _ = match c.plan d.world.store.view o with
      | .error stop => _
      | .ok p => _
    have same : Memory.backend.view d.store = d.world.store.view := rfl
    rw [same]
    cases c.plan d.world.store.view o <;> rfl
  | ask q => cases h
  | commit k =>
    cases h
    show _ = match d.waiting[k]? with
      | none => _
      | some p => _
    simp only [step]
    cases d.waiting[k]? <;> rfl

/-! ## Samples -/

/-- A world with a queue that takes everything. -/
def sampleWorld (s : σ) : World σ :=
  ⟨s, .queue [] none, default, Interleaved.sampleOccasion 0, []⟩

end Overlap

end CommonPurse
