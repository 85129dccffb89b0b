import CommonPurse.Proofs.Relational.Alike

/-!
# The two stores agree

The same calls, made one after the other, have the same results and leave the same behind on a store
in memory of which nothing is switched off and on a relational store whose tables are all there.
This takes a clock that goes forward from call to call, amounts below `10 ^ 10`, and identifiers
that are not in use when they are drawn.

The clock is what puts the members of a group in order again when they are read from their rows, and
the limit is what lets the column of amounts keep them.

## Main definitions

* `CommonPurse.Call`, `CommonPurse.Call.Result` — calls and what they return.
* `CommonPurse.World.serve`, `CommonPurse.World.serveAll` — one call, and one call after the other.
* `CommonPurse.Call.Increasing`, `CommonPurse.World.Unclaimed` — the clock and the identifiers.

## Main results

* `CommonPurse.World.alike_serve` — one call on both stores.
* `CommonPurse.World.alike_serveAll` — calls on stores that hold the same.
* `CommonPurse.World.serveAll_agrees` — calls on empty stores.
-/

namespace CommonPurse

open CommonPurse.Store CommonPurse.Store.Relational

/-! ## Calls -/

/-- A call of one of the services, or of the dispatcher. -/
inductive Call where
  | perform (command : Command)
  | ask (query : Query)
  | registerDevice (user : Id) (device : String)
  | removeDevice (user : Id)
  | dispatch (event : Id)
  deriving DecidableEq, Repr, Inhabited

/-- What a call returns: an answer or a refusal, nothing, or whether an event was handed on. -/
inductive Call.Result where
  | answered (answer : Except Refusal Product)
  | done
  | dispatched (handed : Except Retry.Fault Bool)

/-- Whether the amounts that a call enters are below the limit. -/
def Call.isModerate : Call → Bool
  | .perform c => c.isModerate
  | _ => true

/-- The clock shows universal time and goes forward from call to call. -/
structure Call.Increasing (calls : List (Occasion × Call)) : Prop where
  sound : ∀ c ∈ calls, c.1.now.Sound
  forward : calls.Pairwise fun a b => a.1.now.wall < b.1.now.wall

namespace World

variable {σ τ : Type}

/-- Carry out a call while nobody else does anything. -/
def serve (b : Backend σ τ) (d : Dispatcher σ) (w : World σ) : Call → Call.Result × World σ
  | .perform c =>
    match w.perform b c with
    | (a, w) => (.answered a, w)
  | .ask q =>
    match w.ask b q with
    | (a, w) => (.answered a, w)
  | .registerDevice user device => (.done, w.registerDevice b user device)
  | .removeDevice user => (.done, w.removeDevice b user)
  | .dispatch i =>
    match d.dispatch b Dispatcher.undisturbed i w with
    | (a, w) => (.dispatched a, w)

/-- Carry out calls, each on its occasion. Of each it is kept what it returns, and the world around
the store behind it: what is published, sent and logged. -/
def serveAll (b : Backend σ τ) (d : Dispatcher σ) (w : World σ) :
    List (Occasion × Call) → List (Call.Result × World Unit) × World σ
  | [] => ([], w)
  | (o, c) :: rest =>
    match serve b d { w with occasion := o } c with
    | (a, w) =>
      match serveAll b d w rest with
      | (results, after) => ((a, w.outside) :: results, after)

/-- Nothing is stored under the identifiers that a call draws. -/
def UnclaimedBy (w : World Memory) : Call → Prop
  | .perform c => ∀ p ∈ (c.plan w.store.view w.occasion).toOption,
      ∀ n < p.drawn, w.store.contents.Unused (w.occasion.ids n)
  | _ => True

/-- Nothing is stored under the identifiers that calls draw, when it is their turn. -/
def Unclaimed (d : Dispatcher Memory) (w : World Memory) : List (Occasion × Call) → Prop
  | [] => True
  | (o, c) :: rest =>
    UnclaimedBy { w with occasion := o } c ∧
      Unclaimed d (serve Memory.backend d { w with occasion := o } c).2 rest

/-! ## One call after the other -/

variable {t : Int} {m : Memory} {r : Relational} {d : Dispatcher Memory}
  {d' : Dispatcher Relational}

/-- **A call on both stores.** -/
theorem alike_serve (h : Matches t m r) (both : d.Alike d') (u : World Unit) {c : Call}
    (clock : u.occasion.now.Sound) (later : t < u.occasion.now.wall)
    (moderate : c.isModerate = true) (unclaimed : (u.around m).UnclaimedBy c) :
    Alike u.occasion.now.wall u.occasion.now ((u.around m).serve Memory.backend d c)
      ((u.around r).serve backend d' c) := by
  have earlier := h.mono (Int.le_of_lt later)
  cases c with
  | perform c =>
    have unused : ∀ p, c.plan m.view u.occasion = .ok p →
        ∀ n < p.drawn, m.contents.Unused (u.occasion.ids n) := by
      intro p hp
      refine unclaimed p ?_
      simp only [store_around, occasion_around, hp]
      rfl
    obtain ⟨a, u', m', r', hm, hr, hu, h'⟩ := alike_perform h u moderate clock later unused
    exact ⟨.answered a, u', m', r', by simp only [serve, hm], by simp only [serve, hr], hu, h'⟩
  | ask q =>
    obtain ⟨a, u', m', r', hm, hr, hu, h'⟩ := alike_ask earlier u q
    exact ⟨.answered a, u', m', r', by simp only [serve, hm], by simp only [serve, hr], hu, h'⟩
  | registerDevice user device =>
    obtain ⟨m', r', hm, hr, h'⟩ := alike_registerDevice earlier u user device
    exact ⟨.done, u, m', r', by rw [serve, hm], by rw [serve, hr], rfl, h'⟩
  | removeDevice user =>
    obtain ⟨m', r', hm, hr, h'⟩ := alike_removeDevice earlier u user
    exact ⟨.done, u, m', r', by rw [serve, hm], by rw [serve, hr], rfl, h'⟩
  | dispatch i =>
    obtain ⟨a, u', m', r', hm, hr, hu, h'⟩ :=
      Dispatcher.alike_dispatch earlier u clock.universal both i
    exact ⟨.dispatched a, u', m', r', by simp only [serve, hm], by simp only [serve, hr], hu, h'⟩

/-- **Calls on stores that hold the same.**

**Proof sketch.** Induction on the calls. Behind each of them the stores hold the same, up to the
time of that call, and the next one comes later. -/
theorem alike_serveAll (h : Matches t m r) (both : d.Alike d') (u : World Unit)
    {calls : List (Occasion × Call)} (clock : Call.Increasing calls)
    (later : ∀ c ∈ calls, t < c.1.now.wall) (moderate : ∀ c ∈ calls, c.2.isModerate = true)
    (unclaimed : Unclaimed d (u.around m) calls) :
    ∃ results u' m' r' t', serveAll Memory.backend d (u.around m) calls = (results, around u' m') ∧
      serveAll backend d' (u.around r) calls = (results, around u' r') ∧ Matches t' m' r' := by
  induction calls generalizing t m r u with
  | nil => exact ⟨[], u, m, r, t, rfl, rfl, h⟩
  | cons call rest ih =>
    obtain ⟨o, c⟩ := call
    obtain ⟨next, forward⟩ := List.pairwise_cons.mp clock.forward
    have onOccasion : ∀ {σ} (s : σ),
        { u.around s with occasion := o } = around { u with occasion := o } s := fun _ => rfl
    simp only [Unclaimed, onOccasion] at unclaimed
    obtain ⟨a, u₁, m₁, r₁, hm, hr, -, h₁⟩ := alike_serve h both { u with occasion := o }
      (clock.sound _ List.mem_cons_self) (later _ List.mem_cons_self)
      (moderate _ List.mem_cons_self) unclaimed.1
    rw [hm] at unclaimed
    obtain ⟨results, u', m', r', t', hm', hr', h'⟩ := ih h₁ u₁
      ⟨fun x hx => clock.sound x (List.mem_cons_of_mem _ hx), forward⟩ next
      (fun x hx => moderate x (List.mem_cons_of_mem _ hx)) unclaimed.2
    refine ⟨(a, u₁) :: results, u', m', r', t', ?_, ?_, h'⟩
    · simp only [serveAll, onOccasion, hm, hm']
      rfl
    · simp only [serveAll, onOccasion, hr, hr']
      rfl

/-- **The two stores agree.** Calls on empty stores return the same, publish, send and log the same,
and leave stores behind that answer all reads alike. -/
theorem serveAll_agrees {d : Dispatcher Memory} {d' : Dispatcher Relational} (both : d.Alike d')
    (u : World Unit) {calls : List (Occasion × Call)} (clock : Call.Increasing calls)
    (moderate : ∀ c ∈ calls, c.2.isModerate = true)
    (unclaimed : Unclaimed d (u.around (Memory.empty [])) calls) :
    let onMemory := (u.around (Memory.empty [])).serveAll Memory.backend d calls
    let onTables := (u.around Relational.empty).serveAll Relational.backend d' calls
    onMemory.1 = onTables.1 ∧
      (Memory.backend.view onMemory.2.store).Agrees (Relational.backend.view onTables.2.store) := by
  intro onMemory onTables
  cases calls with
  | nil => exact ⟨rfl, (matches_empty 0).agrees⟩
  | cons call rest =>
    have later : ∀ c ∈ call :: rest, call.1.now.wall - 1 < c.1.now.wall := by
      intro c hc
      rcases List.mem_cons.mp hc with rfl | hc
      · omega
      · have after := (List.pairwise_cons.mp clock.forward).1 c hc
        omega
    obtain ⟨results, u', m', r', t', hm, hr, h'⟩ :=
      alike_serveAll (matches_empty (call.1.now.wall - 1)) both u clock later moderate unclaimed
    simp only [onMemory, onTables, hm, hr]
    exact ⟨trivial, h'.agrees⟩

/-! ## A run -/

instance (w : World Memory) : (c : Call) → Decidable (w.UnclaimedBy c)
  | .perform c => inferInstanceAs (Decidable
      (∀ p ∈ (c.plan w.store.view w.occasion).toOption,
        ∀ n < p.drawn, w.store.contents.Unused (w.occasion.ids n)))
  | .ask _ => isTrue trivial
  | .registerDevice _ _ => isTrue trivial
  | .removeDevice _ => isTrue trivial
  | .dispatch _ => isTrue trivial

instance decidableUnclaimed (d : Dispatcher Memory) (w : World Memory) :
    (calls : List (Occasion × Call)) → Decidable (Unclaimed d w calls)
  | [] => isTrue trivial
  | (_, _) :: rest => @instDecidableAnd _ _ _ (decidableUnclaimed d _ rest)

/-- A dispatcher with a processor that always fails, and one that tells the members of groups. -/
def notifying (b : Backend σ τ) : Dispatcher σ :=
  ⟨Dispatcher.usualPolicy,
    [.recorder "audit" fun w => (.error "out of order", w), .notifier b], true⟩

lemma alike_notifying : (notifying Memory.backend).Alike (notifying Relational.backend) where
  policy := rfl
  processors := by
    refine .cons (Processor.alike_recorder "audit" ?_) (.cons Processor.alike_notifier .nil)
    exact fun {t m r} h u => ⟨.error "out of order", u, m, r, rfl, rfl, rfl, h⟩

/-- A world with a queue that takes everything. -/
def aroundQueue : World Unit := ⟨(), .queue [] none, default, ⟨.utc 0, .ofNat⟩, []⟩

/-- Somebody founds a group, settles its first expense, and is joined by somebody who has a device.
In the end the event of the settlement is dispatched. -/
def settledAndJoined : List (Occasion × Call) :=
  let occasion (k : Nat) : Occasion := ⟨.utc (k * Timestamp.second), fun n => .ofNat (16 * k + n)⟩
  [(occasion 1, .perform (.register (some "Ada") (some "Ada@mail.org") (some "abc"))),
    (occasion 2, .perform (.register (some "Bob") (some "bob@mail.org") none)),
    (occasion 3, .perform (.createGroup (.ofNat 16) "Trip" none)),
    (occasion 4, .perform (.createExpense (.ofNat 16) (.ofNat 48) "Boat" "30.10")),
    (occasion 5, .perform (.settle (.ofNat 16) (.ofNat 48))),
    (occasion 6, .perform (.joinGroup (.ofNat 32) (.ofNat 48) none)),
    (occasion 7, .registerDevice (.ofNat 32) "phone"),
    (occasion 8, .ask (.group (.ofNat 32) (.ofNat 48))),
    (occasion 9, .dispatch (.ofNat 81))]

/-- The two stores agree about `settledAndJoined`. -/
theorem serveAll_settledAndJoined :
    (notifying Memory.backend).Alike (notifying Relational.backend) ∧
      Call.Increasing settledAndJoined ∧ (∀ c ∈ settledAndJoined, c.2.isModerate = true) ∧
      Unclaimed (notifying Memory.backend) (aroundQueue.around (Memory.empty [])) settledAndJoined ∧
      ((aroundQueue.around (Memory.empty [])).serveAll Memory.backend (notifying Memory.backend)
          settledAndJoined).1 =
        ((aroundQueue.around Relational.empty).serveAll Relational.backend
          (notifying Relational.backend) settledAndJoined).1 := by
  have clock : Call.Increasing settledAndJoined := ⟨by decide, by decide⟩
  have moderate : ∀ c ∈ settledAndJoined, c.2.isModerate = true := by decide
  have unclaimed : Unclaimed (notifying Memory.backend) (aroundQueue.around (Memory.empty []))
      settledAndJoined := by decide +kernel
  exact ⟨alike_notifying, clock, moderate, unclaimed,
    (serveAll_agrees alike_notifying aroundQueue clock moderate unclaimed).1⟩

end World

end CommonPurse
