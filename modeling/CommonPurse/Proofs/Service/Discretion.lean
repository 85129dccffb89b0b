import CommonPurse.Proofs.Command.Related
import CommonPurse.Proofs.Service.Taxonomy

/-!
# What clients are not told about the store

Nothing of an error of the store gets out: when two stores do the same but for the errors that they
raise, every call has the same result in both, and so does every request; only their logs differ. A
call in which a read or the unit of work fails is refused with an internal problem, which tells the
name of the operation.

## Main definitions

* `CommonPurse.World.unlogged` — a world without its log.
* `CommonPurse.World.Indistinct` — outcomes that differ in the log at most.

## Main results

* `CommonPurse.World.indistinct_perform`, `indistinct_ask`, `indistinct_respond` — calls and
  requests end alike.
* `CommonPurse.World.storage_untold` — clients are told the same.
-/

namespace CommonPurse

open CommonPurse.Store

namespace World

variable {σ τ : Type}

/-- A world without its log. -/
def unlogged (w : World σ) : World σ :=
  { w with trace := w.trace.filter fun | .logged _ => false | _ => true }

/-- Two outcomes with one result, and with worlds that differ in the log at most. -/
def Indistinct {α : Type} (x y : α × World σ) : Prop := x.1 = y.1 ∧ x.2.unlogged = y.2.unlogged

lemma Indistinct.refl {α : Type} (x : α × World σ) : Indistinct x x := ⟨rfl, rfl⟩

lemma unlogged_say (w : World σ) (entries : List Log.Entry) :
    (w.say entries).unlogged = w.unlogged := by
  simp [unlogged, say, List.filter_append, List.filter_eq_nil_iff]

lemma unlogged_say_draw (w : World σ) (entries : List Log.Entry) (n : Nat) :
    ((w.say entries).draw n).unlogged = (w.draw n).unlogged :=
  congrArg (draw · n) (unlogged_say w entries)

variable {b b' : Backend σ τ}

lemma removeDevice_of_rewords (h : b.Rewords b') (user : Id) (w : World σ) :
    w.removeDevice b user = w.removeDevice b' user := by
  have removed := h.removeDevice user w.store
  unfold removeDevice
  generalize b.removeDevice user w.store = x at removed ⊢
  generalize b'.removeDevice user w.store = y at removed ⊢
  cases removed <;> rfl

lemma registerDevice_of_rewords (h : b.Rewords b') (user : Id) (device : String) (w : World σ) :
    w.registerDevice b user device = w.registerDevice b' user device := by
  have saved := h.saveDevice user device w.store
  unfold registerDevice
  generalize b.saveDevice user device w.store = x at saved ⊢
  generalize b'.saveDevice user device w.store = y at saved ⊢
  cases saved <;> rfl

/-- Plans are carried out alike. -/
lemma indistinct_execute (h : b.Rewords b') (p : Plan) (w : World σ) (n : Nat) :
    Indistinct ((execute b p w).1, (execute b p w).2.draw n)
      ((execute b' p w).1, (execute b' p w).2.draw n) := by
  have done := h.carryOut p.writes p.events w.store
  unfold execute
  generalize b.carryOut p.writes p.events w.store = x at done ⊢
  generalize b'.carryOut p.writes p.events w.store = y at done ⊢
  cases done with
  | error e e' s => exact ⟨rfl, (unlogged_say_draw ..).trans (unlogged_say_draw ..).symm⟩
  | ok a s =>
    have forgotten (w : World σ) : w.forget b p.forget = w.forget b' p.forget := by
      cases p.forget with
      | none => rfl
      | some user => exact removeDevice_of_rewords h user w
    simp only [forgotten]
    exact .refl _

/-- So are commands. -/
lemma indistinct_perform (h : b.Rewords b') (c : Command) (w : World σ) :
    Indistinct (w.perform b c) (w.perform b' c) := by
  have planned := kept_reworded.plan (h.view w.store) w.occasion c
  unfold perform
  generalize c.plan (b.view w.store) w.occasion = x at planned ⊢
  generalize c.plan (b'.view w.store) w.occasion = y at planned ⊢
  cases planned with
  | unreadable operation e e' => exact ⟨rfl, (unlogged_say ..).trans (unlogged_say ..).symm⟩
  | same x =>
    cases x with
    | error s => exact .refl _
    | ok p => exact indistinct_execute h p w p.drawn

/-- So are queries. -/
lemma indistinct_ask (h : b.Rewords b') (q : Query) (w : World σ) :
    Indistinct (w.ask b q) (w.ask b' q) := by
  have answered := kept_reworded.answer (h.view w.store) q
  unfold ask
  generalize q.answer (b.view w.store) = x at answered ⊢
  generalize q.answer (b'.view w.store) = y at answered ⊢
  cases answered with
  | unreadable operation e e' => exact ⟨rfl, (unlogged_say ..).trans (unlogged_say ..).symm⟩
  | same x => exact .refl _

/-- The result of a call is shown alike. -/
lemma indistinct_present (method path : String) (status : Nat)
    {x y : Except Refusal Product × World σ} (h : Indistinct x y) :
    Indistinct (Http.present method path status x.1 x.2)
      (Http.present method path status y.1 y.2) := by
  obtain ⟨r, w⟩ := x
  obtain ⟨r', w'⟩ := y
  obtain ⟨rfl, worlds⟩ := h
  cases r with
  | ok p => exact ⟨rfl, worlds⟩
  | error e => exact ⟨rfl, (unlogged_say ..).trans (worlds.trans (unlogged_say ..).symm)⟩

/-- Requests are responded to alike. -/
lemma indistinct_respond (h : b.Rewords b') (service : String) (r : Http.Request) (w : World σ) :
    Indistinct (Http.respond b service r w) (Http.respond b' service r w) := by
  unfold Http.respond
  dsimp only
  split
  · exact .refl _
  · exact .refl _
  · exact .refl _
  split
  · exact .refl _
  · exact .refl _
  next a filled =>
    cases a with
    | live => exact .refl _
    | ready =>
      have probed := (h.view w.store).user Http.probe
      unfold Http.act Http.checkReady
      dsimp only
      generalize (b.view w.store).user Http.probe = x at probed ⊢
      generalize (b'.view w.store).user Http.probe = y at probed ⊢
      cases probed <;> exact .refl _
    | command c => exact indistinct_present _ _ _ (indistinct_perform h c w)
    | query q => exact indistinct_present _ _ _ (indistinct_ask h q w)
    | registerDevice user device =>
      exact ⟨rfl, congrArg unlogged (registerDevice_of_rewords h user device w)⟩
    | removeDevice user => exact ⟨rfl, congrArg unlogged (removeDevice_of_rewords h user w)⟩

/-- **Clients are not told about the store.** Stores that raise other errors at the same points lead
to the same results, the same responses and, but for the log, the same world. A read that fails in
the course of a call makes it an internal problem, and so does an error that is raised in a unit of
work; only the device of a user may stay where it is without anybody being told.

**Proof sketch.** A call is decided step by step on what is read, and no step looks at an error, so
that any relation which steps keep carries over from reads to plans. A unit of work hands the first
error on, or the one of the rollback, and what becomes of it is the name of the operation. -/
theorem storage_untold (b : Backend σ τ) (w : World σ) :
    (∀ b', b.Rewords b' →
      (∀ c, Indistinct (w.perform b c) (w.perform b' c)) ∧
      (∀ q, Indistinct (w.ask b q) (w.ask b' q)) ∧
      (∀ user, w.removeDevice b user = w.removeDevice b' user) ∧
      ∀ service r, Indistinct (Http.respond b service r w) (Http.respond b' service r w)) ∧
    (∀ b' : Backend σ τ, (b.view w.store).Related Interrupted (b'.view w.store) →
      (∀ c, c.plan (b'.view w.store) w.occasion = c.plan (b.view w.store) w.occasion ∨
        ∃ operation, (w.perform b' c).1 = .error (.problem (.storage operation))) ∧
      ∀ q, w.ask b' q = w.ask b q ∨
        ∃ operation, (w.ask b' q).1 = .error (.problem (.storage operation))) ∧
    ∀ c p, c.plan (b.view w.store) w.occasion = .ok p →
      (w.perform b c).1 =
        if b.raised p.writes p.events w.store = [] then .ok p.product
        else .error (.problem (.storage p.operation)) := by
  refine ⟨fun b' h => ⟨fun c => indistinct_perform h c w, fun q => indistinct_ask h q w,
    fun user => removeDevice_of_rewords h user w,
    fun service r => indistinct_respond h service r w⟩,
    fun b' h => ⟨fun c => ?_, fun q => ?_⟩, fun c p planned => ?_⟩
  · have planned := kept_interrupted.plan h w.occasion c
    unfold perform
    generalize c.plan (b'.view w.store) w.occasion = y at planned ⊢
    cases planned with
    | same => exact .inl rfl
    | unreadable operation e => exact .inr ⟨operation, rfl⟩
  · have answered := kept_interrupted.answer h q
    unfold ask
    generalize q.answer (b'.view w.store) = y at answered ⊢
    cases answered with
    | same => exact .inl rfl
    | unreadable operation e => exact .inr ⟨operation, rfl⟩
  · have raised := b.raised_eq_nil_iff p.writes p.events w.store
    rw [perform, planned]
    dsimp only [execute]
    rcases done : b.carryOut p.writes p.events w.store with ⟨e | _, s⟩
    · rw [if_neg (by simp [raised, done])]
    · rw [if_pos (by simp [raised, done])]

end World

/-! ### A store that says much about its errors -/

/-- An error that tells where the data is. -/
def sampleFault : Error := ⟨.fetch, "cannot open /var/lib/purse/data.db", [("errno", .integer 5)]⟩

/-- An expense that is entered while expenses are switched off. -/
def sampleEntry : Command := .createExpense (.ofNat 16) (.ofNat 32) "Milk" "2.50"

/-- A settlement is stopped by a read, and its end is the same in other words. An expense is planned
and refused, since its unit of work raises an error. -/
theorem storage_untold_sampleDark :
    (Http.sampleDark.perform (Memory.backend.reworded fun _ => sampleFault)
        (.settle (.ofNat 16) (.ofNat 32))).1 = .error (.problem (.storage "settle")) ∧
      (Http.respond (Memory.backend.reworded fun _ => sampleFault) "purse" Http.sampleRequest
        Http.sampleDark).1 =
      (Http.respond Memory.backend "purse" Http.sampleRequest Http.sampleDark).1 ∧
      ∃ p, sampleEntry.plan (Memory.backend.view Http.sampleDark.store) Http.sampleDark.occasion =
          .ok p ∧
        (Http.sampleDark.perform Memory.backend sampleEntry).1 =
          .error (.problem (.storage p.operation)) := by
  have alike := (World.storage_untold Memory.backend Http.sampleDark).1 _
    (Backend.rewords_reworded (fun _ => sampleFault) Memory.backend)
  have settled : (Http.sampleDark.perform Memory.backend (.settle (.ofNat 16) (.ofNat 32))).1 =
      .error (.problem (.storage "settle")) := rfl
  refine ⟨(alike.1 _).1.symm.trans settled, (alike.2.2.2 "purse" Http.sampleRequest).1.symm, ?_⟩
  have fails : (match sampleEntry.plan (Memory.backend.view Http.sampleDark.store)
      Http.sampleDark.occasion with
    | .ok p => (Memory.backend.raised p.writes p.events Http.sampleDark.store).isEmpty
    | .error _ => true) = false := by
    decide +kernel
  cases planned : sampleEntry.plan (Memory.backend.view Http.sampleDark.store)
      Http.sampleDark.occasion with
  | error s => simp [planned] at fails
  | ok p =>
    refine ⟨p, rfl, ?_⟩
    rw [(World.storage_untold Memory.backend Http.sampleDark).2.2 _ p planned, if_neg]
    intro none
    simp [planned, none] at fails

end CommonPurse
