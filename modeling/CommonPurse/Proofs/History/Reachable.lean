import CommonPurse.Proofs.Concurrency.Overlap
import CommonPurse.Proofs.History.Run

/-!
# The states that the store in memory comes to

Units of work that commands have planned are carried out one after the other, each on whatever the
store holds by then: a command may have been planned on what the store showed in another state.
Collections are switched off and on, devices come and go, and events are marked as processed.

## Main definitions

* `CommonPurse.Store.Memory.Reachable` — the states that the store comes to.

## Main results

* `CommonPurse.Store.Memory.Reachable.invariant` — what planned writes keep holds in all of them.
* `CommonPurse.Store.Memory.Reachable.orderly` — in all of them the contents are in order.
* `CommonPurse.World.reachable_perform`, `reachable_run` — calls lead from one to another.
* `CommonPurse.Overlap.reachable_states` — so do calls that overlap.
-/

namespace CommonPurse

open CommonPurse.Store

namespace Store.Memory

/-- The states that the store in memory comes to. The clock of the calls shows universal time. -/
inductive Reachable : Memory → Prop
  | empty (crashed : List Repository) : Reachable (.empty crashed)
  | carryOut {m seen : Memory} {o : Occasion} {c : Command} {p : Plan} (before : Reachable m)
      (shown : Reachable seen) (clock : o.now.offset = some 0)
      (planned : Command.Planned seen.view o c p) :
      Reachable (backend.carryOut p.writes p.events m).2
  | setCrashed {m : Memory} (before : Reachable m) (r : Repository) (off : Bool) :
      Reachable (m.setCrashed r off)
  | saveDevice {m : Memory} (before : Reachable m) (user : Id) (device : String) :
      Reachable (m.saveDevice user device).2
  | removeDevice {m : Memory} (before : Reachable m) (user : Id) :
      Reachable (m.removeDevice user).2
  | markProcessed {m : Memory} (before : Reachable m) (event : Id) (now : Timestamp) :
      Reachable (m.markProcessed event now).2

/-! ## Invariants -/

lemma contents_setCrashed (m : Memory) (r : Repository) (off : Bool) :
    (m.setCrashed r off).contents = m.contents := by
  unfold setCrashed
  split <;> rfl

/-- What a unit of work leaves in the store: everything as it was, or its writes and the records of
its events. -/
lemma contents_carryOut (m : Memory) (writes : List Write) (events : List Event) :
    (backend.carryOut writes events m).2.contents = m.contents ∨
      (backend.carryOut writes events m).2.contents =
        { m.contents.writeAll writes with events := withEvents m.contents.events events } := by
  rw [carryOut_eq]
  cases m.vet writes events with
  | error e => exact .inl rfl
  | ok u => exact .inr (Contents.applyAll_changesOf ..)

/-- **What planned writes keep holds of every state that the store comes to**, if it holds of
nothing and has nothing to do with devices and with the log. -/
theorem Reachable.invariant {P : Contents → Prop} (start : P .empty)
    (aside : ∀ c devices events, P c → P { c with devices := devices, events := events })
    (kept : ∀ {m seen : Memory} {o : Occasion} {c : Command} {p : Plan}, P m.contents →
      P seen.contents → o.now.offset = some 0 → Command.Planned seen.view o c p →
        P (m.contents.writeAll p.writes))
    {m : Memory} (h : m.Reachable) : P m.contents := by
  induction h with
  | empty crashed => exact start
  | @carryOut m seen o c p before shown clock planned ihb ihs =>
    rcases m.contents_carryOut p.writes p.events with same | changed
    · exact same ▸ ihb
    · rw [changed]
      exact aside _ (m.contents.writeAll p.writes).devices _ (kept ihb ihs clock planned)
  | @setCrashed m before r off ih =>
    rw [contents_setCrashed]
    exact ih
  | @saveDevice m before user device ih =>
    unfold Memory.saveDevice
    split
    · exact ih
    · exact aside _ _ m.contents.events ih
  | @removeDevice m before user ih =>
    unfold Memory.removeDevice
    split
    · exact ih
    · exact aside _ _ m.contents.events ih
  | @markProcessed m before event now ih =>
    unfold Memory.markProcessed
    split
    · exact ih
    · split
      · exact ih
      · exact aside _ m.contents.devices _ ih

/-- **The contents are in order in every state that the store comes to.** -/
theorem Reachable.orderly {m : Memory} (h : m.Reachable) : m.contents.Orderly :=
  h.invariant Contents.orderly_empty (fun _ _ _ ho => { ho with })
    fun hm hseen _ planned => hm.writeAll (planned.proper hseen)

end Store.Memory

/-! ## Calls -/

namespace World

/-- Carrying out a command leads from one of these states to another. -/
lemma reachable_perform {w : World Memory} (h : w.store.Reachable)
    (clock : w.occasion.now.offset = some 0) (c : Command) :
    (w.perform Memory.backend c).2.store.Reachable := by
  rw [store_perform]
  cases ha : w.store.accepted? w.occasion c with
  | none => exact h
  | some p =>
    obtain ⟨planned, admitted⟩ := (Memory.accepted?_eq_some_iff ..).mp ha
    have done : (w.committed p).store.Reachable := by
      have carried := Memory.Reachable.carryOut h h clock planned
      rw [Memory.carryOut_eq, admitted] at carried
      exact carried
    show ((w.committed p).store.forgetting p.forget).Reachable
    cases p.forget with
    | none => exact done
    | some user => exact done.removeDevice user

/-- A move leads from one of these states to another. -/
lemma reachable_move {w : World Memory} (h : w.store.Reachable) {m : Move}
    (clock : ∀ o c, m = .call o c → o.now.offset = some 0) : (w.move m).store.Reachable := by
  cases m with
  | call o c => exact reachable_perform (w := { w with occasion := o }) h (clock o c rfl) c
  | ask o q =>
    simp only [move, World.ask]
    split <;> exact h
  | switch r off => exact h.setCrashed r off

/-- **So does a run.** -/
theorem reachable_run {w : World Memory} (h : w.store.Reachable) {ms : List Move}
    (clock : ∀ o c, .call o c ∈ ms → o.now.offset = some 0) : (w.run ms).store.Reachable := by
  induction ms generalizing w with
  | nil => exact h
  | cons m ms ih =>
    have first := reachable_move h fun o c hm => clock o c (hm ▸ List.mem_cons_self)
    exact ih first fun o c hm => clock o c (List.mem_cons_of_mem _ hm)

end World

/-! ## Calls that overlap -/

namespace Overlap

/-- The store is in one of these states, and so it was when the plans that wait were made. -/
structure Reached (d : Overlap Memory) : Prop where
  store : d.store.Reachable
  waiting : ∀ p ∈ d.waiting, ∃ (seen : Memory) (o : Occasion) (c : Command),
    seen.Reachable ∧ o.now.offset = some 0 ∧ Command.Planned seen.view o c p

/-- A command that is called at a step reads a clock that shows universal time. -/
def Step.Universal : Step → Prop
  | .read o _ => o.now.offset = some 0
  | .ask _ => True
  | .commit _ => True

lemma Reached.step {d : Overlap Memory} {s : Step} (h : d.Reached) (clock : s.Universal) :
    (d.step Memory.backend s).Reached where
  store := by
    cases stepCases Memory.backend d s with
    | quiet attempts store log => exact store ▸ h.store
    | failed p e left attempts outcome store log answer =>
      obtain ⟨seen, o, c, shown, now, planned⟩ := h.waiting p (mem_of_attempted? attempts)
      have carried := h.store.carryOut shown now planned
      rw [outcome] at carried
      exact store ▸ carried
    | done p left attempts outcome store log answer =>
      obtain ⟨seen, o, c, shown, now, planned⟩ := h.waiting p (mem_of_attempted? attempts)
      have carried := h.store.carryOut shown now planned
      rw [outcome] at carried
      rw [store]
      cases p.forget with
      | none => exact carried
      | some user => exact carried.removeDevice user
  waiting := by
    refine forall_waiting_step h.waiting fun o c p hs planned => ?_
    subst hs
    exact ⟨d.store, o, c, h.store, clock, planned⟩

/-- **Every state of calls that overlap is one that the store comes to.** -/
theorem reachable_states {w : World Memory} {m : Memory} (h : m.Reachable) {steps : List Step}
    (clock : ∀ s ∈ steps, s.Universal) :
    ∀ d ∈ (startOn w m).states Memory.backend steps, d.store.Reachable := by
  have first : (startOn w m).Reached := ⟨h, fun p hp => nomatch hp⟩
  intro d hd
  exact (forall_states (P := fun _ s => s.Universal) (fun _ _ universal reached =>
    reached.step universal) (along_of_forall clock) first d hd).store

end Overlap

end CommonPurse
