import CommonPurse.Proofs.Service.Perform

/-!
# Calls that interleave

A call of a command is carried out in two steps: it reads and is planned, and later its unit of
work is committed with all that follows. In between the steps of other calls may come, so a plan
can be out of date when it is committed.

## Main definitions

* `CommonPurse.Interleaved` — a shared world, and the plans that wait for their commits.
* `CommonPurse.Interleaved.step`, `CommonPurse.Interleaved.states` — single steps, and the states
  of a run.
* `CommonPurse.Interleaved.committing?` — the plan that a step commits.

## Main results

* `CommonPurse.Interleaved.step_read_commit` — two steps that follow one another are a call.
* `CommonPurse.Interleaved.contents_step` — what a step does to the contents.
* `CommonPurse.Interleaved.Planned.step` — what waits are plans of commands.
-/

namespace CommonPurse

open CommonPurse.Store

/-! ## Steps -/

/-- Calls that interleave: the world that they share, and the plans of the calls that have read and
have not committed. -/
structure Interleaved where
  world : World Memory
  waiting : List Plan

namespace Interleaved

/-- One step: a call reads on some occasion, or one of the waiting calls commits. -/
inductive Step where
  | read (o : Occasion) (c : Command)
  | commit (k : Nat)

/-- What is stored. -/
def contents (d : Interleaved) : Memory.Contents := d.world.store.contents

/-- Take a step. A call that is refused when it reads is over. -/
def step (d : Interleaved) : Step → Interleaved
  | .read o c =>
    match c.plan d.world.store.view o with
    | .error stop => { d with world := d.world.say stop.log }
    | .ok p => { d with waiting := d.waiting ++ [p] }
  | .commit k =>
    match d.waiting[k]? with
    | none => d
    | some p => ⟨(World.execute Memory.backend p d.world).2, d.waiting.eraseIdx k⟩

/-- The states that steps lead through, from the first to the last. -/
def states (d : Interleaved) : List Step → List Interleaved
  | [] => [d]
  | s :: ss => d :: (d.step s).states ss

/-- Nobody has called yet, and nothing is stored. -/
def start (w : World Memory) (crashed : List Repository) : Interleaved :=
  ⟨w.withStore (.empty crashed), []⟩

/-! ## Commits -/

lemma store_execute (p : Plan) (w : World Memory) :
    (World.execute Memory.backend p w).2.store =
      match w.store.vet p.writes p.events with
      | .error _ => w.store
      | .ok () => (w.committed p).store.forgetting p.forget := by
  simp only [World.execute, Memory.carryOut_eq]
  cases w.store.vet p.writes p.events with
  | error e => rfl
  | ok u =>
    simp only [World.forget_eq]
    obtain ⟨bus, trace, h⟩ := World.announce_eq p.operation p.events (w.committed p)
    rw [World.committed] at h
    rw [h]
    rfl

/-- Two steps of a call that follow one another leave the store as the call does. -/
theorem step_read_commit (w : World Memory) (o : Occasion) (c : Command) :
    (((⟨w, []⟩ : Interleaved).step (.read o c)).step (.commit 0)).world.store =
      (({ w with occasion := o } : World Memory).perform Memory.backend c).2.store := by
  rw [World.store_perform, Memory.accepted?]
  cases hp : c.plan w.store.view o with
  | error stop => simp only [step, hp, List.getElem?_nil]; rfl
  | ok p =>
    simp only [step, hp, List.nil_append, List.getElem?_cons_zero, store_execute]
    cases w.store.vet p.writes p.events <;> rfl

/-- The plan that a step commits: the step is a commit, and the unit of work is admitted. -/
def committing? (d : Interleaved) : Step → Option Plan
  | .read _ _ => none
  | .commit k =>
    match d.waiting[k]? with
    | none => none
    | some p =>
      match d.world.store.vet p.writes p.events with
      | .error _ => none
      | .ok () => some p

lemma mem_of_committing? {d : Interleaved} {s : Step} {p : Plan} (h : d.committing? s = some p) :
    p ∈ d.waiting := by
  cases s with
  | read o c => cases h
  | commit k =>
    simp only [committing?] at h
    split at h
    · cases h
    · next q hq =>
      split at h
      · cases h
      · cases h
        exact List.mem_of_getElem? hq

/-- Log records and devices apart, a step carries out the writes of the plan that it commits. -/
lemma contents_step (d : Interleaved) (s : Step) :
    ∃ devices events, (d.step s).contents =
      { d.contents.writeAll (((d.committing? s).map (·.writes)).getD []) with
        devices := devices, events := events } := by
  cases s with
  | read o c =>
    refine ⟨d.contents.devices, d.contents.events, ?_⟩
    simp only [step]
    split <;> rfl
  | commit k =>
    simp only [step, committing?]
    cases d.waiting[k]? with
    | none => exact ⟨d.contents.devices, d.contents.events, rfl⟩
    | some p =>
      simp only [contents, store_execute]
      cases d.world.store.vet p.writes p.events with
      | error e => exact ⟨d.contents.devices, d.contents.events, rfl⟩
      | ok u =>
        obtain ⟨devices, hd⟩ := d.world.contents_committed_forgetting p
        exact ⟨devices, _, hd⟩

/-! ## What waits -/

/-- Every plan that waits is the plan of some command on what some store has shown. -/
def Planned (d : Interleaved) : Prop :=
  ∀ p ∈ d.waiting, ∃ v o c, Command.Planned v o c p

lemma planned_start (w : World Memory) (crashed : List Repository) : (start w crashed).Planned :=
  fun _ hp => nomatch hp

/-- Steps keep the plans that wait plans of commands. -/
lemma Planned.step {d : Interleaved} (h : d.Planned) (s : Step) : (d.step s).Planned := by
  intro p hp
  cases s with
  | read o c =>
    simp only [Interleaved.step] at hp
    split at hp
    · exact h p hp
    · next q hq =>
      rcases List.mem_append.mp hp with hp | hp
      · exact h p hp
      · obtain rfl := List.mem_singleton.mp hp
        exact ⟨_, o, c, Command.planned_of_plan hq⟩
  | commit k =>
    simp only [Interleaved.step] at hp
    split at hp
    · exact h p hp
    · exact h p (List.mem_of_mem_eraseIdx hp)

end Interleaved

end CommonPurse
