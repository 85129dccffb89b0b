import CommonPurse.Proofs.Command.Planned
import CommonPurse.Proofs.Store.UnitOfWork
import CommonPurse.Service

/-!
# Commands on the store in memory

What carrying out a command comes to when the store is the one in memory: the command is planned on
what the store shows, its unit of work is admitted, it is committed, and then the rest follows.

## Main definitions

* `CommonPurse.Store.Memory.forgetting` — the store when the device of a user has been forgotten.
* `CommonPurse.Store.Memory.accepted?` — the plan that is committed for a command, if one is.
* `CommonPurse.World.committed` — the world when the unit of work of a plan has been committed.
* `CommonPurse.World.concluded` — the world when a plan has been carried out to its end.

## Main results

* `CommonPurse.World.perform_eq` — a command on the store in memory, written out.
* `CommonPurse.World.store_perform` — the store that a command leaves behind.
-/

namespace CommonPurse

open CommonPurse.Store

/-! ## Forgetting a device -/

namespace Store.Memory

/-- The store when the device of a user, if any, has been forgotten. -/
def forgetting (m : Memory) : Option Id → Memory
  | some user => (m.removeDevice user).2
  | none => m

/-- What is noted when a device is to be forgotten: something only when that fails. -/
def forgettingNotes (m : Memory) : Option Id → List Log.Entry
  | some user =>
    if m.isCrashed .devices then
      [.error "Failed to remove device" [("user_id", .text user.text)]]
    else []
  | none => []

/-- Forgetting a device changes nothing but the devices. -/
lemma forgetting_eq (m : Memory) (user : Option Id) :
    ∃ devices,
      m.forgetting user = { m with contents := { m.contents with devices := devices } } := by
  cases user with
  | none => exact ⟨m.contents.devices, rfl⟩
  | some i =>
    by_cases hc : m.isCrashed .devices = true
    · exact ⟨m.contents.devices, by simp [forgetting, removeDevice, hc]⟩
    · exact ⟨m.contents.devices.erase i, by simp [forgetting, removeDevice, hc]⟩

/-! ## What is committed for a command -/

/-- The plan that is committed for a command: the command is not refused, and its unit of work is
admitted. -/
def accepted? (m : Memory) (o : Occasion) (c : Command) : Option Plan :=
  match c.plan m.view o with
  | .error _ => none
  | .ok p =>
    match m.vet p.writes p.events with
    | .error _ => none
    | .ok () => some p

lemma accepted?_eq_some_iff (m : Memory) (o : Occasion) (c : Command) (p : Plan) :
    m.accepted? o c = some p ↔
      Command.Planned m.view o c p ∧ m.vet p.writes p.events = .ok () := by
  rw [← Command.plan_eq_ok_iff]
  unfold accepted?
  cases c.plan m.view o with
  | error stop => simp
  | ok q =>
    simp only [Except.ok.injEq]
    constructor
    · intro h
      cases ha : m.vet q.writes q.events with
      | error e => simp [ha] at h
      | ok u =>
        simp only [ha, Option.some.injEq] at h
        exact ⟨h, h ▸ ha⟩
    · rintro ⟨rfl, ha⟩
      rw [ha]

end Store.Memory

namespace World

/-- Forgetting a device in the world. -/
lemma forget_eq (user : Option Id) (w : World Memory) :
    w.forget Memory.backend user =
      (w.withStore (w.store.forgetting user)).say (w.store.forgettingNotes user) := by
  cases user with
  | none => simp [forget, Memory.forgetting, Memory.forgettingNotes, withStore, say]
  | some i =>
    have hb : Memory.backend.removeDevice i w.store = w.store.removeDevice i := rfl
    simp only [forget, removeDevice, hb, Memory.forgetting, Memory.forgettingNotes]
    cases hc : w.store.isCrashed .devices <;>
      simp [Memory.removeDevice, hc, withStore, say]

/-- Announcing events changes the bus and the trace. -/
lemma announce_eq (operation : String) (events : List Event) (w : World Memory) :
    ∃ bus trace, w.announce operation events = { w with bus := bus, trace := trace } := by
  unfold announce
  split
  · exact ⟨w.bus, w.trace, rfl⟩
  · exact ⟨_, _, rfl⟩

/-! ## Carrying out a command -/

/-- The world when the unit of work of a plan has been committed, and nothing else. -/
def committed (p : Plan) (w : World Memory) : World Memory :=
  w.withStore { w.store with
    contents := w.store.contents.applyAll (Memory.changesOf p.writes p.events) }

/-- What is stored when a plan has been carried out: its writes are, the log has gained the records
of its events, and something may have become of a device. -/
lemma contents_committed_forgetting (p : Plan) (w : World Memory) :
    ∃ devices, ((w.committed p).store.forgetting p.forget).contents =
      { w.store.contents.writeAll p.writes with
        devices := devices, events := Memory.withEvents w.store.contents.events p.events } := by
  have hm : (w.committed p).store.contents = { w.store.contents.writeAll p.writes with
      events := Memory.withEvents w.store.contents.events p.events } :=
    Memory.Contents.applyAll_changesOf ..
  obtain ⟨devices, hd⟩ := (w.committed p).store.forgetting_eq p.forget
  refine ⟨devices, ?_⟩
  rw [hd]
  simp only [hm]

/-- The world when a plan has been carried out: after the commit the events are announced, the
device is forgotten, and notes are taken. -/
def concluded (p : Plan) (w : World Memory) : World Memory :=
  (((((w.committed p).announce p.operation p.events).forget Memory.backend p.forget).say
    p.notices).draw p.drawn)

/-- A command on the store in memory: it is planned, its unit of work is admitted, and then
everything is carried out. -/
theorem perform_eq (c : Command) (w : World Memory) :
    w.perform Memory.backend c =
      match c.plan w.store.view w.occasion with
      | .error stop => (.error stop.refusal, w.say stop.log)
      | .ok p =>
        match w.store.vet p.writes p.events with
        | .error e =>
          (.error (.problem (.storage p.operation)),
            (w.say [storageEntry "Unit of work failed" p.operation e]).draw p.drawn)
        | .ok () => (.ok p.product, w.concluded p) := by
  have hv : Memory.backend.view w.store = w.store.view := rfl
  simp only [perform, hv]
  cases c.plan w.store.view w.occasion with
  | error stop => rfl
  | ok p =>
    simp only [execute, Memory.carryOut_eq]
    cases w.store.vet p.writes p.events <;> rfl

/-- The store that a command leaves behind: its unit of work is committed, if it comes to that, and
then at most a device is forgotten. -/
lemma store_perform (c : Command) (w : World Memory) :
    (w.perform Memory.backend c).2.store =
      match w.store.accepted? w.occasion c with
      | some p => (w.committed p).store.forgetting p.forget
      | none => w.store := by
  rw [perform_eq, Memory.accepted?]
  cases c.plan w.store.view w.occasion with
  | error stop => rfl
  | ok p =>
    cases ha : w.store.vet p.writes p.events with
    | error e => simp only [ha]; rfl
    | ok u =>
      simp only [ha, concluded, forget_eq]
      obtain ⟨bus, trace, h⟩ := announce_eq p.operation p.events (w.committed p)
      rw [h]
      rfl

/-- A call that returns has planned, has been admitted, and has been concluded. -/
lemma perform_eq_ok_iff (c : Command) (w w' : World Memory) (a : Product) :
    w.perform Memory.backend c = (.ok a, w') ↔
      ∃ p, Command.Planned w.store.view w.occasion c p ∧
        w.store.vet p.writes p.events = .ok () ∧ a = p.product ∧ w' = w.concluded p := by
  rw [perform_eq]
  constructor
  · intro h
    cases hp : c.plan w.store.view w.occasion with
    | error stop => simp [hp] at h
    | ok p =>
      simp only [hp] at h
      cases ha : w.store.vet p.writes p.events with
      | error e => simp [ha] at h
      | ok u =>
        simp only [ha, Prod.mk.injEq, Except.ok.injEq] at h
        exact ⟨p, Command.planned_of_plan hp, ha, h.1.symm, h.2.symm⟩
  · rintro ⟨p, hp, ha, rfl, rfl⟩
    simp only [Command.plan_of_planned hp, ha]

end World

end CommonPurse
