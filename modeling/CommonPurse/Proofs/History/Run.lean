import CommonPurse.Proofs.Service.Perform
import CommonPurse.Proofs.Store.Orderly

/-!
# Runs of calls

Calls that follow one another on one store in memory, with collections being switched off and on
in between. The events that the calls commit are the history of the run, and the log holds their
records in the same order.

## Main definitions

* `CommonPurse.World.Move` — a call of a command or of a query, or a switch.
* `CommonPurse.World.run` — a run of moves.
* `CommonPurse.World.history` — the events that are committed in a run.

## Main results

* `CommonPurse.World.move_cases` — what a single move can do to the contents.
* `CommonPurse.World.rows_run` — the log of a run holds the records of its history.
-/

namespace CommonPurse

open CommonPurse.Store

namespace World

/-! ## Moves -/

/-- One step of a run: a command or a query is called on some occasion, or a collection is switched
off or on. -/
inductive Move where
  | call (o : Occasion) (c : Command)
  | ask (o : Occasion) (q : Query)
  | switch (r : Repository) (off : Bool)

/-- Make a move. -/
def move (w : World Memory) : Move → World Memory
  | .call o c => (({ w with occasion := o } : World Memory).perform Memory.backend c).2
  | .ask o q => (({ w with occasion := o } : World Memory).ask Memory.backend q).2
  | .switch r off => w.withStore (w.store.setCrashed r off)

/-- Make moves one after the other. -/
def run (w : World Memory) (moves : List Move) : World Memory := moves.foldl move w

/-- The events that a move commits. -/
def recorded (w : World Memory) : Move → List Event
  | .call o c => ((w.store.accepted? o c).map (·.events)).getD []
  | .ask _ _ => []
  | .switch _ _ => []

/-- The events that are committed in a run, in the order of their commits. -/
def history (w : World Memory) : List Move → List Event
  | [] => []
  | m :: ms => w.recorded m ++ (w.move m).history ms

@[simp] lemma run_cons (w : World Memory) (m : Move) (ms : List Move) :
    w.run (m :: ms) = (w.move m).run ms := rfl

/-! ## One move -/

/-- The contents that an accepted plan with one event leaves behind, whatever becomes of a
device. -/
lemma contents_perform {w : World Memory} {c : Command} {p : Plan} {e : Event}
    (h : w.store.accepted? w.occasion c = some p) (he : p.events = [e]) :
    ∃ devices, (w.perform Memory.backend c).2.store.contents =
      { w.store.contents.writeAll p.writes with
        devices := devices, events := w.store.contents.events.put e.id (Memory.recordOf e) } := by
  obtain ⟨devices, hd⟩ := w.contents_committed_forgetting p
  refine ⟨devices, ?_⟩
  rw [store_perform, h]
  simp only [hd, he]
  rfl

/-- A command that is not accepted leaves the contents as they are. -/
lemma contents_move_of_not_accepted {w : World Memory} {o : Occasion} {c : Command}
    (h : w.store.accepted? o c = none) :
    (w.move (.call o c)).store.contents = w.store.contents := by
  rw [move, store_perform]
  simp only [h]

/-- A command that is accepted commits its plan together with one new event. -/
lemma contents_move_of_accepted {w : World Memory} {o : Occasion} {c : Command} {p : Plan}
    (h : w.store.accepted? o c = some p) :
    ∃ e devices, Command.Planned w.store.view o c p ∧ p.events = [e] ∧
      w.store.contents.events.get? e.id = none ∧
      (w.move (.call o c)).store.contents = { w.store.contents.writeAll p.writes with
        devices := devices, events := w.store.contents.events.put e.id (Memory.recordOf e) } := by
  obtain ⟨hp, ha⟩ := (Memory.accepted?_eq_some_iff ..).mp h
  obtain ⟨e, he, -⟩ := hp.events_eq_singleton
  obtain ⟨-, -, hnew⟩ := (Memory.vet_eq_ok_iff ..).mp ha
  have hget := ((Memory.checkNew_eq_ok_iff ..).mp hnew).1 e.id (by simp [he])
  obtain ⟨devices, hd⟩ := contents_perform (w := { w with occasion := o }) h he
  exact ⟨e, devices, hp, he, hget, hd⟩

lemma contents_ask (w : World Memory) (o : Occasion) (q : Query) :
    (w.move (.ask o q)).store.contents = w.store.contents := by
  simp only [move, World.ask]
  split <;> rfl

lemma contents_switch (w : World Memory) (r : Repository) (off : Bool) :
    (w.move (.switch r off)).store.contents = w.store.contents := by
  simp only [move, withStore, Memory.setCrashed]
  split <;> rfl

/-- A move either commits nothing, or it commits the plan of a command together with one new
event. -/
theorem move_cases (w : World Memory) (m : Move) :
    (w.recorded m = [] ∧ (w.move m).store.contents = w.store.contents) ∨
      ∃ o c p e devices, Command.Planned w.store.view o c p ∧ p.events = [e] ∧
        w.store.contents.events.get? e.id = none ∧ w.recorded m = [e] ∧
        (w.move m).store.contents = { w.store.contents.writeAll p.writes with
          devices := devices, events := w.store.contents.events.put e.id (Memory.recordOf e) } := by
  cases m with
  | call o c =>
    cases h : w.store.accepted? o c with
    | none => exact .inl ⟨by simp [recorded, h], contents_move_of_not_accepted h⟩
    | some p =>
      obtain ⟨e, devices, hp, he, hnew, hc⟩ := contents_move_of_accepted h
      exact .inr ⟨o, c, p, e, devices, hp, he, hnew, by simp [recorded, h, he], hc⟩
  | ask o q => exact .inl ⟨rfl, w.contents_ask o q⟩
  | switch r off => exact .inl ⟨rfl, w.contents_switch r off⟩

/-- A move keeps the contents in order. -/
lemma orderly_move {w : World Memory} (h : w.store.contents.Orderly) (m : Move) :
    (w.move m).store.contents.Orderly := by
  rcases w.move_cases m with ⟨-, hc⟩ | ⟨o, c, p, e, devices, hp, -, -, -, hc⟩
  · rw [hc]
    exact h
  · rw [hc]
    exact { h.writeAll (hp.proper h) with }

/-- A move adds the records of the events that it commits to the log. -/
lemma rows_move (w : World Memory) (m : Move) :
    (w.move m).store.contents.events.rows =
      w.store.contents.events.rows ++ (w.recorded m).map fun e => (e.id, Memory.recordOf e) := by
  rcases w.move_cases m with ⟨hr, hc⟩ | ⟨o, c, p, e, devices, -, -, hnew, hr, hc⟩
  · rw [hr, hc, List.map_nil, List.append_nil]
  · rw [hr, hc]
    exact Table.rows_put_of_absent _ hnew

/-- A move keeps every event in the log once. -/
lemma distinct_move {w : World Memory} (h : w.store.contents.events.Distinct) (m : Move) :
    (w.move m).store.contents.events.Distinct := by
  rcases w.move_cases m with ⟨-, hc⟩ | ⟨o, c, p, e, devices, -, -, -, -, hc⟩
  · rw [hc]
    exact h
  · rw [hc]
    exact h.put _ _

/-! ## Whole runs -/

/-- A run keeps the contents in order. -/
lemma orderly_run {w : World Memory} (h : w.store.contents.Orderly) (ms : List Move) :
    (w.run ms).store.contents.Orderly := by
  induction ms generalizing w with
  | nil => exact h
  | cons m ms ih => exact ih (orderly_move h m)

/-- A run keeps every event in the log once. -/
lemma distinct_run {w : World Memory} (h : w.store.contents.events.Distinct) (ms : List Move) :
    (w.run ms).store.contents.events.Distinct := by
  induction ms generalizing w with
  | nil => exact h
  | cons m ms ih => exact ih (distinct_move h m)

/-- The log of a run holds the records of its history behind what it held before. -/
theorem rows_run (w : World Memory) (ms : List Move) :
    (w.run ms).store.contents.events.rows =
      w.store.contents.events.rows ++ (w.history ms).map fun e => (e.id, Memory.recordOf e) := by
  induction ms generalizing w with
  | nil => simp [run, history]
  | cons m ms ih => rw [run_cons, ih, rows_move, history, List.map_append, List.append_assoc]

end World

end CommonPurse
