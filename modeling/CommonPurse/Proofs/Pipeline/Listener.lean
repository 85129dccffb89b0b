import CommonPurse.Dispatch
import CommonPurse.Proofs.History.Run

/-!
# The listener, step by step

The listener takes an identifier off the queue and looks its event up, hands the event to one
processor after the other, and marks it as processed. These are steps of their own here, so that
others can call in between any two of them. Steps that nobody interrupts are an iteration of the
loop.

## Main definitions

* `CommonPurse.Dispatcher.fetch`, `CommonPurse.Dispatcher.hand` — looking up, and handing an event
  to one processor.
* `CommonPurse.Pipeline` — the world, where the listener stands, and what has happened so far.
* `CommonPurse.Pipeline.listen` — a step of the listener.
* `CommonPurse.Pipeline.run` — calls and steps of the listener in any order.

## Main results

* `CommonPurse.Dispatcher.dispatch_eq` — handling an event is looking it up, handing it to the
  processors and marking it.
* `CommonPurse.Pipeline.run_listen` — steps that nobody interrupts are an iteration.
-/

namespace CommonPurse

open CommonPurse.Store

/-! ## The parts of an iteration -/

namespace Dispatcher

variable {σ τ : Type}

/-- Look an announced event up, as often as the policy says, while nobody else does anything. If
there is no event, handling it is over: the result says how. -/
def fetch (b : Backend σ τ) (d : Dispatcher σ) (i : Id) (w : World σ) :
    Except (Except Retry.Fault Bool) Event × World σ :=
  match Retry.run? d.policy Miss.isAbsent (fun _ => lookup b i w) with
  | none => (.error (.ok false), w)
  | some r =>
    let w := { w with trace := w.trace ++ r.delays.map Observation.slept }
    let w := w.draw (lookupDraws b i w)
    match r.ending with
    | .returned e => (.ok e, w)
    | .refused (.failed e) => (.error (.ok false), w.say [unreadable e])
    | .refused .absent => (.error (.ok false), w)
    | .exhausted _ attempts total => (.error (.ok false), w.say (givenUp i attempts total))
    | .undelayed f => (.error (.error f), w)

/-- Hand an event to one processor. A failure is noted and has no other effect. -/
def hand (e : Event) (p : Processor σ) (w : World σ) : World σ :=
  match p.handle e w with
  | (.ok (), w) => w
  | (.error _, w) => w.say [.error "Event processor failed" [("processor", .text p.name)]]

lemma handAll_cons (e : Event) (p : Processor σ) (rest : List (Processor σ)) (w : World σ) :
    handAll e (p :: rest) w = handAll e rest (hand e p w) := by
  rw [handAll, hand]
  rcases p.handle e w with ⟨_ | _, w'⟩ <;> rfl

lemma afterPauses_undisturbed (w : World σ) (n : Nat) : afterPauses undisturbed w n = w := by
  induction n with
  | zero => rfl
  | succ n ih =>
    rw [afterPauses, ih]
    rfl

/-- **Handling an event** is looking it up, handing it to the processors and marking it. -/
theorem dispatch_eq (b : Backend σ τ) (d : Dispatcher σ) (i : Id) (w : World σ) :
    dispatch b d undisturbed i w =
      match d.fetch b i w with
      | (.ok e, w) => (.ok true, mark b i (handAll e d.processors w))
      | (.error r, w) => (r, w) := by
  simp only [dispatch, fetch, afterPauses_undisturbed]
  cases Retry.run? d.policy Miss.isAbsent (fun _ => lookup b i w) with
  | none => rfl
  | some r =>
    dsimp only
    rcases r.ending with e | (_ | e) | ⟨e, attempts, total⟩ | f <;> rfl

/-- An event that is there is found at once. -/
lemma fetch_of_lookup (b : Backend σ τ) {d : Dispatcher σ} (usable : d.policy.isUsable = true)
    {i : Id} {w : World σ} {e : Event} (h : lookup b i w = .ok e) :
    d.fetch b i w = (.ok e, w.draw (lookupDraws b i w)) := by
  have first : Retry.run? d.policy Miss.isAbsent (fun _ => lookup b i w) =
      some ⟨.returned e, 1, [], []⟩ := by
    rw [Retry.run?, if_pos usable, Retry.attempts, h]
  rw [fetch, first]
  simp

end Dispatcher

/-! ## States -/

/-- Where the listener stands: it waits for an identifier, it hands an event to the processors,
of which the first ones have had it, or it has come to an end. -/
inductive Stage where
  | waiting
  | handing (i : Id) (e : Event) (next : Nat)
  | stopped
  deriving DecidableEq

/-- Where the listener stands after an iteration: it goes on unless a pause could not be
computed. -/
def Stage.after : Except Retry.Fault Bool → Stage
  | .ok _ => .waiting
  | .error _ => .stopped

/-- A processor, known by its position, has been handed an event. -/
structure Handing where
  position : Nat
  event : Event
  deriving DecidableEq

/-- The world and the listener, together with what has happened so far: the events that have been
committed, what has been handed to processors, and the identifiers that have been dispatched. -/
structure Pipeline where
  world : World Memory
  stage : Stage
  committed : List Event
  handed : List Handing
  dispatched : List Id

namespace Pipeline

/-- Nothing is stored, nothing waits in the queue, which takes any number of identifiers, and the
listener has just begun. -/
def start (t : Notification.Transport) (o : Occasion) : Pipeline :=
  ⟨⟨.empty [], .queue [] none, t, o, []⟩, .waiting, [], [], []⟩

/-! ## Steps -/

/-- A step of the listener: it takes an identifier off the queue and looks its event up, hands the
event to the next processor, or marks it when every processor has had it. -/
def listen (d : Dispatcher Memory) (s : Pipeline) : Pipeline :=
  match s.stage with
  | .stopped => s
  | .waiting =>
    match s.world.bus.next? with
    | none => s
    | some (i, bus) =>
      match d.fetch Memory.backend i { s.world with bus := bus } with
      | (.ok e, w) => { s with world := w, stage := .handing i e 0 }
      | (.error (.ok _), w) => { s with world := w }
      | (.error (.error _), w) => { s with world := w, stage := .stopped }
  | .handing i e next =>
    match d.processors[next]? with
    | some p =>
      { s with
        world := Dispatcher.hand e p s.world
        stage := .handing i e (next + 1)
        handed := s.handed ++ [⟨next, e⟩] }
    | none =>
      { s with
        world := Dispatcher.mark Memory.backend i s.world
        stage := .waiting
        dispatched := s.dispatched ++ [i] }

/-- What can happen: a command or a query is called, time passes, or the listener takes a step. -/
inductive Move where
  | call (o : Occasion) (c : Command)
  | ask (o : Occasion) (q : Query)
  | tick (o : Occasion)
  | listen

/-- Make a move. -/
def step (d : Dispatcher Memory) (s : Pipeline) : Move → Pipeline
  | .call o c =>
    { s with
      world := s.world.move (.call o c)
      committed := s.committed ++ s.world.recorded (.call o c) }
  | .ask o q => { s with world := s.world.move (.ask o q) }
  | .tick o => { s with world := { s.world with occasion := o } }
  | .listen => s.listen d

/-- Make moves one after the other. -/
def run (d : Dispatcher Memory) (s : Pipeline) (moves : List Move) : Pipeline :=
  moves.foldl (step d) s

@[simp] lemma run_nil (d : Dispatcher Memory) (s : Pipeline) : s.run d [] = s := rfl

@[simp] lemma run_cons (d : Dispatcher Memory) (s : Pipeline) (m : Move) (ms : List Move) :
    s.run d (m :: ms) = (s.step d m).run d ms := rfl

/-! ## Iterations -/

/-- The processors that are left are handed the event, and then it is marked. -/
lemma run_handing (d : Dispatcher Memory) {i : Id} {e : Event} (rest : List (Processor Memory))
    {next : Nat} {s : Pipeline} (hs : s.stage = .handing i e next)
    (hrest : d.processors.drop next = rest) :
    let s' := s.run d (List.replicate (rest.length + 1) .listen)
    s'.stage = .waiting ∧
      s'.world = Dispatcher.mark Memory.backend i (Dispatcher.handAll e rest s.world) := by
  induction rest generalizing next s with
  | nil =>
    have past : d.processors[next]? = none := by
      rw [List.getElem?_eq_none_iff]
      exact List.drop_eq_nil_iff.mp hrest
    simp [List.replicate_succ, step, listen, hs, past, Dispatcher.handAll]
  | cons p rest ih =>
    have here : d.processors[next]? = some p := by
      rw [← List.head?_drop, hrest]
      rfl
    have further : d.processors.drop (next + 1) = rest := by
      rw [← List.tail_drop, hrest]
      rfl
    have one : s.step d .listen = { s with
        world := Dispatcher.hand e p s.world
        stage := .handing i e (next + 1)
        handed := s.handed ++ [⟨next, e⟩] } := by
      simp [step, listen, hs, here]
    rw [List.length_cons, List.replicate_succ, run_cons, one, Dispatcher.handAll_cons]
    exact ih rfl further

/-- **Steps that nobody interrupts are an iteration of the loop.** When the listener waits, a
number of its steps lead to the world that an iteration leads to, and then it waits again or has
come to an end. -/
theorem run_listen (d : Dispatcher Memory) {s : Pipeline} (hs : s.stage = .waiting)
    {r : Except Retry.Fault Bool} {w : World Memory}
    (h : d.step? Memory.backend s.world = some (r, w)) :
    ∃ n, (s.run d (List.replicate n .listen)).world = w ∧
      (s.run d (List.replicate n .listen)).stage = .after r := by
  obtain ⟨⟨i, bus⟩, next, found⟩ := Option.map_eq_some_iff.mp h
  dsimp only at found
  rw [Dispatcher.dispatch_eq] at found
  cases hf : d.fetch Memory.backend i { s.world with bus := bus } with
  | mk result w' =>
    rw [hf] at found
    cases result with
    | ok e =>
      obtain ⟨rfl, rfl⟩ := Prod.mk.inj found
      have one : s.step d .listen = { s with world := w', stage := .handing i e 0 } := by
        simp [step, listen, hs, next, hf]
      refine ⟨d.processors.length + 1 + 1, ?_⟩
      rw [List.replicate_succ, run_cons, one]
      have begun : ({ s with world := w', stage := .handing i e 0 } : Pipeline).stage =
          .handing i e 0 := rfl
      have handed := run_handing d d.processors begun List.drop_zero
      exact ⟨handed.2, handed.1⟩
    | error r' =>
      obtain ⟨rfl, rfl⟩ := Prod.mk.inj found
      refine ⟨1, ?_⟩
      cases r' with
      | ok b => simp [step, listen, hs, next, hf, Stage.after]
      | error f => simp [step, listen, hs, next, hf, Stage.after]

end Pipeline

end CommonPurse
