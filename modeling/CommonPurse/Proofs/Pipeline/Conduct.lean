import CommonPurse.Proofs.Event.RoundTrip
import CommonPurse.Proofs.Pipeline.Listener
import CommonPurse.Proofs.Retry

/-!
# What becomes of an announced event

The log is asked for an event until it has an answer, and at most so many times. An event that is
found is handed to every processor once, in the order of their registration and whether or not one
of them fails, and then it is marked. Without an event nobody is handed anything, and nothing is
marked. However it ends, nothing is raised, and the context of the log is what it was, without an
identifier.

## Main definitions

* `CommonPurse.Dispatcher.Handed`, `HandedAll` — one call of a processor, and one call of each.
* `CommonPurse.Dispatcher.Marked` — one marking of an event as processed.
* `CommonPurse.Dispatcher.answer` — what the log answers to each call for an event.
* `CommonPurse.Dispatcher.searched` — the world when the log has been asked for the last time.

## Main results

* `CommonPurse.Log.Context.remove_set` — names that were set are as good as never set once removed.
* `CommonPurse.Dispatcher.handedAll_iff` — every processor is called once, one after the other.
* `CommonPurse.Dispatcher.dispatchIn_cases` — what becomes of an announced event.
-/

namespace CommonPurse

open CommonPurse.Store

/-! ## The context of the log -/

namespace Log

lemma filter_put {names : List String} {name : String} (known : name ∈ names) (value : Value)
    (members : List (String × Value)) :
    (Layout.put name value members).filter (fun f => !names.contains f.1) =
      members.filter fun f => !names.contains f.1 := by
  induction members with
  | nil => simp [Layout.put, known]
  | cons m rest ih =>
    obtain ⟨k, v⟩ := m
    by_cases same : k = name
    · simp [Layout.put, same, known]
    · rw [Layout.put, if_neg same, List.filter_cons, List.filter_cons, ih]

/-- **What is set and then removed** has left no trace, but for what was there by its name. -/
theorem Context.remove_set (c : Context) (fields : List (String × Value)) {names : List String}
    (known : ∀ f ∈ fields, f.1 ∈ names) : (c.set fields).remove names = c.remove names := by
  suffices ∀ members : List (String × Value),
      (Layout.putAll members fields).filter (fun f => !names.contains f.1) =
        members.filter fun f => !names.contains f.1 from
    congrArg Context.mk (this c.fields)
  induction fields with
  | nil => exact fun members => rfl
  | cons f rest ih =>
    intro members
    refine (ih (fun g hg => known g (List.mem_cons_of_mem _ hg)) _).trans ?_
    exact filter_put (known f List.mem_cons_self) f.2 members

end Log

namespace Dispatcher

variable {σ τ : Type}

/-! ## Calls of processors, and the mark -/

/-- One call of a processor. The world is what the processor leaves, and a failure is noted. -/
inductive Handed (e : Event) (p : Processor σ) (w : World σ) : World σ → Prop
  | done {w' : World σ} (call : p.handle e w = (.ok (), w')) : Handed e p w w'
  | failed {reason : String} {w' : World σ} (call : p.handle e w = (.error reason, w')) :
      Handed e p w (w'.say [.error "Event processor failed" [("processor", .text p.name)]])

/-- One call of each processor, one after the other. Whether a call fails is all the same to those
behind it. -/
inductive HandedAll (e : Event) : List (Processor σ) → World σ → World σ → Prop
  | nil (w : World σ) : HandedAll e [] w w
  | cons {p : Processor σ} {rest : List (Processor σ)} {w w' w'' : World σ}
      (first : Handed e p w w') (others : HandedAll e rest w' w'') : HandedAll e (p :: rest) w w''

/-- One marking of an event as processed. How it ends is noted. -/
inductive Marked (b : Backend σ τ) (i : Id) (w : World σ) : World σ → Prop
  | done {s : σ} (call : b.markProcessed i w.occasion.now w.store = (.ok (), s)) :
      Marked b i w ((w.withStore s).say [.debug "Event processed" []])
  | failed {e : Error} {s : σ} (call : b.markProcessed i w.occasion.now w.store = (.error e, s)) :
      Marked b i w ((w.withStore s).say [.error "Failed to mark event processed" []])

lemma handed_iff {e : Event} {p : Processor σ} {w w' : World σ} :
    Handed e p w w' ↔ w' = hand e p w := by
  constructor
  · rintro (call | call) <;> rw [hand, call]
  · rintro rfl
    unfold hand
    split
    next call => exact .done call
    next call => exact .failed call

/-- **Every processor is called once**, in order: what one of them does to the world, and whether it
fails, is all the same to the next. -/
theorem handedAll_iff {e : Event} {ps : List (Processor σ)} {w w' : World σ} :
    HandedAll e ps w w' ↔ w' = handAll e ps w := by
  induction ps generalizing w with
  | nil =>
    refine ⟨fun h => ?_, fun h => h ▸ .nil w⟩
    cases h
    rfl
  | cons p rest ih =>
    rw [handAll_cons]
    constructor
    · rintro (_ | ⟨first, others⟩)
      rw [← handed_iff.mp first]
      exact ih.mp others
    · exact fun h => .cons (handed_iff.mpr rfl) (ih.mpr h)

lemma marked_iff {b : Backend σ τ} {i : Id} {w w' : World σ} :
    Marked b i w w' ↔ w' = mark b i w := by
  constructor
  · rintro (call | call) <;> rw [mark, call]
  · rintro rfl
    unfold mark
    split
    next call => exact .done call
    next call => exact .failed call

/-! ## Asking the log -/

/-- What the log answers to each call for an event: to the first one at once, and to each further
one after one more pause. -/
def answer (b : Backend σ τ) (meanwhile : ℕ → World σ → World σ) (i : Id) (w : World σ) (k : ℕ) :
    Except Miss Event :=
  lookup b i (afterPauses meanwhile w k)

/-- The world when the log has been asked for the last time, after some pauses. -/
def searched (b : Backend σ τ) (meanwhile : ℕ → World σ → World σ) (i : Id) (w : World σ)
    (delays : List Retry.Quantity) : World σ :=
  let w := afterPauses meanwhile w delays.length
  let w := { w with trace := w.trace ++ delays.map Observation.slept }
  w.draw (lookupDraws b i w)

/-- The policy of a dispatcher that asks so many times, with pauses that double from some delay up
to another one. -/
def doubling (n : ℕ) (initial most : Binary64) : Retry.Policy :=
  { Retry.Policy.usual with
    maxAttempts := n
    initialDelay := .real initial
    maxDelay := .real most }

variable {d : Dispatcher σ} {n : ℕ} {initial most : Binary64}

/-- The log is asked until it has an answer, and at most so many times. -/
lemma exists_run (policy : d.policy = doubling n initial most) (once : 1 ≤ n) (few : n ≤ 50)
    (ask : ℕ → Except Miss Event) :
    ∃ r, Retry.run? d.policy Miss.isAbsent ask = some r ∧
      r.Goes d.policy Miss.isAbsent ask 0 (n - 1) := by
  have attempts : d.policy.maxAttempts = n := by rw [policy]; rfl
  have usable : d.policy.isUsable = true := by
    rw [Retry.Policy.isUsable, attempts]
    exact decide_eq_true (by omega)
  have last : 0 + (d.policy.maxAttempts.toNat - 1) = n - 1 := by rw [attempts]; omega
  refine ⟨_, by rw [Retry.run?, if_pos usable], last ▸ Retry.goes_attempts (fun k hk => ?_) _⟩
  refine Retry.Policy.exists_delay (x := initial) (y := most) ?_ ?_ ?_ ?_ (by omega)
  all_goals rw [policy]; rfl

/-- What becomes of an announced event once the log has been asked for the last time. -/
lemma dispatch_of_run (b : Backend σ τ) (meanwhile : ℕ → World σ → World σ) (i : Id) (w : World σ)
    {r : Retry.Run Miss Event}
    (run : Retry.run? d.policy Miss.isAbsent (answer b meanwhile i w) = some r) :
    dispatch b d meanwhile i w =
      match r.ending with
      | .returned e =>
        (.ok true, mark b i (handAll e d.processors (searched b meanwhile i w r.delays)))
      | .refused (.failed e) => (.ok false, (searched b meanwhile i w r.delays).say [unreadable e])
      | .refused .absent => (.ok false, searched b meanwhile i w r.delays)
      | .exhausted _ attempts total =>
        (.ok false, (searched b meanwhile i w r.delays).say (givenUp i attempts total))
      | .undelayed f => (.error f, searched b meanwhile i w r.delays) := by
  have asked : Retry.run? d.policy Miss.isAbsent
      (fun k => lookup b i (afterPauses meanwhile w k)) = some r := run
  simp only [dispatch, asked]
  rcases r.ending with e | (_ | e) | ⟨e, attempts, total⟩ | f <;> rfl

/-- **What becomes of an announced event.** The log is asked until it has an answer other than that
the event is not there, and at most `n` times, with the delays of the policy in between. If the
answer is an event, each processor is called with it once and in order, then it is marked once, and
the result is true. If the log cannot be read, or has been asked `n` times in vain, the result is
false, and no more than that is noted. In every case the context is the one before, without an
identifier. -/
theorem dispatchIn_cases (b : Backend σ τ) (policy : d.policy = doubling n initial most)
    (once : 1 ≤ n) (few : n ≤ 50) (meanwhile : ℕ → World σ → World σ) (i : Id) (w : World σ)
    (c : Log.Context) :
    ∃ r : Retry.Run Miss Event,
      Retry.run? d.policy Miss.isAbsent (answer b meanwhile i w) = some r ∧
      1 ≤ r.calls ∧ r.calls ≤ n ∧
      (∀ k, k + 1 < r.calls → answer b meanwhile i w k = .error .absent) ∧
      r.delays.map .ok = (List.range (r.calls - 1)).map (fun k : ℕ => d.policy.delay k) ∧
      match answer b meanwhile i w (r.calls - 1) with
      | .ok e =>
        ∃ handed marked, HandedAll e d.processors (searched b meanwhile i w r.delays) handed ∧
          Marked b i handed marked ∧
          dispatchIn b d meanwhile i w c = (.ok true, marked, c.remove ["event_id"])
      | .error (.failed e) =>
        dispatchIn b d meanwhile i w c =
          (.ok false, (searched b meanwhile i w r.delays).say [unreadable e],
            c.remove ["event_id"])
      | .error .absent =>
        r.calls = n ∧ ∃ total, dispatchIn b d meanwhile i w c =
          (.ok false, (searched b meanwhile i w r.delays).say (givenUp i n total),
            c.remove ["event_id"]) := by
  obtain ⟨r, run, goes⟩ := exists_run policy once few (answer b meanwhile i w)
  have removed : (c.set [("event_id", .text i.text)]).remove ["event_id"] =
      c.remove ["event_id"] := c.remove_set _ (by simp)
  have dispatched := dispatch_of_run b meanwhile i w run
  have ending := goes.ending
  have least := goes.first_lt
  have most := goes.calls_le
  refine ⟨r, run, least, by omega, fun k less => ?missed, ?delays, ?ended⟩
  case missed =>
    obtain ⟨e, failed, again⟩ := goes.failed k (Nat.zero_le k) less
    cases e with
    | absent => exact failed
    | failed e => cases again
  case delays => rw [goes.delays, Nat.sub_zero, List.range_eq_range']
  case ended =>
    cases last : answer b meanwhile i w (r.calls - 1) with
    | ok e =>
      rw [last] at ending
      rw [ending] at dispatched
      refine ⟨_, _, handedAll_iff.mpr rfl, marked_iff.mpr rfl, ?_⟩
      rw [dispatchIn, dispatched, removed]
    | error miss =>
      rw [last] at ending
      cases miss with
      | failed e =>
        have refused : r.ending = .refused (.failed e) := ending
        rw [refused] at dispatched
        rw [dispatchIn, dispatched, removed]
      | absent =>
        obtain ⟨calls, total, exhausted⟩ := ending
        rw [exhausted] at dispatched
        refine ⟨by omega, total, ?_⟩
        rw [dispatchIn, dispatched, removed, Nat.sub_add_cancel once]

/-! ## An event that is announced too early -/

/-- The log answers with an event whose text it holds. -/
lemma lookup_of_body {b : Backend σ τ} {i : Id} {w : World σ} {e : Event} (legible : e.Legible)
    (body : (b.view w.store).body i = .ok (some (.text e.encode))) : lookup b i w = .ok e := by
  rw [lookup, body]
  simp only [Body.event, Event.decode_encode _ _ legible]

/-- Two processors, of which the first one fails on every event. -/
def sampleAudited : Dispatcher Memory :=
  ⟨usualPolicy, [.recorder "audit" fun w => (.error "out of order", w),
    .recorder "ledger" fun w => (.ok (), w)], true⟩

/-- Somebody logs in. -/
def sampleReturn : Event := ⟨.ofNat 1, .utc 0, .account (.ofNat 2) .loggedIn⟩

/-- The event has been announced, but it is not in the log. -/
def sampleEarly : World Memory := ⟨.empty [], .queue [] none, .memory [], ⟨.utc 0, .ofNat⟩, []⟩

/-- In every pause the event is committed. -/
def sampleCommit (_ : ℕ) (w : World Memory) : World Memory :=
  w.withStore { w.store with
    contents := { w.store.contents with
      events := w.store.contents.events.put sampleReturn.id (Memory.recordOf sampleReturn) } }

/-- The first pause of a twentieth of a second. -/
def samplePause : Retry.Quantity := .real (.ofRatio false 5 100)

/-- The second call finds the event, and an identifier that an earlier dispatch has left in the
context is taken out, too. -/
theorem dispatchIn_sampleEarly :
    sampleAudited.policy = doubling 5 (.ofRatio false 5 100) (.ofInt 1) ∧
      ∃ handed marked,
        HandedAll sampleReturn sampleAudited.processors
          (searched Memory.backend sampleCommit sampleReturn.id sampleEarly [samplePause]) handed ∧
        Marked Memory.backend sampleReturn.id handed marked ∧
        dispatchIn Memory.backend sampleAudited sampleCommit sampleReturn.id sampleEarly
            ⟨[("event_id", .text "earlier"), ("worker", .text "one")]⟩ =
          (.ok true, marked, ⟨[("worker", .text "one")]⟩) := by
  have policy : sampleAudited.policy = doubling 5 (.ofRatio false 5 100) (.ofInt 1) := rfl
  refine ⟨policy, ?_⟩
  obtain ⟨r, -, least, -, missed, delays, ended⟩ :=
    dispatchIn_cases Memory.backend policy (by decide) (by decide) sampleCommit sampleReturn.id
      sampleEarly ⟨[("event_id", .text "earlier"), ("worker", .text "one")]⟩
  have first : answer Memory.backend sampleCommit sampleReturn.id sampleEarly 0 =
      .error .absent := rfl
  have second : answer Memory.backend sampleCommit sampleReturn.id sampleEarly 1 =
      .ok sampleReturn := lookup_of_body ⟨by decide, trivial⟩ rfl
  have twice : r.calls = 2 := by
    rcases (by omega : r.calls = 1 ∨ r.calls = 2 ∨ 3 ≤ r.calls) with once | twice | more
    · rw [once, Nat.sub_self, first] at ended
      exact absurd ended.1 (by decide)
    · exact twice
    · have absent := missed 1 more
      rw [second] at absent
      cases absent
  have pause : sampleAudited.policy.delay 0 = .ok samplePause := by decide +kernel
  have single : r.delays = [samplePause] := by
    have one : (List.range (r.calls - 1)).map (fun k : ℕ => sampleAudited.policy.delay k) =
        [.ok samplePause] := by
      simp [twice, pause]
    rw [one] at delays
    obtain ⟨d, same, ok⟩ := List.map_eq_singleton_iff.mp delays
    obtain rfl := Except.ok.inj ok
    exact same
  have last : r.calls - 1 = 1 := by omega
  have removed : Log.Context.remove ⟨[("event_id", .text "earlier"), ("worker", .text "one")]⟩
      ["event_id"] = ⟨[("worker", .text "one")]⟩ := by simp [Log.Context.remove]
  rw [last, second, single, removed] at ended
  exact ended

end Dispatcher

end CommonPurse
