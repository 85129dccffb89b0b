import CommonPurse.Dispatch
import CommonPurse.Proofs.Log.Context

/-!
# What is logged while an event is dispatched

A dispatch has few things to say, and so do the processors that tell the members of groups. None of
these names the event: the dispatcher leaves that to the context. The lines of what is logged below
the root therefore do not name it either.

## Main definitions

* `CommonPurse.World.Logs` — a property of everything that has been logged.
* `CommonPurse.Notification.Note`, `CommonPurse.Dispatcher.Note` — what is said when members are
  told about an event, and when it is dispatched.
* `CommonPurse.World.Unstamped` — nothing that has been logged names the event.

## Main results

* `CommonPurse.Processor.logs_notifier` — telling the members of a group says nothing else.
* `CommonPurse.Dispatcher.logs_dispatch` — a dispatch says nothing else.
* `CommonPurse.Dispatcher.unstamped_dispatch` — a dispatch logs nothing that names the event,
* `CommonPurse.Dispatcher.unstamped_worker` — nor does the worker of the program.
* `CommonPurse.Dispatcher.notMem_line` — the lines of what is logged do not name the event.
-/

namespace CommonPurse

open CommonPurse.Store

variable {σ τ : Type} {P : Log.Entry → Prop}

/-! ## Entries in traces -/

/-- Everything that is observed to be logged has a property. -/
def Logs (P : Log.Entry → Prop) (trace : List Observation) : Prop := ∀ e, .logged e ∈ trace → P e

lemma logs_append {l m : List Observation} : Logs P (l ++ m) ↔ Logs P l ∧ Logs P m := by
  simp only [Logs, List.mem_append]
  exact ⟨fun h => ⟨fun e he => h e (.inl he), fun e he => h e (.inr he)⟩,
    fun h e he => he.elim (h.1 e) (h.2 e)⟩

lemma logs_map_logged {entries : List Log.Entry} (h : ∀ e ∈ entries, P e) :
    Logs P (entries.map .logged) := by
  intro e he
  obtain ⟨x, hx, same⟩ := List.mem_map.mp he
  obtain rfl := Observation.logged.inj same
  exact h x hx

/-- Nothing is logged where nothing that is observed is an entry. -/
lemma logs_of_notMem {l : List Observation} (h : ∀ e, .logged e ∉ l) : Logs P l :=
  fun e he => absurd he (h e)

namespace World

/-- Everything that has been logged has a property. -/
def Logs (P : Log.Entry → Prop) (w : World σ) : Prop := CommonPurse.Logs P w.trace

lemma Logs.say {w : World σ} (h : w.Logs P) {entries : List Log.Entry} (told : ∀ e ∈ entries, P e) :
    (w.say entries).Logs P :=
  logs_append.mpr ⟨h, logs_map_logged told⟩

lemma Logs.say_singleton {w : World σ} (h : w.Logs P) {e : Log.Entry} (told : P e) :
    (w.say [e]).Logs P :=
  h.say fun _ he => List.mem_singleton.mp he ▸ told

end World

/-! ## Telling the members of a group -/

namespace Notification

/-- What is said when members of a group are told about an event. -/
inductive Note : Log.Entry → Prop
  | rejected (recipient : Id) (code : Nat) :
      Note (.warning "Pushy rejected notification"
        [("recipient_id", .text recipient.text), ("status_code", .integer code)])
  | kept (recipient : Id) :
      Note (.debug "Recorded notification" [("recipient_id", .text recipient.text)])
  | undelivered (recipient : Id) (reason : String) :
      Note (.warning "Notification failed"
        [("recipient_id", .text recipient.text), ("error", .text reason)])
  | sent (action : GroupAction) (count failed : Nat) : Note (sentEntry action count failed)

lemma note_ofReply (recipient : Id) (request : PushRequest) (reply : Reply) :
    ∀ e ∈ (Delivery.ofReply recipient request reply).log, Note e := by
  unfold Delivery.ofReply
  split
  · exact fun _ he => nomatch he
  · exact fun _ he => nomatch he
  · exact fun _ he => List.mem_singleton.mp he ▸ .rejected recipient _

lemma note_send (v : View) (recipient : Id) (m : Message) (t : Transport) :
    ∀ e ∈ (t.send v recipient m).1.log, Note e := by
  cases t with
  | memory failing =>
    rw [Transport.send]
    split
    · exact fun _ he => nomatch he
    · exact fun _ he => List.mem_singleton.mp he ▸ .kept recipient
  | push url token replies =>
    rw [Transport.send, Transport.post]
    split
    · exact fun _ he => nomatch he
    · exact fun _ he => nomatch he
    · exact note_ofReply recipient _ _

section Telling

variable (told : ∀ e, Note e → P e)

include told

lemma logs_deliveryTrace (recipient : Id) (m : Message) {d : Delivery}
    (logged : ∀ e ∈ d.log, Note e) : Logs P (deliveryTrace recipient m d) := by
  obtain ⟨failure, log, kept, posted⟩ := d
  simp only [deliveryTrace, logs_append]
  refine ⟨⟨⟨?posted, ?kept⟩, logs_map_logged fun e he => told e (logged e he)⟩, ?failed⟩
  case posted => cases posted <;> exact logs_of_notMem (by simp)
  case kept => cases kept <;> exact logs_of_notMem (by simp)
  case failed =>
    cases failure with
    | none => exact logs_of_notMem (by simp)
    | some reason =>
      intro e he
      obtain rfl := Observation.logged.inj (List.mem_singleton.mp he)
      exact told _ (.undelivered recipient reason)

lemma logs_deliver (b : Backend σ τ) (recipient : Id) (m : Message) {w : World σ}
    (h : w.Logs P) : (deliver b recipient m w).2.Logs P :=
  logs_append.mpr
    ⟨h, logs_deliveryTrace told recipient m (note_send (b.view w.store) recipient m _)⟩

lemma logs_deliverAll (b : Backend σ τ) (m : Message) (recipients : List Id) {w : World σ}
    (h : w.Logs P) : (deliverAll b m recipients w).2.Logs P := by
  induction recipients generalizing w with
  | nil => exact h
  | cons r rest ih => exact ih (logs_deliver told b r m h)

lemma logs_notify (b : Backend σ τ) (e : Event) {w : World σ} (h : w.Logs P) :
    (notify b e w).2.Logs P := by
  unfold notify
  split
  · exact h
  next group actor action _ =>
    split
    · split
      · exact h
      · exact h
      next g m x _ =>
        have delivered := logs_deliverAll told b x (recipients g m.id) h
        have sent := delivered.say_singleton (told _ (.sent action (recipients g m.id).length
          (deliverAll b x (recipients g m.id) w).1))
        dsimp only
        split <;> exact sent
    · exact h

end Telling

end Notification

/-- **A processor that tells the members of groups** says nothing else. -/
theorem Processor.logs_notifier (told : ∀ e, Notification.Note e → P e) (b : Backend σ τ)
    (e : Event) {w : World σ} (h : w.Logs P) : ((Processor.notifier b).handle e w).2.Logs P := by
  have notified := Notification.logs_notify told b e h
  simp only [Processor.notifier]
  split <;> simp_all

/-! ## Dispatching -/

namespace Dispatcher

/-- What is said when an event is dispatched. -/
inductive Note : Log.Entry → Prop
  | exhausted (i : Id) (attempts : Nat) (total : Binary64) :
      Note (Retry.exhaustedEntry "_fetch_once" (absentText i) attempts total)
  | unseen (attempts : Nat) (waited : Binary64) :
      Note (.warning "Event not visible in the log, skipping"
        [("attempts", .integer attempts), ("waited", .real waited)])
  | unreadable (e : Error) : Note (unreadable e)
  | failed (processor : String) :
      Note (.error "Event processor failed" [("processor", .text processor)])
  | processed : Note (.debug "Event processed" [])
  | unmarked : Note (.error "Failed to mark event processed" [])

lemma note_givenUp (i : Id) (attempts : Nat) (total : Binary64) :
    ∀ e ∈ givenUp i attempts total, Note e := by
  intro e he
  rcases List.mem_cons.mp he with rfl | he
  · exact .exhausted i attempts total
  · exact List.mem_singleton.mp he ▸ .unseen attempts _

lemma logs_afterPauses {meanwhile : Nat → World σ → World σ}
    (others : ∀ n w, w.Logs P → (meanwhile n w).Logs P) {w : World σ} (h : w.Logs P) (n : Nat) :
    (afterPauses meanwhile w n).Logs P := by
  induction n with
  | zero => exact h
  | succ n ih => exact others _ _ ih

variable (told : ∀ e, Note e → P e)

include told

lemma logs_handAll (e : Event) {processors : List (Processor σ)}
    (quiet : ∀ p ∈ processors, ∀ w, w.Logs P → (p.handle e w).2.Logs P) {w : World σ}
    (h : w.Logs P) : (handAll e processors w).Logs P := by
  induction processors generalizing w with
  | nil => exact h
  | cons p rest ih =>
    have rest_quiet := fun q hq => quiet q (List.mem_cons_of_mem _ hq)
    have handled := quiet p List.mem_cons_self w h
    unfold handAll
    split
    next w' hw =>
      rw [hw] at handled
      exact ih rest_quiet handled
    next reason w' hw =>
      rw [hw] at handled
      exact ih rest_quiet (handled.say_singleton (told _ (.failed p.name)))

lemma logs_mark (b : Backend σ τ) (i : Id) {w : World σ} (h : w.Logs P) :
    (mark b i w).Logs P := by
  unfold mark
  split
  · exact World.Logs.say_singleton h (told _ .processed)
  · exact World.Logs.say_singleton h (told _ .unmarked)

/-- **A dispatch says nothing else**, neither when the event is looked up again and again, nor when
the log cannot be read, nor when processors fail or the event cannot be marked. -/
theorem logs_dispatch (b : Backend σ τ) (d : Dispatcher σ) {meanwhile : Nat → World σ → World σ}
    (others : ∀ n w, w.Logs P → (meanwhile n w).Logs P)
    (quiet : ∀ p ∈ d.processors, ∀ e w, w.Logs P → (p.handle e w).2.Logs P) (i : Id)
    {w : World σ} (h : w.Logs P) : (d.dispatch b meanwhile i w).2.Logs P := by
  unfold dispatch
  dsimp only
  split
  · exact h
  next r _ =>
    have slept : CommonPurse.Logs P (r.delays.map Observation.slept) :=
      logs_of_notMem (by simp)
    have awake : (({ afterPauses meanwhile w r.delays.length with
        trace := (afterPauses meanwhile w r.delays.length).trace ++
          r.delays.map Observation.slept } : World σ).draw (lookupDraws b i
            { afterPauses meanwhile w r.delays.length with
              trace := (afterPauses meanwhile w r.delays.length).trace ++
                r.delays.map Observation.slept })).Logs P :=
      logs_append.mpr ⟨logs_afterPauses others h _, slept⟩
    split
    next e _ => exact logs_mark told b i (logs_handAll told e (fun p hp => quiet p hp e) awake)
    next e _ => exact awake.say_singleton (told _ (.unreadable e))
    · exact awake
    next attempts total _ =>
      exact awake.say fun e he => told e (note_givenUp i attempts total e he)
    · exact awake

end Dispatcher

/-! ## Entries that do not name an event -/

/-- An entry does not name an event. -/
def Log.Entry.Unstamped (e : Log.Entry) : Prop := "event_id" ∉ e.fields.map (·.1)

/-- Nothing that has been logged names an event. -/
def World.Unstamped (w : World σ) : Prop := w.Logs Log.Entry.Unstamped

lemma Notification.Note.unstamped {e : Log.Entry} (h : Note e) : e.Unstamped := by
  cases h with
  | rejected => exact show "event_id" ∉ ["recipient_id", "status_code"] by decide
  | kept => exact show "event_id" ∉ ["recipient_id"] by decide
  | undelivered => exact show "event_id" ∉ ["recipient_id", "error"] by decide
  | sent => exact show "event_id" ∉ ["kind", "recipients", "failed"] by decide

lemma Dispatcher.Note.unstamped {e : Log.Entry} (h : Note e) : e.Unstamped := by
  cases h with
  | exhausted =>
    exact show "event_id" ∉ ["function", "attempts", "last_exception", "total_delay"] by decide
  | unseen => exact show "event_id" ∉ ["attempts", "waited"] by decide
  | unreadable => exact show "event_id" ∉ ["corrupted_data"] by decide
  | failed => exact show "event_id" ∉ ["processor"] by decide
  | processed | unmarked => exact List.not_mem_nil

/-- A processor that tells the members of groups logs nothing that names the event. -/
theorem Processor.unstamped_notifier (b : Backend σ τ) (e : Event) {w : World σ}
    (h : w.Unstamped) : ((Processor.notifier b).handle e w).2.Unstamped :=
  logs_notifier (fun _ => Notification.Note.unstamped) b e h

namespace Dispatcher

/-- **A dispatch logs nothing that names the event**, if what others do meanwhile and what the
processors do does not either. -/
theorem unstamped_dispatch (b : Backend σ τ) (d : Dispatcher σ)
    {meanwhile : Nat → World σ → World σ}
    (others : ∀ n w, w.Unstamped → (meanwhile n w).Unstamped)
    (quiet : ∀ p ∈ d.processors, ∀ e w, w.Unstamped → (p.handle e w).2.Unstamped) (i : Id)
    {w : World σ} (h : w.Unstamped) : (d.dispatch b meanwhile i w).2.Unstamped :=
  logs_dispatch (fun _ => Note.unstamped) b d others quiet i h

/-- The worker of the program logs nothing that names the event, because its processors do nothing
but tell the members of groups. -/
theorem unstamped_worker (b : Backend σ τ) {d : Dispatcher σ}
    (own : ∀ p ∈ d.processors, p = Processor.notifier b) (i : Id) {w : World σ} (h : w.Unstamped) :
    (d.dispatch b undisturbed i w).2.Unstamped := by
  refine unstamped_dispatch b d (fun _ _ same => same) (fun p hp e w h => ?_) i h
  rw [own p hp]
  exact Processor.unstamped_notifier b e h

/-- **The lines of what is logged during a dispatch do not name the event**, unless it is the root
logger that is told, whatever the context is. -/
theorem notMem_line (b : Backend σ τ) (d : Dispatcher σ) {meanwhile : Nat → World σ → World σ}
    (others : ∀ n w, w.Unstamped → (meanwhile n w).Unstamped)
    (quiet : ∀ p ∈ d.processors, ∀ e w, w.Unstamped → (p.handle e w).2.Unstamped) (i : Id)
    {w : World σ} (h : w.Unstamped) {e : Log.Entry}
    (logged : .logged e ∈ (d.dispatch b meanwhile i w).2.trace) {c : Log.Configuration}
    {q : Log.Pipeline} (serves : q.Serves c) (json : c.json = true) {logger file : String}
    {line : Nat} {created : Log.Value} {ms : List (String × Json)}
    (below : Log.Pipeline.isRoot logger = false)
    (written : q.document? (e.record logger file line created) = some (.object ms)) (j : Json) :
    ("event_id", j) ∉ ms := by
  intro hj
  have unstamped := unstamped_dispatch b d others quiet i h e logged
  rcases Log.Pipeline.own_of_mem serves json written below hj with own | told
  · exact absurd own (by decide)
  · exact unstamped told

end Dispatcher

end CommonPurse
