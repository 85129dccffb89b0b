import CommonPurse.Deployment
import CommonPurse.Http.Service
import CommonPurse.Proofs.Command.Planned
import CommonPurse.Proofs.Log.Dispatching
import CommonPurse.Proofs.Log.Statements

/-!
# Everything that is logged is a statement

Whatever the services, the listeners and the program itself log is one of the statements of the
program: it has the level of the statement, its template with the arguments filled in, and its
fields. So it is written, unless it is about somebody's balances.

## Main definitions

* `CommonPurse.Log.Statement.Says` — an entry is what a statement says.
* `CommonPurse.Log.Entry.Stated` — an entry is what some statement says.

## Main results

* `CommonPurse.Http.stated_respond` — the answer to a request logs statements only.
* `CommonPurse.Dispatcher.stated_drain`, `stated_listen` — so do those who handle events,
* `CommonPurse.Dispatcher.stated_worker` — the worker of the program among them,
* `CommonPurse.Deployment.stated_run` — and the program from its beginning to its end.
* `CommonPurse.Log.Entry.Stated.writes` — what is logged is written.
-/

namespace CommonPurse

open CommonPurse.Store CommonPurse.Text

/-! ## Entries and statements -/

namespace Log

/-- An entry is what a statement says. Of an error that was caught, the entry does not tell. -/
structure Statement.Says (s : Statement) (e : Entry) : Prop where
  level : e.level = s.telling.level
  message : Template.fill s.telling.template (s.telling.arguments.map Datum.value) = .ok e.message
  fields : e.fields = s.telling.fields.map fun f => (f.1, f.2.value)

/-- The whole numbers in an entry are not too long to be read. -/
def Entry.Brief (e : Entry) : Prop :=
  ∀ name n, (name, .integer n) ∈ e.fields →
    (natText n.natAbs).length ≤ Json.readNumber.maxIntegerDigits

/-- A number in an entry. -/
def Entry.Brief.figure {e : Entry} (h : e.Brief) (name : String) (n : Int)
    (mem : (name, .integer n) ∈ e.fields) : Figure := ⟨n, h name n mem⟩

/-- An entry is what some statement says, if its numbers are not too long. -/
def Entry.Stated (e : Entry) : Prop := e.Brief → ∃ s : Statement, s.Says e

/-- **A stated entry is written**, unless something in it belongs to identifiers. -/
theorem Entry.Stated.writes {e : Entry} (h : e.Stated) (brief : e.Brief)
    (named : ∀ f ∈ e.fields, f.2.json?.isSome = true) :
    ∃ s : Statement, s.Says e ∧ ∀ (p : Site) (l : Layout),
      (∀ m ∈ l.static, m.2.Writable) → l.Writes (s.record p) := by
  obtain ⟨s, same⟩ := h brief
  have unbalanced : s.Named := by
    rintro (_ | ⟨d, rest⟩) rfl
    · rfl
    · have mem : ("deltas", Balance.logged (d :: rest)) ∈ e.fields := by
        rw [same.fields]
        exact List.mem_singleton_self _
      cases named _ mem
  exact ⟨s, same, fun p _ static => (s.sound.writable unbalanced.telling p).writes static⟩

end Log

open Log

/-- Errors that were caught are not told in entries, so any will do. -/
def anyError : Caught := ⟨"", ""⟩

/-! ## Filling in names -/

/-- The field that stands for a text as it is. -/
def plainField (index : Nat) : Template.Field :=
  ⟨none, ⟨false, false, false, false, false⟩, .absent, .absent, some 's', index⟩

lemma fillPieces_append (text : List Char) (rest : List Template.Piece) (s : Template.Supply) :
    Template.fillPieces (text.map .plain ++ rest) s =
      (Template.fillPieces rest s).map (text ++ ·) := by
  induction text with
  | nil =>
    rw [List.map_nil, List.nil_append]
    cases Template.fillPieces rest s <;> rfl
  | cons c text ih =>
    rw [List.map_cons, List.cons_append, Template.fillPieces, ih]
    cases Template.fillPieces rest s <;> rfl

/-- A template with one field is filled with a name. -/
lemma fill_name (template before after : String) (index : Nat)
    (pieces : Template.pieces template.toList.length (template.toList.length + 1) template.toList =
      before.toList.map .plain ++ .field (plainField index) :: after.toList.map .plain)
    (name : String) : Template.fill template [.text name] = .ok (before ++ name ++ after) := by
  have behind := fillPieces_append after.toList [] ⟨[], none⟩
  rw [List.append_nil] at behind
  have written : Template.fillField (plainField index) ⟨[.text name], none⟩ =
      .ok (List.replicate (0 - name.toList.length) ' ' ++ name.toList, ⟨[], none⟩) := rfl
  have supply : Template.supplyOf [.text name] = ⟨[.text name], none⟩ := rfl
  simp only [Template.fill, pieces, supply, fillPieces_append, Template.fillPieces, written, behind]
  simp [Except.map, String.ofList_append, String.append_assoc]

/-! ## What the services say -/

lemma stated_uncommitted (operation : String) (e : Error) :
    (storageEntry "Unit of work failed" operation e).Stated := fun _ =>
  ⟨.uncommitted operation e.isCorruption anyError, rfl, rfl, rfl⟩

lemma stated_of_mem_log {s : Stop} {e : Entry} (h : e ∈ s.log) : e.Stated := by
  cases s with
  | unreadable operation x =>
    obtain rfl := List.mem_singleton.mp h
    exact fun _ => ⟨.unread operation x.isCorruption anyError, rfl, rfl, rfl⟩
  | refused r =>
    cases r with
    | unsettleable f =>
      cases f with
      | arithmetic f => cases h
      | unbalanced ds =>
        obtain rfl := List.mem_singleton.mp h
        exact fun _ => ⟨.unbalanced ds, rfl, rfl, rfl⟩
      | unsettled n =>
        obtain rfl := List.mem_singleton.mp h
        exact fun brief => ⟨.unsettled (brief.figure "iterations" n (.head _)), rfl, rfl, rfl⟩
    | _ => cases h

lemma Command.Planned.stated_notices {v : View} {o : Occasion} {c : Command} {p : Plan}
    (h : Planned v o c p) : ∀ e ∈ p.notices, e.Stated := by
  intro e he
  cases h with
  | register =>
    obtain rfl := List.mem_singleton.mp he
    exact fun _ => ⟨.registered _, rfl, rfl, rfl⟩
  | deleteUser =>
    obtain rfl := List.mem_singleton.mp he
    exact fun _ => ⟨.unregistered _, rfl, rfl, rfl⟩
  | createGroup =>
    obtain rfl := List.mem_singleton.mp he
    exact fun _ => ⟨.founded _ _, rfl, rfl, rfl⟩
  | settle =>
    obtain rfl := List.mem_singleton.mp he
    exact fun brief =>
      ⟨.settled _ (brief.figure "transactions" _ (.tail _ (.head _))), rfl, rfl, rfl⟩
  | deleteGroup =>
    obtain rfl := List.mem_singleton.mp he
    exact fun _ => ⟨.dissolved _, rfl, rfl, rfl⟩
  | _ => cases he

namespace World

variable {σ τ : Type} (b : Backend σ τ) {w : World σ}

lemma stated_publishEntry (operation : String) (count : Nat) (r : Except Bus.PublishError Unit) :
    (publishEntry operation count r).Stated := by
  intro brief
  cases r with
  | ok _ =>
    exact ⟨.published operation (brief.figure "count" count (.tail _ (.head _))), rfl, rfl, rfl⟩
  | error e =>
    refine ⟨.unpublished operation e.events e.message, rfl, rfl, ?_⟩
    simp [publishEntry, Entry.warning, Statement.telling, Datum.value, Function.comp_def]

lemma stated_announce (operation : String) (events : List Event) (h : w.Logs Entry.Stated) :
    (w.announce operation events).Logs Entry.Stated := by
  have sent : CommonPurse.Logs Entry.Stated
      (busTrace w.bus (w.bus.publish (events.map (·.id))).2) := by
    refine logs_of_notMem fun e he => ?_
    unfold busTrace at he
    split at he
    · obtain ⟨i, -, same⟩ := List.mem_map.mp he
      cases same
    · cases he
  have published : (w.publish (events.map (·.id))).2.Logs Entry.Stated :=
    logs_append.mpr ⟨h, sent⟩
  unfold announce
  split
  · exact h
  · exact published.say_singleton (stated_publishEntry _ _ _)

lemma stated_registerDevice (user : Id) (device : String) (h : w.Logs Entry.Stated) :
    (w.registerDevice b user device).Logs Entry.Stated := by
  unfold registerDevice
  split
  · exact h
  · exact World.Logs.say_singleton h fun _ => ⟨.deviceUnknown user anyError, rfl, rfl, rfl⟩

lemma stated_removeDevice (user : Id) (h : w.Logs Entry.Stated) :
    (w.removeDevice b user).Logs Entry.Stated := by
  unfold removeDevice
  split
  · exact h
  · exact World.Logs.say_singleton h fun _ => ⟨.deviceKept user anyError, rfl, rfl, rfl⟩

lemma stated_execute (p : Plan) (notices : ∀ e ∈ p.notices, e.Stated) (h : w.Logs Entry.Stated) :
    (execute b p w).2.Logs Entry.Stated := by
  unfold execute
  split
  · exact World.Logs.say_singleton h (stated_uncommitted _ _)
  next s _ =>
    have announced := stated_announce (w := w.withStore s) p.operation p.events h
    have forgotten : (((w.withStore s).announce p.operation p.events).forget b p.forget).Logs
        Entry.Stated := by
      unfold forget
      split
      · exact stated_removeDevice b _ announced
      · exact announced
    exact forgotten.say notices

/-- A command logs statements only, -/
lemma stated_perform (c : Command) (h : w.Logs Entry.Stated) :
    (w.perform b c).2.Logs Entry.Stated := by
  unfold perform
  split
  · exact h.say fun e he => stated_of_mem_log he
  next p planned =>
    exact stated_execute b p ((Command.plan_eq_ok_iff ..).mp planned).stated_notices h

/-- and so does a query. -/
lemma stated_ask (q : Query) (h : w.Logs Entry.Stated) : (w.ask b q).2.Logs Entry.Stated := by
  unfold ask
  split
  · exact h.say fun e he => stated_of_mem_log he
  · exact h

end World

/-! ## What is said about requests -/

namespace Http

lemma stated_fieldEntry (method path : String) (faults : List Form.FieldFault) :
    (fieldEntry method path faults).Stated := fun brief =>
  ⟨.misfilled path method (brief.figure "error_count" _ (.tail _ (.tail _ (.head _)))),
    rfl, rfl, rfl⟩

lemma stated_problemEntry (method path : String) (p : Problem) :
    (problemEntry method path p).Stated := fun brief =>
  ⟨.refused path method p.type
    (brief.figure "status_code" _ (.tail _ (.tail _ (.tail _ (.head _))))) p.detail, rfl, rfl, rfl⟩

lemma stated_refused (method path : String) (r : Refusal) :
    (refused method path r).2.Stated := by
  unfold refused
  split
  · exact stated_problemEntry _ _ _
  next d _ => exact fun _ => ⟨.unexpected path method d.name anyError, rfl, rfl, rfl⟩

variable {σ τ : Type} (b : Backend σ τ) {w : World σ}

lemma stated_present (method path : String) (status : Nat) (r : Except Refusal Product)
    (h : w.Logs Entry.Stated) : (present method path status r w).2.Logs Entry.Stated := by
  unfold present
  split
  · exact h
  · exact h.say_singleton (stated_refused _ _ _)

lemma stated_checkReady (h : w.Logs Entry.Stated) : (checkReady b w).2.Logs Entry.Stated := by
  unfold checkReady
  split
  · exact h
  · exact h.say_singleton fun _ => ⟨.unready anyError, rfl, rfl, rfl⟩

lemma stated_act (service method path : String) (status : Nat) (a : Action)
    (h : w.Logs Entry.Stated) : (act b service method path status a w).2.Logs Entry.Stated := by
  cases a with
  | live => exact h
  | ready => exact stated_checkReady b h
  | command c => exact stated_present _ _ _ _ (World.stated_perform b c h)
  | query q => exact stated_present _ _ _ _ (World.stated_ask b q h)
  | registerDevice user device => exact World.stated_registerDevice b user device h
  | removeDevice user => exact World.stated_removeDevice b user h

/-- **The answer to a request logs statements only**, whatever the request is. -/
theorem stated_respond (service : String) (r : Request) (h : w.Logs Entry.Stated) :
    (respond b service r w).2.Logs Entry.Stated := by
  unfold respond
  dsimp only
  split
  · exact h
  · exact h
  · exact h
  · split
    · exact h
    · exact h.say_singleton (stated_fieldEntry _ _ _)
    · exact stated_act b _ _ _ _ _ h

end Http

/-! ## What is said about events -/

lemma Notification.Note.stated {e : Entry} (h : Note e) : e.Stated := by
  intro brief
  cases h with
  | rejected recipient code =>
    exact ⟨.rejected recipient (brief.figure "status_code" code (.tail _ (.head _))),
      rfl, rfl, rfl⟩
  | kept recipient => exact ⟨.kept recipient, rfl, rfl, rfl⟩
  | undelivered recipient reason => exact ⟨.undelivered recipient reason, rfl, rfl, rfl⟩
  | sent action count failed =>
    exact ⟨.delivered action.tag (brief.figure "recipients" count (.tail _ (.head _)))
      (brief.figure "failed" failed (.tail _ (.tail _ (.head _)))), rfl, rfl, rfl⟩

lemma stated_exhaustedEntry (function last : String) (attempts : Nat) (total : Binary64) :
    (Retry.exhaustedEntry function last attempts total).Stated := by
  intro brief
  let n := brief.figure "attempts" attempts (.tail _ (.head _))
  have told := fill_name "All retry attempts exhausted for %s" "All retry attempts exhausted for "
    "" 34 (by decide) function
  rw [String.append_empty] at told
  exact ⟨.exhausted function n last total, rfl, told, rfl⟩

lemma Dispatcher.Note.stated {e : Entry} (h : Note e) : e.Stated := by
  cases h with
  | exhausted i attempts total => exact stated_exhaustedEntry _ _ attempts total
  | unseen attempts waited =>
    exact fun brief => ⟨.unseen (brief.figure "attempts" attempts (.head _)) waited, rfl, rfl, rfl⟩
  | unreadable x => exact fun _ => ⟨.unfetched x.isCorruption anyError, rfl, rfl, rfl⟩
  | failed processor => exact fun _ => ⟨.unprocessed processor anyError, rfl, rfl, rfl⟩
  | processed => exact fun _ => ⟨.processed, rfl, rfl, rfl⟩
  | unmarked => exact fun _ => ⟨.unmarked anyError, rfl, rfl, rfl⟩

/-- A processor that tells the members of groups logs statements only. -/
theorem Processor.stated_notifier {σ τ : Type} (b : Backend σ τ) (e : Event) {w : World σ}
    (h : w.Logs Entry.Stated) : ((Processor.notifier b).handle e w).2.Logs Entry.Stated :=
  logs_notifier (fun _ => Notification.Note.stated) b e h

lemma Announcement.stated_malformed {p : Payload} {i : Option Id} {log : List Entry}
    (h : malformed p = .ok (i, log)) : ∀ e ∈ log, e.Stated := by
  obtain ⟨s, -, same⟩ := (map_eq_ok_iff ..).mp h
  obtain ⟨-, rfl⟩ := Prod.mk.inj same
  intro e he
  obtain rfl := List.mem_singleton.mp he
  exact fun _ => ⟨.malformed _, rfl, rfl, rfl⟩

lemma Announcement.stated_receive {p : Payload} {i : Option Id} {log : List Entry}
    (h : receive p = .ok (i, log)) : ∀ e ∈ log, e.Stated := by
  unfold receive at h
  split at h
  · split at h
    · obtain ⟨-, rfl⟩ := Prod.mk.inj (Except.ok.inj h)
      exact fun _ he => nomatch he
    · exact stated_malformed h
  · exact stated_malformed h
  · cases h

namespace Dispatcher

variable {σ τ : Type} (b : Backend σ τ) {d : Dispatcher σ}
  (quiet : ∀ p ∈ d.processors, ∀ e w, w.Logs Entry.Stated → (p.handle e w).2.Logs Entry.Stated)
  {w : World σ}

include quiet

lemma stated_dispatch (i : Id) (h : w.Logs Entry.Stated) :
    (d.dispatch b undisturbed i w).2.Logs Entry.Stated :=
  logs_dispatch (fun _ => Note.stated) b d (fun _ _ h => h) quiet i h

lemma stated_step (h : w.Logs Entry.Stated) {r : Except Retry.Fault Bool × World σ}
    (step : d.step? b w = some r) : r.2.Logs Entry.Stated := by
  obtain ⟨⟨i, bus⟩, -, rfl⟩ := Option.map_eq_some_iff.mp step
  exact stated_dispatch b quiet i h

lemma stated_drainSome (n : Nat) (h : w.Logs Entry.Stated) :
    (d.drainSome b n w).2.Logs Entry.Stated := by
  induction n generalizing w with
  | zero => exact h
  | succ n ih =>
    unfold drainSome
    split
    · exact h
    next step => exact ih (stated_step b quiet h step)
    next step => exact stated_step b quiet h step

/-- Handling everything that waits in a queue logs statements only, -/
theorem stated_drain (h : w.Logs Entry.Stated) : (d.drain b w).2.Logs Entry.Stated :=
  stated_drainSome b quiet _ h

lemma stated_receive (type : String) (p : Announcement.Payload) (h : w.Logs Entry.Stated) :
    (d.receive b type p w).2.Logs Entry.Stated := by
  unfold receive
  split
  · split
    · exact h
    next log received => exact h.say (Announcement.stated_receive received)
    next i log received =>
      have stated := stated_dispatch b quiet i (h.say (Announcement.stated_receive received))
      split <;> simp_all
  · exact h

lemma stated_receiveAll (messages : List Incoming) (h : w.Logs Entry.Stated) :
    (d.receiveAll b messages w).2.Logs Entry.Stated := by
  induction messages generalizing w with
  | nil => exact h
  | cons m rest ih =>
    cases m with
    | lost => exact h
    | message type p =>
      have stated := stated_receive b quiet type p h
      unfold receiveAll
      split
      next w' received =>
        rw [received] at stated
        exact ih stated
      next f w' received =>
        rw [received] at stated
        exact stated

/-- and so does listening on a channel. -/
theorem stated_listen (channel : String) (messages : List Incoming) (h : w.Logs Entry.Stated) :
    (d.listen b channel messages w).2.Logs Entry.Stated := by
  have subscribed : (w.observe (.subscribed channel)).Logs Entry.Stated :=
    logs_append.mpr ⟨h, logs_of_notMem (by simp)⟩
  have stated := stated_receiveAll b quiet messages subscribed
  exact logs_append.mpr ⟨stated, logs_of_notMem (by simp)⟩

omit quiet in
/-- **The worker of the program logs statements only**, because its processors do nothing but tell
the members of groups. -/
theorem stated_worker (own : ∀ p ∈ d.processors, p = Processor.notifier b) (channel : String)
    (messages : List Incoming) (h : w.Logs Entry.Stated) :
    (d.drain b w).2.Logs Entry.Stated ∧
      (d.listen b channel messages w).2.Logs Entry.Stated := by
  have quiet : ∀ p ∈ d.processors, ∀ e w, w.Logs Entry.Stated →
      (p.handle e w).2.Logs Entry.Stated := by
    intro p hp e w h
    rw [own p hp]
    exact Processor.stated_notifier b e h
  exact ⟨stated_drain b quiet h, stated_listen b quiet channel messages h⟩

end Dispatcher

/-! ## What is said from the beginning to the end -/

namespace Deployment

variable {ε : Type}

/-- Everything that is logged in the course of happenings is a statement. -/
def StatedIn (hs : List (Happening ε)) : Prop := ∀ e, .logged e ∈ hs → e.Stated

lemma statedIn_append {hs ks : List (Happening ε)} :
    StatedIn (hs ++ ks) ↔ StatedIn hs ∧ StatedIn ks := by
  simp only [StatedIn, List.mem_append]
  exact ⟨fun h => ⟨fun e he => h e (.inl he), fun e he => h e (.inr he)⟩,
    fun h e he => he.elim (h.1 e) (h.2 e)⟩

lemma statedIn_of_notMem {hs : List (Happening ε)} (h : ∀ e, .logged e ∉ hs) : StatedIn hs :=
  fun e he => absurd he (h e)

lemma stated_databaseEntry (s : Settings.Store) : (databaseEntry s).Stated := fun brief =>
  ⟨.databaseStore (brief.figure "pool_size" s.poolSize (.head _)), rfl, rfl, rfl⟩

lemma stated_busEntry (b : Bus) : (busEntry b).Stated := fun _ => by
  cases b with
  | queue _ _ => exact ⟨.queueBus, rfl, rfl, rfl⟩
  | channel name _ _ => exact ⟨.channelBus name, rfl, rfl, rfl⟩

lemma stated_processorEntry (n : Option Notification.Transport) : (processorEntry n).Stated :=
  fun _ => by
  cases n with
  | none => exact ⟨.unnotified, rfl, rfl, rfl⟩
  | some t => exact ⟨.joined "Notifier", rfl, rfl, rfl⟩

lemma stated_ending (name : String) (how : Race.Ending ε) : (how.entry name).Stated := by
  intro _
  cases how with
  | returned => exact ⟨.exited name, rfl, fill_name "%s exited" "" " exited" 1 (by decide) name, rfl⟩
  | failed _ =>
    exact ⟨.broken name anyError, rfl,
      fill_name "%s stopped with an error" "" " stopped with an error" 1 (by decide) name, rfl⟩
  | cancelled =>
    exact ⟨.cancelled name, rfl,
      fill_name "%s was cancelled" "" " was cancelled" 1 (by decide) name, rfl⟩

lemma statedIn_openStore (reaches : String → Bool) (s : Settings.Store) :
    StatedIn (openStore (ε := ε) reaches s).1 := by
  have memory : (Entry.info "Using in-memory store" []).Stated := fun _ =>
    ⟨.memoryStore, rfl, rfl, rfl⟩
  have schema : schemaEntry.Stated := fun _ => ⟨.schema, rfl, rfl, rfl⟩
  have database := stated_databaseEntry s
  unfold openStore
  split
  · split
    · simp [StatedIn]
    · split
      · simp [StatedIn]
      · split
        · split <;> simp [StatedIn, schema, database]
        · simp [StatedIn, database]
  · simp [StatedIn, memory]

lemma statedIn_openBus (s : Settings.EventBus) : StatedIn (openBus (ε := ε) s).1 := by
  unfold openBus
  split
  · exact statedIn_of_notMem (by simp)
  next bus _ => simpa [StatedIn] using stated_busEntry bus

lemma statedIn_openNotifications (s : Settings.Notifications) :
    StatedIn (openNotifications (ε := ε) s).1 := by
  unfold openNotifications
  split
  · exact statedIn_of_notMem (by simp)
  next n _ =>
    refine statedIn_append.mpr ⟨statedIn_of_notMem ?_, ?_⟩
    · split <;> simp
    · simpa [StatedIn] using stated_processorEntry n

lemma statedIn_build (reaches : String → Bool) (s : Settings) :
    StatedIn (build (ε := ε) reaches s).1 := by
  have first := statedIn_openStore (ε := ε) reaches s.store
  have second := statedIn_openBus (ε := ε) s.eventBus
  have third := statedIn_openNotifications (ε := ε) s.notifications
  unfold build
  split
  next opened => rwa [opened] at first
  next opened =>
    rw [opened] at first
    split
    next opened =>
      rw [opened] at second
      exact statedIn_append.mpr ⟨first, second⟩
    next opened =>
      rw [opened] at second
      split
      all_goals
        next opened =>
          rw [opened] at third
          exact statedIn_append.mpr ⟨statedIn_append.mpr ⟨first, second⟩, third⟩

lemma statedIn_close (fails : Resource → Option ε) (rs : List Resource) :
    StatedIn (close fails rs).1 := by
  refine statedIn_of_notMem fun e he => ?_
  induction rs with
  | nil => cases he
  | cons r rest ih =>
    rw [close] at he
    split at he
    · simp at he
    · simp at he
      exact ih he

lemma statedIn_ends (part : String) (how : Race.Ending ε) : StatedIn (ends part how) := by
  have stopped : (Entry.info "Event worker stopped" []).Stated := fun _ =>
    ⟨.stopped, rfl, rfl, rfl⟩
  unfold ends
  split <;> simp [StatedIn, stopped]

lemma statedIn_begins (d : Deployment) (p : Race.Part ε) : StatedIn (begins d p) := by
  have started : (Entry.info "Event worker started"
      [("processors", .integer (processors d.notifications).length)]).Stated := fun brief =>
    ⟨.started (brief.figure "processors" _ (.head _)), rfl, rfl, rfl⟩
  have greeted : StatedIn (greeting (ε := ε) d p.name) := by
    unfold greeting
    split <;> simp [StatedIn, started]
  have ended : StatedIn ((p.ending.map (ends p.name)).getD []) := by
    cases p.ending with
    | none => simp [StatedIn]
    | some how => exact statedIn_ends p.name how
  intro e he
  rcases List.mem_cons.mp he with same | he
  · cases same
  · exact statedIn_append.mpr ⟨greeted, ended⟩ e he

lemma statedIn_race (d : Deployment) (parts : List (Race.Part ε)) : StatedIn (race d parts) := by
  refine statedIn_append.mpr ⟨statedIn_append.mpr ⟨?begins, ?log⟩, ?ceases⟩
  case begins =>
    intro e he
    obtain ⟨p, -, he⟩ := List.mem_flatMap.mp he
    exact statedIn_begins d p e he
  case log =>
    intro e he
    obtain ⟨x, hx, same⟩ := List.mem_map.mp he
    obtain rfl := Happening.logged.inj same
    obtain ⟨p, -, ended⟩ := List.mem_filterMap.mp hx
    obtain ⟨how, -, rfl⟩ := Option.map_eq_some_iff.mp ended
    exact stated_ending p.name how
  case ceases =>
    intro e he
    obtain ⟨p, -, he⟩ := List.mem_flatMap.mp he
    unfold ceases at he
    split at he
    · cases he
    · exact statedIn_ends p.name .cancelled e he

/-- **The program logs statements only**, from its beginning to its end. -/
theorem stated_run {s : Settings} {c : Conditions ε} {r : Run ε} (h : run? s c = some r) :
    ∀ e ∈ r.log, e.Stated := by
  have happened : StatedIn r.happenings := by
    have opened := statedIn_build (ε := ε) c.reaches s
    unfold run? at h
    split at h
    next opening f built =>
      obtain rfl := Option.some.inj h
      rwa [built] at opened
    next opening d built =>
      rw [built] at opened
      dsimp only at h
      split at h
      · obtain rfl := Option.some.inj h
        exact statedIn_append.mpr
          ⟨statedIn_append.mpr ⟨opened, statedIn_race d c.parts⟩, statedIn_close _ _⟩
      · cases h
  intro e he
  obtain ⟨x, hx, noted⟩ := List.mem_filterMap.mp he
  cases x with
  | logged y =>
    obtain rfl := Option.some.inj noted
    exact happened _ hx
  | _ => cases noted

end Deployment

end CommonPurse
