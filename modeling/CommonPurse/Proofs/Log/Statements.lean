import CommonPurse.Balance
import CommonPurse.Proofs.Log.Lines

/-!
# What the program says

Every statement of the program in its log: who makes it, how grave it is, with which template and
arguments, whether it goes with an error that was caught, and what else is known. Each of them has
a line whatever its values are, except one: the balances that do not even out belong to
identifiers, and so what is said about them is lost.

## Main definitions

* `CommonPurse.Log.Datum`, `CommonPurse.Log.Telling` — what a logger is told.
* `CommonPurse.Log.Statement` — the statements of the program, and `Statement.telling` what they say.
* `CommonPurse.Log.Site` — where and when a statement is made.

## Main results

* `CommonPurse.Log.Statement.sound` — no statement takes an attribute that records have.
* `CommonPurse.Log.Statement.writes_or_loses` — which statements are written, and which are lost.
* `CommonPurse.Log.Statement.not_writes_sampleDeltas` — a settlement about which nothing is written.
-/

namespace CommonPurse.Log

open CommonPurse.Text

/-! ## Values and their tellings -/

/-- A count, a status or a size: a whole number that is not too long to be read. -/
structure Figure where
  value : Int
  short : (natText value.natAbs).length ≤ Json.readNumber.maxIntegerDigits

/-- A value that the program gives a logger. -/
inductive Datum where
  | text (s : String)
  | flag (b : Bool)
  | figure (n : Figure)
  | real (x : Binary64)
  | texts (l : List String)
  | balances (b : Balance.Balances)

namespace Datum

/-- The value in a record. -/
def value : Datum → Value
  | text s => .text s
  | flag b => .bool b
  | figure n => .integer n.value
  | real x => .real x
  | texts l => .array (l.map .text)
  | balances b => Balance.logged b

/-- Nothing in a value belongs to identifiers. -/
def Named (d : Datum) : Prop := ∀ b, d = balances b → b = []

lemma Named.writable {d : Datum} (h : d.Named) : d.value.Writable := by
  cases d with
  | text s => exact .text s
  | flag b => exact .bool b
  | figure n => exact .integer n.short
  | real x => exact .real x
  | texts l =>
    refine .array fun v hv => ?_
    obtain ⟨s, -, rfl⟩ := List.mem_map.mp hv
    exact .text s
  | balances b =>
    obtain rfl := h b rfl
    exact .noOne

end Datum

/-- What a logger is told. -/
structure Telling where
  level : Level
  template : String
  arguments : List Datum
  caught : Option Caught
  fields : List (String × Datum)

/-- Where and when a logger is told something. The year can be written with four digits. -/
structure Site where
  logger : String
  file : String
  line : Nat
  short : (natText line).length ≤ Json.readNumber.maxIntegerDigits
  created : Binary64
  dated : 1 ≤ (Calendar.civil (microsOf (.real created) / Timestamp.day)).1 ∧
    (Calendar.civil (microsOf (.real created) / Timestamp.day)).1 ≤ 9999

namespace Telling

/-- The record of what is told somewhere. -/
def record (t : Telling) (p : Site) : Record where
  logger := p.logger
  level := t.level
  file := p.file
  line := p.line
  template := t.template
  arguments := t.arguments.map Datum.value
  created := .real p.created
  caught := t.caught
  stack := ""
  extra := t.fields.map fun f => (f.1, f.2.value)

/-- The template can be filled, and the fields are neither called like one another nor like an
attribute that every record has. -/
structure Sound (t : Telling) : Prop where
  fills : ∃ m, Template.fill t.template (t.arguments.map Datum.value) = .ok m
  distinct : (t.fields.map (·.1)).Nodup
  own : ∀ f ∈ t.fields, f.1 ∉ Record.standardNames ∧ f.1 ∉ Layout.reserved

/-- Nothing that is told belongs to identifiers. -/
def Named (t : Telling) : Prop := (∀ d ∈ t.arguments, d.Named) ∧ ∀ f ∈ t.fields, f.2.Named

variable {t : Telling}

lemma names_extra (t : Telling) (p : Site) : (t.record p).extra.map (·.1) = t.fields.map (·.1) := by
  rw [record, List.map_map]
  rfl

namespace Sound

/-- An attribute that every record has is not hidden. -/
lemma attribute?_eq (h : t.Sound) (p : Site) {name : String} (hn : name ∈ Record.standardNames) :
    (t.record p).attribute? name = Record.find? name (t.record p).standard := by
  have none : Record.find? name (t.record p).extra = none := by
    refine Option.map_eq_none_iff.mpr (List.find?_eq_none.mpr fun f hf same => ?_)
    have standing : f.1 ∈ t.fields.map (·.1) := names_extra t p ▸ List.mem_map_of_mem hf
    obtain ⟨g, hg, name⟩ := List.mem_map.mp standing
    exact (h.own g hg).1 (by rwa [name, beq_iff_eq.mp same])
  rw [Record.attribute?, none, Option.none_or]

lemma message_eq (h : t.Sound) (p : Site) :
    (t.record p).message = Template.fill t.template (t.arguments.map Datum.value) := by
  rw [Record.message, Record.textOf, h.attribute?_eq p (by decide)]
  rfl

lemma exists_stamp (h : t.Sound) (p : Site) : ∃ s, (t.record p).stamp = .ok s := by
  have created : (t.record p).attribute? "created" = some (.real p.created) := by
    rw [h.attribute?_eq p (by decide)]
    rfl
  exact ⟨_, by rw [Record.stamp, created]; exact if_pos p.dated⟩

/-- **What is told has a writable record** if nothing in it belongs to identifiers. -/
lemma writable (h : t.Sound) (named : t.Named) (p : Site) : (t.record p).Writable where
  arguments v hv := by
    obtain ⟨d, hd, rfl⟩ := List.mem_map.mp hv
    exact (named.1 d hd).writable
  created := .real p.created
  line := p.short
  extra f hf := by
    obtain ⟨g, hg, rfl⟩ := List.mem_map.mp hf
    exact (named.2 g hg).writable
  distinct := names_extra t p ▸ h.distinct
  message := h.message_eq p ▸ h.fills
  stamp := h.exists_stamp p

end Sound

end Telling

/-! ## Statements -/

/-- What the program says, with the values that it depends on. -/
inductive Statement where
  -- the parts that run
  | cancelled (part : String)
  | broken (part : String) (caught : Caught)
  | exited (part : String)
  -- requests
  | refused (path method type : String) (status : Figure) (detail : String)
  | misfilled (path method : String) (faults : Figure)
  | unexpected (path method type : String) (caught : Caught)
  | unready (caught : Caught)
  -- accounts, groups and devices
  | registered (user : Id)
  | unregistered (user : Id)
  | founded (group user : Id)
  | settled (group : Id) (transfers : Figure)
  | dissolved (group : Id)
  | deviceUnknown (user : Id) (caught : Caught)
  | deviceKept (user : Id) (caught : Caught)
  -- units of work
  | uncommitted (operation : String) (corrupted : Bool) (caught : Caught)
  | unread (operation : String) (corrupted : Bool) (caught : Caught)
  | unpublished (operation : String) (events : List Id) (reason : String)
  | published (operation : String) (count : Figure)
  | committed (operations : Figure)
  -- settlements
  | unbalanced (deltas : Balance.Balances)
  | unsettled (iterations : Figure)
  -- notifications
  | undelivered (recipient : Id) (reason : String)
  | delivered (kind : String) (recipients failed : Figure)
  | rejected (recipient : Id) (status : Figure)
  | kept (recipient : Id)
  -- events
  | joined (processor : String)
  | unseen (attempts : Figure) (waited : Binary64)
  | unfetched (corrupted : Bool) (caught : Caught)
  | unprocessed (processor : String) (caught : Caught)
  | unmarked (caught : Caught)
  | processed
  | listening
  | subscribed (channel : String)
  | malformed (payload : String)
  | started (processors : Figure)
  | stopped
  -- repeated attempts
  | exhausted (function : String) (attempts : Figure) (last : String) (total : Binary64)
  | retrying (function : String) (attempt most : Figure) (delay : Binary64) (reason : String)
  -- what is opened
  | unnotified
  | queueBus
  | channelBus (channel : String)
  | memoryStore
  | databaseStore (pool : Figure)
  | schema

namespace Statement

/-- What a statement tells a logger. -/
def telling : Statement → Telling
  | cancelled part => ⟨.warning, "%s was cancelled", [.text part], none, []⟩
  | broken part caught => ⟨.error, "%s stopped with an error", [.text part], some caught, []⟩
  | exited part => ⟨.info, "%s exited", [.text part], none, []⟩
  | refused path method type status detail =>
    ⟨if 500 ≤ status.value then .error else .warning, "Application exception occurred", [], none,
      [("path", .text path), ("method", .text method), ("exception_type", .text type),
        ("status_code", .figure status), ("detail", .text detail)]⟩
  | misfilled path method faults =>
    ⟨.warning, "Request validation failed", [], none,
      [("path", .text path), ("method", .text method), ("error_count", .figure faults)]⟩
  | unexpected path method type caught =>
    ⟨.error, "Unexpected exception occurred", [], some caught,
      [("path", .text path), ("method", .text method), ("exception_type", .text type)]⟩
  | unready caught => ⟨.warning, "Store readiness check failed", [], some caught, []⟩
  | registered user => ⟨.info, "User registered", [], none, [("user_id", .text user.text)]⟩
  | unregistered user => ⟨.info, "User deleted", [], none, [("user_id", .text user.text)]⟩
  | founded group user =>
    ⟨.info, "Group created", [], none,
      [("group_id", .text group.text), ("user_id", .text user.text)]⟩
  | settled group transfers =>
    ⟨.info, "Group settled", [], none,
      [("group_id", .text group.text), ("transactions", .figure transfers)]⟩
  | dissolved group => ⟨.info, "Group deleted", [], none, [("group_id", .text group.text)]⟩
  | deviceUnknown user caught =>
    ⟨.error, "Failed to register device", [], some caught, [("user_id", .text user.text)]⟩
  | deviceKept user caught =>
    ⟨.error, "Failed to remove device", [], some caught, [("user_id", .text user.text)]⟩
  | uncommitted operation corrupted caught =>
    ⟨.error, "Unit of work failed", [], some caught,
      [("operation", .text operation), ("corrupted_data", .flag corrupted)]⟩
  | unread operation corrupted caught =>
    ⟨.error, "Storage read failed", [], some caught,
      [("operation", .text operation), ("corrupted_data", .flag corrupted)]⟩
  | unpublished operation events reason =>
    ⟨.warning, "Failed to publish committed events", [], none,
      [("operation", .text operation), ("event_ids", .texts (events.map Id.text)),
        ("error", .text reason)]⟩
  | published operation count =>
    ⟨.debug, "Published events", [], none,
      [("operation", .text operation), ("count", .figure count)]⟩
  | committed operations =>
    ⟨.debug, "Committed in-memory transaction", [], none, [("operations", .figure operations)]⟩
  | unbalanced deltas =>
    ⟨.error, "Cannot settle, deltas do not sum to zero", [], none, [("deltas", .balances deltas)]⟩
  | unsettled iterations =>
    ⟨.error, "Settlement did not converge", [], none, [("iterations", .figure iterations)]⟩
  | undelivered recipient reason =>
    ⟨.warning, "Notification failed", [], none,
      [("recipient_id", .text recipient.text), ("error", .text reason)]⟩
  | delivered kind recipients failed =>
    ⟨.info, "Group notifications sent", [], none,
      [("kind", .text kind), ("recipients", .figure recipients), ("failed", .figure failed)]⟩
  | rejected recipient status =>
    ⟨.warning, "Pushy rejected notification", [], none,
      [("recipient_id", .text recipient.text), ("status_code", .figure status)]⟩
  | kept recipient =>
    ⟨.debug, "Recorded notification", [], none, [("recipient_id", .text recipient.text)]⟩
  | joined processor =>
    ⟨.info, "Registered event processor", [], none, [("processor", .text processor)]⟩
  | unseen attempts waited =>
    ⟨.warning, "Event not visible in the log, skipping", [], none,
      [("attempts", .figure attempts), ("waited", .real waited)]⟩
  | unfetched corrupted caught =>
    ⟨.error, "Failed to fetch event, skipping", [], some caught,
      [("corrupted_data", .flag corrupted)]⟩
  | unprocessed processor caught =>
    ⟨.error, "Event processor failed", [], some caught, [("processor", .text processor)]⟩
  | unmarked caught => ⟨.error, "Failed to mark event processed", [], some caught, []⟩
  | processed => ⟨.debug, "Event processed", [], none, []⟩
  | listening => ⟨.info, "Listening for events on the in-process queue", [], none, []⟩
  | subscribed channel =>
    ⟨.info, "Subscribed to event channel", [], none, [("channel", .text channel)]⟩
  | malformed payload =>
    ⟨.warning, "Ignoring malformed event id", [], none, [("payload", .text payload)]⟩
  | started processors =>
    ⟨.info, "Event worker started", [], none, [("processors", .figure processors)]⟩
  | stopped => ⟨.info, "Event worker stopped", [], none, []⟩
  | exhausted function attempts last total =>
    ⟨.warning, "All retry attempts exhausted for %s", [.text function], none,
      [("function", .text function), ("attempts", .figure attempts),
        ("last_exception", .text last), ("total_delay", .real total)]⟩
  | retrying function attempt most delay reason =>
    ⟨.debug, "Retrying %s after %.3fs (attempt %d/%d)",
      [.text function, .real delay, .figure attempt, .figure most], none,
      [("function", .text function), ("attempt", .figure attempt), ("max_attempts", .figure most),
        ("delay", .real delay), ("exception", .text reason)]⟩
  | unnotified =>
    ⟨.info, "Notifications disabled, events will only be marked processed", [], none, []⟩
  | queueBus => ⟨.info, "Using in-process event bus", [], none, []⟩
  | channelBus channel => ⟨.info, "Using Redis event bus", [], none, [("channel", .text channel)]⟩
  | memoryStore => ⟨.info, "Using in-memory store", [], none, []⟩
  | databaseStore pool => ⟨.info, "Using relational store", [], none, [("pool_size", .figure pool)]⟩
  | schema => ⟨.info, "Database schema ensured", [], none, []⟩

/-- The record of a statement that is made somewhere. -/
def record (s : Statement) (p : Site) : Record := s.telling.record p

/-- A statement about balances is about nobody's. -/
def Named (s : Statement) : Prop := ∀ deltas, s = unbalanced deltas → deltas = []

lemma Named.telling {s : Statement} (h : s.Named) : s.telling.Named := by
  cases s
  case unbalanced deltas =>
    obtain rfl := h deltas rfl
    simp [Statement.telling, Telling.Named, Datum.Named]
  all_goals simp [Statement.telling, Telling.Named, Datum.Named]

lemma fills (s : Statement) :
    ∃ m, Template.fill s.telling.template (s.telling.arguments.map Datum.value) = .ok m := by
  cases s <;> simp only [telling, List.map_cons, List.map_nil, Datum.value] <;> exact ⟨_, rfl⟩

lemma distinct (s : Statement) : (s.telling.fields.map (·.1)).Nodup := by
  cases s <;> simp [telling]

lemma own (s : Statement) :
    ∀ f ∈ s.telling.fields, f.1 ∉ Record.standardNames ∧ f.1 ∉ Layout.reserved := by
  cases s <;> simp [telling, Record.standardNames, Layout.reserved]

/-- **Every statement is sound**: its template can be filled with its arguments, and it takes no
attribute that records have. -/
theorem sound (s : Statement) : s.telling.Sound := ⟨s.fills, s.distinct, s.own⟩

/-! ## What becomes of statements -/

/-- A statement about somebody's balances is lost. -/
lemma loses_unbalanced (p : Site) {l : Layout} (free : "deltas" ∉ l.names)
    {deltas : Balance.Balances} (some : deltas ≠ []) : l.Loses ((unbalanced deltas).record p) := by
  let r := (unbalanced deltas).record p
  have unwritable : (Balance.logged deltas).json? = none := by
    obtain ⟨d, rest, rfl⟩ := List.exists_cons_of_ne_nil some
    rfl
  -- the attribute is the only one, and neither trouble nor the layout hides it
  have lost : ∀ {x : Record}, x.extra = r.extra → x.caught = none → x.stack = "" →
      (∃ m, x.message = .ok m) → (∃ s, x.stamp = .ok s) → l.line x = .error .notNamed := by
    intro x same caught stack ⟨message, told⟩ ⟨stamp, time⟩
    have only : x.extra = [("deltas", Balance.logged deltas)] := same
    have open_ : "deltas" ∉ Layout.reserved := by decide
    exact Layout.line_eq_notNamed told time (by simp [only]) (only ▸ List.mem_singleton_self _)
      unwritable open_ (Layout.notMem_told caught stack free message stamp)
  have sound := sound (unbalanced deltas)
  have told : r.message = .ok "Cannot settle, deltas do not sum to zero" := sound.message_eq p
  have time := sound.exists_stamp p
  obtain ⟨x, f⟩ := Record.exists_folds told
  have kept : x.extra = r.extra := by
    rw [f.extra]
    exact List.filter_eq_self.mpr (by simp [r, record, Telling.record, telling])
  exact ⟨lost rfl rfl rfl ⟨_, told⟩ time, x, f.folded,
    lost kept f.caught f.stack f.message (f.stamp ▸ time)⟩

/-- **Every statement is written, except those about somebody's balances, and these are lost.** The
statement may be made anywhere and with any values. The layout may ask for any attributes under any
names, and have members of its own that can stand in a line; a statement is lost if the layout does
not put anything else in the place of the balances.

**Proof sketch.** Every statement is sound, so it has a message and a time, and none of its fields
hides an attribute. If nothing in it belongs to identifiers, its record is writable, and the same
holds when the message has been folded. Balances belong to identifiers, which are no names. -/
theorem writes_or_loses (s : Statement) (p : Site) {l : Layout}
    (static : ∀ m ∈ l.static, m.2.Writable) :
    (s.Named → l.Writes (s.record p)) ∧
      (¬ s.Named → "deltas" ∉ l.names → l.Loses (s.record p)) := by
  refine ⟨fun named => (s.sound.writable named.telling p).writes static, fun unnamed free => ?_⟩
  rw [Named, not_forall] at unnamed
  obtain ⟨deltas, unnamed⟩ := unnamed
  obtain ⟨rfl, some⟩ := Classical.not_imp.mp unnamed
  exact loses_unbalanced p free some

/-! ## A settlement that does not balance -/

/-- The beginning of 1970, in the module of settlements. -/
def sampleSite : Site where
  logger := "koru_service.domain.settlement"
  file := "settlement.py"
  line := 83
  short := by decide
  created := .zero false
  dated := by decide +kernel

/-- One of three people has paid for two boats. -/
def samplePayments : List Balance.Payment :=
  List.replicate 2 ⟨.ofNat 16, .finite false (5 * 10 ^ 27) (-2)⟩

/-- Their balances, which a hundredth is missing from. -/
def sampleDeltas : Balance.Balances :=
  [(.ofNat 16, .finite false 6666666666666666666666666667 (-2)),
    (.ofNat 32, .finite true 3333333333333333333333333333 (-2)),
    (.ofNat 48, .finite true 3333333333333333333333333333 (-2))]

/-- A processor has failed. -/
def sampleFailing : Statement := unprocessed "Notifier" ⟨"ValueError", "boom"⟩

/-- A failing processor is written about, and balances are not. -/
theorem writes_sampleFailing :
    (∀ m ∈ (Layout.ofService "koru-service").static, m.2.Writable) ∧
      (Layout.ofService "koru-service").Writes (sampleFailing.record sampleSite) ∧
      (Layout.ofService "koru-service").Loses ((unbalanced sampleDeltas).record sampleSite) := by
  have static : ∀ m ∈ (Layout.ofService "koru-service").static, m.2.Writable := by
    simpa [Layout.ofService] using Value.Writable.text "koru-service"
  have unnamed : ¬ (unbalanced sampleDeltas).Named := fun named =>
    absurd (named sampleDeltas rfl) (by simp [sampleDeltas])
  have named : sampleFailing.Named := by simp [Named, sampleFailing]
  exact ⟨static, (writes_or_loses _ sampleSite static).1 named,
    (writes_or_loses _ sampleSite static).2 unnamed (by decide)⟩

/-- **What is said about a settlement that does not balance is lost.** The payments are accepted,
they lead to balances of which the sum is not zero, this is said, and the pipeline of the log does
not write anything. -/
theorem not_writes_sampleDeltas :
    (∀ p ∈ samplePayments, Entry.amount "5E+25" = .ok p.amount) ∧
      Balance.transfers samplePayments [.ofNat 16, .ofNat 32, .ofNat 48] =
        .error (.unbalanced sampleDeltas) ∧
      (Balance.Failure.unbalanced sampleDeltas).log.map (fun e =>
          e.record sampleSite.logger sampleSite.file sampleSite.line (.real sampleSite.created)) =
        [(unbalanced sampleDeltas).record sampleSite] ∧
      ¬ (Layout.ofService "koru-service").Writes ((unbalanced sampleDeltas).record sampleSite) ∧
      Pipeline.sampleConfigured.emit ((unbalanced sampleDeltas).record sampleSite) =
        Pipeline.sampleConfigured := by
  have loses : (Layout.ofService "koru-service").Loses
      ((unbalanced sampleDeltas).record sampleSite) :=
    loses_unbalanced sampleSite (by decide) (by simp [sampleDeltas])
  have accepted : ∀ p ∈ samplePayments, Entry.amount "5E+25" = .ok p.amount := by
    intro p hp
    obtain rfl := List.eq_of_mem_replicate hp
    rfl
  refine ⟨accepted, rfl, rfl, loses.not_writes, ?_⟩
  obtain ⟨-, x, folded, lost⟩ := loses
  have below : Pipeline.isRoot sampleSite.logger = false := by decide
  have out : Pipeline.sampleConfigured.filtered ((unbalanced sampleDeltas).record sampleSite) =
      (unbalanced sampleDeltas).record sampleSite :=
    if_neg fun h => absurd (below.symm.trans h.1) (by decide)
  have nothing : Pipeline.lineOf (Pipeline.outputOf Pipeline.sampleConfiguration)
      ((unbalanced sampleDeltas).record sampleSite) = .error .notNamed := by
    rw [Pipeline.lineOf, folded]
    exact lost
  have loud : ¬ ((unbalanced sampleDeltas).record sampleSite).level.number <
      Pipeline.sampleConfigured.threshold := by decide
  have queue : Pipeline.sampleConfigured.queue =
      some (Pipeline.outputOf Pipeline.sampleConfiguration) := rfl
  simp only [Pipeline.emit, if_neg loud, queue, out, nothing]

end Statement

end CommonPurse.Log
