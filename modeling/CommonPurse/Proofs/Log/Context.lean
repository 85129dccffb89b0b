import CommonPurse.Log.Pipeline
import Mathlib.Data.List.Nodup
import Mathlib.Tactic.Lemma

/-!
# Which lines carry the context

The filter that adds the context stands at the root logger, and a filter sees only what its own
logger is told. A record that another logger is told goes up to the handlers of the root without
passing that filter, so its line says nothing about the context.

## Main definitions

* `CommonPurse.Log.Pipeline.document?` — the document in the line of a record.
* `CommonPurse.Log.Pipeline.Serves` — a pipeline works as a configuration says.
* `CommonPurse.Log.Pipeline.Carries` — every line says what is in the context.

## Main results

* `CommonPurse.Log.Pipeline.get?_emit` — what is written to the log file for a record.
* `CommonPurse.Log.Pipeline.serves_configure`, `Serves.setContext`, `Serves.emit` — the pipeline
  goes on to work as it is configured.
* `CommonPurse.Log.Pipeline.carried_iff_isRoot` — a field of the context stands in a line exactly
  when the root logger has been told the record.
-/

namespace CommonPurse.Log

/-! ## Members of lines -/

namespace Layout

/-- What is offered gets in unless its name is reserved or taken; what is there stays. -/
lemma mem_foldl_offer_of_mem {members : List (String × Value)} {m : String × Value}
    (h : m ∈ members) (offered : List (String × Value)) : m ∈ offered.foldl offer members := by
  induction offered generalizing members with
  | nil => exact h
  | cons a rest ih =>
    refine ih ?_
    unfold offer
    split
    · exact h
    · exact List.mem_append_left _ h

/-- A member has been there, or has been offered. -/
lemma mem_of_mem_foldl_offer {members offered : List (String × Value)} {m : String × Value}
    (h : m ∈ offered.foldl offer members) : m ∈ members ∨ m ∈ offered := by
  induction offered generalizing members with
  | nil => exact .inl h
  | cons a rest ih =>
    rcases ih h with h | h
    · unfold offer at h
      split at h
      · exact .inl h
      · rcases List.mem_append.mp h with h | h
        · exact .inl h
        · exact .inr (List.mem_singleton.mp h ▸ List.mem_cons_self)
    · exact .inr (List.mem_cons_of_mem _ h)

/-- The first offer of a name that is neither reserved nor taken gets in.

**Proof sketch.** What is offered before it has other names, so its name is still free when its turn
comes; afterwards it stays. -/
lemma mem_foldl_offer {members before after : List (String × Value)} {m : String × Value}
    (open_ : m.1 ∉ reserved) (free : m.1 ∉ members.map (·.1)) (first : m.1 ∉ before.map (·.1)) :
    m ∈ (before ++ m :: after).foldl offer members := by
  rw [List.foldl_append, List.foldl_cons]
  refine mem_foldl_offer_of_mem ?_ after
  have untaken : ∀ x ∈ before.foldl offer members, x.1 ≠ m.1 := by
    intro x hx same
    rcases mem_of_mem_foldl_offer hx with hx | hx
    · exact free (same ▸ List.mem_map_of_mem hx)
    · exact first (same ▸ List.mem_map_of_mem hx)
  have admitted :
      ¬ (reserved.contains m.1 || (before.foldl offer members).any (·.1 == m.1)) = true := by
    simpa [open_] using fun v hx => untaken (m.1, v) hx rfl
  rw [offer, if_neg admitted]
  exact List.mem_append_right _ (List.mem_singleton_self m)

/-- The names that stand in every line of a service. -/
def ownNames : List String := ["level", "logger", "message", "timestamp", "service"]

/-- What stands in every line of a service. -/
def ownMembers (service : String) (r : Record) (message stamp : String) : List (String × Value) :=
  [("level", valueOf r message "levelname"), ("logger", valueOf r message "name"),
    ("message", valueOf r message "message"), ("timestamp", .text stamp),
    ("service", .text service)]

/-- The members of the line of a record that has nothing to say about trouble. -/
lemma members_ofService (service : String) {r : Record} (caught : r.caught = none)
    (stack : r.stack = "") (message stamp : String) :
    (ofService service).members r message stamp =
      r.extra.foldl offer (ownMembers service r message stamp) := by
  have quiet : trouble r = [] := by simp [trouble, caught, stack]
  simp [members, ofService, usualKeys, putAll, put, quiet, ownMembers]

/-- The document in the line of a record. -/
def document (l : Layout) (r : Record) : Except LineFault Json :=
  match r.message with
  | .error f => .error (.template f)
  | .ok message =>
    match r.stamp with
    | .error f => .error f
    | .ok stamp =>
      match (Value.object (l.members r message stamp)).json? with
      | some j => .ok j
      | none => .error .notNamed

/-- The line of a record is the text of that document. -/
lemma line_eq (l : Layout) (r : Record) : l.line r = (l.document r).map Json.spaced := by
  unfold line document
  cases r.message with
  | error f => rfl
  | ok message =>
    cases r.stamp with
    | error f => rfl
    | ok stamp =>
      simp only
      cases (Value.object (l.members r message stamp)).json? <;> rfl

end Layout

namespace Value

/-- A member of a value in a line, and the member of the document that it becomes. -/
lemma jsonMembers?_mem {members : List (String × Value)} {ms : List (String × Json)}
    (h : jsonMembers? members = some ms) (k : String) (j : Json) :
    (k, j) ∈ ms ↔ ∃ v, (k, v) ∈ members ∧ v.json? = some j := by
  induction members generalizing ms with
  | nil =>
    obtain rfl := Option.some.inj h
    simp
  | cons m rest ih =>
    obtain ⟨name, v⟩ := m
    rw [jsonMembers?, Option.bind_eq_some_iff] at h
    obtain ⟨x, hx, h⟩ := h
    obtain ⟨ns, hns, rfl⟩ := Option.map_eq_some_iff.mp h
    rw [List.mem_cons, ih hns]
    constructor
    · rintro (same | ⟨w, hw, hj⟩)
      · obtain ⟨rfl, rfl⟩ := Prod.mk.inj same
        exact ⟨v, List.mem_cons_self, hx⟩
      · exact ⟨w, List.mem_cons_of_mem _ hw, hj⟩
    · rintro ⟨w, hw, hj⟩
      rcases List.mem_cons.mp hw with same | hw
      · obtain ⟨rfl, rfl⟩ := Prod.mk.inj same
        exact .inl (Prod.ext rfl (Option.some.inj (hj.symm.trans hx)))
      · exact .inr ⟨w, hw, hj⟩

lemma json?_isSome_of_mem {members : List (String × Value)} {ms : List (String × Json)}
    (h : jsonMembers? members = some ms) {m : String × Value} (hm : m ∈ members) :
    ∃ j, m.2.json? = some j := by
  induction members generalizing ms with
  | nil => cases hm
  | cons a rest ih =>
    rw [jsonMembers?, Option.bind_eq_some_iff] at h
    obtain ⟨x, hx, h⟩ := h
    obtain ⟨ns, hns, -⟩ := Option.map_eq_some_iff.mp h
    rcases List.mem_cons.mp hm with rfl | hm
    · exact ⟨x, hx⟩
    · exact ih hns hm

end Value

/-! ## Adding the context -/

namespace Context

/-- What a context adds to a record: the fields that the record has no attribute for. -/
lemma inject_eq {fields : List (String × Value)} (distinct : (fields.map (·.1)).Nodup)
    (r : Record) :
    (⟨fields⟩ : Context).inject r =
      { r with extra := r.extra ++ fields.filter fun f => !r.hasAttribute f.1 } := by
  unfold inject
  induction fields generalizing r with
  | nil => simp
  | cons f rest ih =>
    rw [List.map_cons, List.nodup_cons] at distinct
    rw [List.foldl_cons, ih distinct.2]
    by_cases hf : r.hasAttribute f.1 = true
    · simp [offer, hf]
    · have later : ∀ g ∈ rest, ({ r with extra := r.extra ++ [f] } : Record).hasAttribute g.1 =
          r.hasAttribute g.1 := by
        intro g hg
        have hne : f.1 ≠ g.1 := fun same => distinct.1 (same ▸ List.mem_map_of_mem hg)
        have other : (f.1 == g.1) = false := by simpa using hne
        simp [Record.hasAttribute, other]
      rw [Bool.not_eq_true] at hf
      simp only [offer, hf, Bool.false_eq_true, ↓reduceIte, List.filter_cons, Bool.not_false]
      rw [List.filter_congr fun g hg => by rw [later g hg], List.append_assoc]
      rfl

end Context

/-! ## What is written -/

/-- A line goes to the end of a log file, which may have been emptied before. -/
lemma LogFile.get?_append (f : LogFile) (line : String) (d : Disk) :
    ∃ before, (f.append line d).get? f.path = some (before ++ line ++ "\n") :=
  ⟨_, (Store.Table.get?_put ..).trans (if_pos rfl)⟩

namespace Pipeline

/-- The document in the line that is written when a logger is told a record; nothing is written
below the threshold, before anything is configured, or as plain text. -/
def document? (q : Pipeline) (r : Record) : Option Json :=
  if r.level.number < q.threshold then none
  else
    match q.queue with
    | none => none
    | some o =>
      match o.layout, (q.filtered r).folded with
      | some l, .ok x => (l.document x).toOption
      | _, _ => none

/-- The document is made of the members of the record that comes out of the queue. -/
lemma document?_eq {q : Pipeline} {r y x : Record} {o : Output} {l : Layout}
    {message stamp : String} (loud : q.threshold ≤ r.level.number) (queue : q.queue = some o)
    (layout : o.layout = some l) (out : q.filtered r = y) (folded : y.folded = .ok x)
    (told : x.message = .ok message) (time : x.stamp = .ok stamp) :
    q.document? r = (Value.object (l.members x message stamp)).json? := by
  unfold document?
  rw [if_neg (Nat.not_lt.mpr loud), queue]
  simp only [layout, out, folded, Layout.document, told, time]
  cases (Value.object (l.members x message stamp)).json? <;> rfl

/-- **What is written to the log file for a record** is the text of that document, on a line of its
own at the end. -/
theorem get?_emit {q : Pipeline} {r : Record} {j : Json} (h : q.document? r = some j) {o : Output}
    (queue : q.queue = some o) {f : LogFile} (file : o.file = some f) :
    ∃ before, (q.emit r).disk.get? f.path = some (before ++ j.spaced ++ "\n") := by
  unfold document? at h
  split at h
  · cases h
  next loud =>
  rw [queue] at h
  simp only at h
  split at h
  next l x layout folded =>
    cases hd : l.document x with
    | error e => simp [hd, Except.toOption] at h
    | ok d =>
      rw [hd] at h
      obtain rfl := Option.some.inj h
      have line : lineOf o (q.filtered r) = .ok d.spaced := by
        simp [lineOf, folded, layout, Layout.line_eq, hd, Except.map]
      simp only [emit, if_neg loud, queue, line, write, file]
      exact f.get?_append ..
  · cases h

/-! ## Configured pipelines -/

/-- A pipeline works as a configuration says: with its threshold, its output, and the filter of the
context at the root if there is to be one. No name comes twice in the context. -/
structure Serves (c : Configuration) (q : Pipeline) : Prop where
  threshold : threshold? c.level = some q.threshold
  queue : q.queue = some (outputOf c)
  filters : c.includeContext = true → 0 < q.filters
  distinct : (q.context.fields.map (·.1)).Nodup

/-- A configuration that is applied is at work. -/
lemma serves_configure {c : Configuration} {p q : Pipeline} (h : p.configure c = some q)
    (distinct : (p.context.fields.map (·.1)).Nodup) : q.Serves c := by
  obtain ⟨n, hn, rfl⟩ := Option.map_eq_some_iff.mp h
  exact ⟨hn, rfl, fun context => by simp [context], distinct⟩

variable {c : Configuration} {q : Pipeline}

lemma names_put (name : String) (value : Value) (members : List (String × Value)) :
    (Layout.put name value members).map (·.1) =
      if name ∈ members.map (·.1) then members.map (·.1) else members.map (·.1) ++ [name] := by
  induction members with
  | nil => rfl
  | cons m rest ih =>
    obtain ⟨k, v⟩ := m
    by_cases hk : k = name
    · simp [Layout.put, hk]
    · simp only [Layout.put, if_neg hk, List.map_cons, ih, List.mem_cons, Ne.symm hk, false_or]
      split <;> simp

lemma nodup_putAll {members : List (String × Value)} (h : (members.map (·.1)).Nodup)
    (more : List (String × Value)) : ((Layout.putAll members more).map (·.1)).Nodup := by
  unfold Layout.putAll
  induction more generalizing members with
  | nil => exact h
  | cons m rest ih =>
    refine ih ?_
    rw [names_put]
    split
    · exact h
    · next new => exact List.Nodup.append h (List.nodup_singleton _) (by simpa using new)

/-- It stays at work when the context changes, -/
lemma Serves.setContext (h : q.Serves c) (fields : List (String × Value)) :
    (q.setContext fields).Serves c :=
  { h with distinct := nodup_putAll h.distinct fields }

/-- and when loggers are told something. -/
lemma Serves.emit (h : q.Serves c) (r : Record) : (q.emit r).Serves c := by
  unfold Pipeline.emit
  split
  · exact h
  · rw [h.queue]
    dsimp only
    split
    · exact { h with }
    · exact h

/-! ## The context in lines -/

/-- Whatever a configured pipeline writes holds the members of the line of the record that comes out
of the queue. -/
lemma document?_cases (h : q.Serves c) (json : c.json = true) {r : Record} {j : Json}
    (written : q.document? r = some j) :
    ∃ (x : Record) (message stamp : String) (ms : List (String × Json)),
      x.extra = (q.filtered r).extra.filter (·.1 ≠ "msg") ∧ j = .object ms ∧
      Value.jsonMembers? (x.extra.foldl Layout.offer
        (Layout.ownMembers c.service x message stamp)) = some ms := by
  have output : (outputOf c).layout = some (.ofService c.service) := by simp [outputOf, json]
  unfold document? at written
  split at written
  · cases written
  rw [h.queue] at written
  simp only [output] at written
  split at written
  next l x hl folded =>
    obtain rfl := Option.some.inj hl
    have quiet : x.caught = none ∧ x.stack = "" ∧
        x.extra = (q.filtered r).extra.filter (·.1 ≠ "msg") := by
      unfold Record.folded at folded
      cases hm : (q.filtered r).message with
      | error f => simp [hm, Except.map] at folded
      | ok m =>
        rw [hm] at folded
        obtain rfl := Except.ok.inj folded
        exact ⟨rfl, rfl, rfl⟩
    unfold Layout.document at written
    cases hm : x.message with
    | error f => simp [hm, Except.toOption] at written
    | ok message =>
      cases hs : x.stamp with
      | error f => simp [hm, hs, Except.toOption] at written
      | ok stamp =>
        simp only [hm, hs, Layout.members_ofService _ quiet.1 quiet.2.1, Value.json?] at written
        cases hj : Value.jsonMembers? (x.extra.foldl Layout.offer
            (Layout.ownMembers c.service x message stamp)) with
        | none => simp [hj, Except.toOption] at written
        | some ms =>
          simp only [hj, Option.map_some, Except.toOption, Option.some.injEq] at written
          exact ⟨x, message, stamp, ms, quiet.2.2, written.symm, hj⟩
  · cases written

/-- A field that a record has no attribute for has no reserved name, unless it is called like the
message of a line. -/
lemma notMem_reserved {r : Record} {name : String} (new : r.hasAttribute name = false)
    (free : name ∉ Layout.ownNames) : name ∉ Layout.reserved := by
  have standard : name ∉ Record.standardNames := by
    rw [Record.hasAttribute, Bool.or_eq_false_iff] at new
    simpa using new.1
  intro reserved
  have covered : ∀ n ∈ Layout.reserved, n ∈ Record.standardNames ∨ n ∈ Layout.ownNames := by decide
  exact (covered name reserved).elim standard free

lemma notMem_extra {r : Record} {name : String} (new : r.hasAttribute name = false) :
    name ∉ r.extra.map (·.1) := by
  rw [Record.hasAttribute, Bool.or_eq_false_iff] at new
  intro h
  obtain ⟨m, hm, rfl⟩ := List.mem_map.mp h
  exact absurd new.2 (by simpa using ⟨m.2, hm⟩)

/-- Below the root, a line holds what stands in every line and what the record says of its own
accord, whatever the context is. -/
lemma own_of_mem (serves : q.Serves c) (json : c.json = true) {r : Record}
    {ms : List (String × Json)} (written : q.document? r = some (.object ms))
    (below : isRoot r.logger = false) {name : String} {j : Json} (h : (name, j) ∈ ms) :
    name ∈ Layout.ownNames ∨ name ∈ r.extra.map (·.1) := by
  obtain ⟨x, message, stamp, ms', extra, same, members⟩ := document?_cases serves json written
  obtain rfl := Json.object.inj same
  have unfiltered : q.filtered r = r := if_neg fun h => by simp [below] at h
  obtain ⟨v, hv, -⟩ := (Value.jsonMembers?_mem members name j).mp h
  rcases Layout.mem_of_mem_foldl_offer hv with own | further
  · have standing : name ∈ (Layout.ownMembers c.service x message stamp).map (·.1) :=
      List.mem_map.mpr ⟨_, own, rfl⟩
    exact .inl standing
  · rw [extra, unfiltered] at further
    exact .inr (List.mem_map.mpr ⟨_, (List.mem_filter.mp further).1, rfl⟩)

/-- **A field of the context stands in a line exactly when the root logger has been told the
record.** The configuration writes JSON lines and has the filter of the context put up; the context
may be anything, the record has no attribute of the name of the field, and the name is none of those
that stand in every line.

**Proof sketch.** The members of a line are those of every line and the further attributes of the
record that comes out of the queue. If the root logger has been told the record, its filter has
added the field to these, and the formatter finds its name free. Any other logger has no filter, and
the record comes out of the queue with the attributes that it went in with. -/
theorem carried_iff_isRoot (serves : q.Serves c) (context : c.includeContext = true)
    (json : c.json = true) {r : Record} {ms : List (String × Json)}
    (written : q.document? r = some (.object ms)) {f : String × Value}
    (present : f ∈ q.context.fields) (new : r.hasAttribute f.1 = false)
    (free : f.1 ∉ Layout.ownNames) :
    (∃ j, f.2.json? = some j ∧ (f.1, j) ∈ ms) ↔ isRoot r.logger = true := by
  constructor
  · rintro ⟨j, -, hj⟩
    by_contra below
    rw [Bool.not_eq_true] at below
    exact (own_of_mem serves json written below hj).elim free (notMem_extra new)
  · intro root
    obtain ⟨x, message, stamp, ms', extra, same, members⟩ := document?_cases serves json written
    obtain rfl := Json.object.inj same
    have filtered : (q.filtered r).extra =
        r.extra ++ q.context.fields.filter fun g => !r.hasAttribute g.1 := by
      rw [Pipeline.filtered, if_pos ⟨root, serves.filters context⟩,
        Context.inject_eq serves.distinct r]
    obtain ⟨before, after, split⟩ := List.append_of_mem present
    have distinct := serves.distinct
    rw [split, List.map_append, List.map_cons, List.nodup_append] at distinct
    have named : f.1 ≠ "msg" := by
      rintro same
      rw [same] at new
      simp [Record.hasAttribute, Record.standardNames] at new
    have offered :
        f ∈ x.extra.foldl Layout.offer (Layout.ownMembers c.service x message stamp) := by
      rw [extra, filtered, split]
      simp only [List.filter_append, List.filter_cons, new, Bool.not_false, if_true, named,
        ne_eq, not_false_eq_true, decide_true, ← List.append_assoc]
      refine Layout.mem_foldl_offer (notMem_reserved new free) free fun taken => ?_
      obtain ⟨g, hg, hname⟩ := List.mem_map.mp taken
      rcases List.mem_append.mp hg with hg | hg
      · exact notMem_extra new (hname ▸ List.mem_map_of_mem (List.mem_filter.mp hg).1)
      · have earlier := (List.mem_filter.mp (List.mem_filter.mp hg).1).1
        exact distinct.2.2 g.1 (List.mem_map_of_mem earlier) f.1 List.mem_cons_self hname
    obtain ⟨j, hj⟩ := Value.json?_isSome_of_mem members offered
    exact ⟨j, hj, (Value.jsonMembers?_mem members f.1 j).mpr ⟨f.2, offered, hj⟩⟩

/-! ## A record of the dispatcher -/

/-- JSON lines in one file, with the context. -/
def sampleConfiguration : Configuration :=
  { Configuration.usual with file := some "koru.log", console := false }

/-- The pipeline to which `sampleConfiguration` has been applied. -/
def sampleConfigured : Pipeline :=
  { Pipeline.initial with
    threshold := 20
    filters := 1
    queue := some (outputOf sampleConfiguration)
    disk := LogFile.create ⟨"koru.log", 10485760, 5⟩ .empty }

/-- The same pipeline while an event is being dispatched. -/
def samplePipeline : Pipeline := sampleConfigured.setContext [("event_id", .text "e-1")]

/-- What a logger is told when a processor has failed, with further fields. -/
def sampleRecord (logger : String) (fields : List (String × Value)) : Record :=
  (Entry.error "Event processor failed" (("processor", .text "Notifier") :: fields)).record logger
    "dispatcher.py" 118 (.integer 0)

/-- What stands in its line, whatever the fields are. -/
def sampleMembers (logger : String) : List (String × Json) :=
  [("level", .text "ERROR"), ("logger", .text logger), ("message", .text "Event processor failed"),
    ("timestamp", .text "1970-01-01T00:00:00.000Z"), ("service", .text "koru-service"),
    ("processor", .text "Notifier")]

lemma configure_sampleConfiguration :
    Pipeline.initial.configure sampleConfiguration = some sampleConfigured := by
  have info : threshold? sampleConfiguration.level = some 20 := by decide +kernel
  rw [configure, info]
  rfl

lemma serves_samplePipeline : samplePipeline.Serves sampleConfiguration :=
  (serves_configure configure_sampleConfiguration List.nodup_nil).setContext _

lemma present_samplePipeline :
    ("event_id", Value.text "e-1") ∈ samplePipeline.context.fields :=
  List.mem_cons_self

/-- The time in the line of a record that was created at the beginning of 1970. -/
lemma stamp_of_created {r : Record} (h : (r.attribute? "created").getD r.created = .integer 0) :
    r.stamp = .ok "1970-01-01T00:00:00.000Z" := by
  have start : Calendar.civil 0 = (1970, 1, 1) := by decide
  have text : stampText 0 = "1970-01-01T00:00:00.000Z" := by decide
  simp [Record.stamp, h, microsOf, start, text]

/-- The line of a record that the root logger is told carries the context. -/
theorem carried_sampleRecord :
    samplePipeline.Serves sampleConfiguration ∧ sampleConfiguration.includeContext = true ∧
      sampleConfiguration.json = true ∧
      samplePipeline.document? (sampleRecord "root" []) =
        some (.object (sampleMembers "root" ++ [("event_id", .text "e-1")])) ∧
      ("event_id", Value.text "e-1") ∈ samplePipeline.context.fields ∧
      (sampleRecord "root" []).hasAttribute "event_id" = false ∧ "event_id" ∉ Layout.ownNames ∧
      ((∃ j, (Value.text "e-1").json? = some j ∧
          ("event_id", j) ∈ sampleMembers "root" ++ [("event_id", .text "e-1")]) ↔
        isRoot (sampleRecord "root" []).logger = true) := by
  have out : samplePipeline.filtered (sampleRecord "root" []) =
      sampleRecord "root" [("event_id", .text "e-1")] := rfl
  have written : samplePipeline.document? (sampleRecord "root" []) =
      some (.object (sampleMembers "root" ++ [("event_id", .text "e-1")])) :=
    (document?_eq (by decide) rfl rfl out rfl rfl (stamp_of_created rfl)).trans rfl
  have new : (sampleRecord "root" []).hasAttribute "event_id" = false := by decide
  have free : "event_id" ∉ Layout.ownNames := by decide
  exact ⟨serves_samplePipeline, rfl, rfl, written, present_samplePipeline, new, free,
    carried_iff_isRoot serves_samplePipeline rfl rfl written present_samplePipeline new free⟩

/-- Every line of a record that a logger below the root is told carries the fields of the context
that the record has no attribute for. -/
def Carries (q : Pipeline) : Prop :=
  ∀ r ms, isRoot r.logger = false → q.document? r = some (.object ms) →
    ∀ f ∈ q.context.fields, r.hasAttribute f.1 = false →
      ∃ j, f.2.json? = some j ∧ (f.1, j) ∈ ms

/-- **The context does not reach every record.** When the logger of the dispatcher is told that a
processor has failed, the line does not say for which event. -/
theorem not_carries_samplePipeline :
    samplePipeline.Serves sampleConfiguration ∧ sampleConfiguration.includeContext = true ∧
      sampleConfiguration.json = true ∧ sampleConfiguration.file = some "koru.log" ∧
      ¬ samplePipeline.Carries := by
  refine ⟨serves_samplePipeline, rfl, rfl, rfl, fun carries => ?_⟩
  let logger := "koru_service.infra.events.dispatcher"
  have below : isRoot logger = false := by decide
  have out : samplePipeline.filtered (sampleRecord logger []) = sampleRecord logger [] :=
    if_neg fun h => absurd (below.symm.trans h.1) (by decide)
  have written : samplePipeline.document? (sampleRecord logger []) =
      some (.object (sampleMembers logger)) :=
    (document?_eq (by decide) rfl rfl out rfl rfl (stamp_of_created rfl)).trans rfl
  obtain ⟨j, -, hj⟩ := carries _ _ below written _ present_samplePipeline (by decide)
  simp [sampleMembers] at hj

end Pipeline

end CommonPurse.Log
