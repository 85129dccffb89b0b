import CommonPurse.Proofs.Json.RoundTrip
import CommonPurse.Proofs.Log.Context

/-!
# Lines of records

A record whose values can stand in JSON has a line: one line of text that is read as an object. In
it stands what the layout asks for, and every further attribute that is neither reserved nor hidden
by what the layout asks for. One attribute that cannot stand in JSON is enough for there to be no
line at all.

## Main definitions

* `CommonPurse.Log.Value.Writable` — the values that can stand in a line.
* `CommonPurse.Log.Layout.told` — what a layout asks for, in the order in which it is written.
* `CommonPurse.Log.Layout.Lays` — the line of a record, and the members of its object.
* `CommonPurse.Log.Layout.Writes`, `CommonPurse.Log.Layout.Loses` — what becomes of a record.
* `CommonPurse.Log.Record.Writable` — the records whose values can stand in a line.
* `CommonPurse.Log.Record.Folds` — a record whose message has been folded.

## Main results

* `CommonPurse.Json.newline_notMem_spaced` — the text of a value has no line ends.
* `CommonPurse.Log.Record.Writable.hasLine` — a writable record has a line in every layout.
* `CommonPurse.Log.Record.Writable.writes` — it has one when its message is folded, too.
* `CommonPurse.Log.Layout.line_eq_notNamed` — a record with an unwritable attribute has no line.
-/

namespace CommonPurse.Json

open CommonPurse.Text

/-! ## Line ends -/

lemma newline_notMem_of_isDigit {s : List Char} (h : ∀ c ∈ s, isDigit c = true) : '\n' ∉ s :=
  fun mem => absurd (h _ mem) (by decide)

lemma newline_notMem_escape (c : Char) : '\n' ∉ escape c := by
  unfold escape
  split_ifs with quote backslash newline return' tab backspace feed control
  · decide
  · decide
  · decide
  · decide
  · decide
  · decide
  · decide
  · have digits : ∀ n : Fin 32, '\n' ∉ '\\' :: 'u' :: paddedHex 4 n := by decide
    exact digits ⟨c.toNat, control⟩
  · simpa using Ne.symm newline

lemma newline_notMem_quote (s : String) : '\n' ∉ quote s := by
  simp [quote, newline_notMem_escape]

lemma newline_notMem_withSign (negative : Bool) {s : List Char} (h : '\n' ∉ s) :
    '\n' ∉ Binary64.withSign negative s := by
  cases negative <;> simp [Binary64.withSign, h]

lemma newline_notMem_intText (n : Int) : '\n' ∉ intText n := by
  rw [intText_eq_withSign]
  exact newline_notMem_withSign _ (newline_notMem_of_isDigit (whole_natText _).digits)

lemma Fractional.newline_notMem {t : List Char} (h : Fractional t) : '\n' ∉ t := by
  have mark (low : Prop) [Decidable low] : '\n' ≠ if low then '-' else '+' := by
    split_ifs <;> decide
  cases h with
  | point digits => simpa using newline_notMem_of_isDigit digits
  | exponent low digits => simpa [mark] using newline_notMem_of_isDigit digits
  | both low digits _ digits' =>
    simpa [mark] using
      And.intro (newline_notMem_of_isDigit digits) (newline_notMem_of_isDigit digits')

lemma newline_notMem_realText (x : Binary64) : '\n' ∉ (realText x).toList := by
  cases x with
  | nan => decide
  | infinite negative => cases negative <;> decide
  | finite n s e =>
    obtain ⟨w, t, whole, fractional, text⟩ := Binary64.exists_text n s e
    have same : (realText (.finite n s e)).toList = Binary64.withSign n (w ++ t) := text
    rw [same]
    refine newline_notMem_withSign n fun mem => (List.mem_append.mp mem).elim ?_ ?_
    · exact newline_notMem_of_isDigit whole.digits
    · exact fractional.newline_notMem

section Written

variable {sp : Spacing} (between : '\n' ∉ sp.between)

include between

lemma newline_notMem_writeItems {items : List Json} (h : ∀ v ∈ items, '\n' ∉ write sp v) :
    '\n' ∉ writeItems sp items := by
  induction items with
  | nil => simp [writeItems]
  | cons v rest ih =>
    have first := h v List.mem_cons_self
    have others := ih fun x hx => h x (List.mem_cons_of_mem v hx)
    cases rest with
    | nil => exact first
    | cons w rest => simp [first, between, others]

variable (afterName : '\n' ∉ sp.afterName)

include afterName

lemma newline_notMem_writeMembers {members : List (String × Json)}
    (h : ∀ m ∈ members, '\n' ∉ write sp m.2) : '\n' ∉ writeMembers sp members := by
  induction members with
  | nil => simp [writeMembers]
  | cons m rest ih =>
    obtain ⟨k, v⟩ := m
    have first := h (k, v) List.mem_cons_self
    have others := ih fun x hx => h x (List.mem_cons_of_mem _ hx)
    cases rest with
    | nil => simpa [newline_notMem_quote, afterName] using first
    | cons m rest => simp [newline_notMem_quote, afterName, first, between, others]

/-- Texts are escaped, and nothing else has a line end in it. -/
lemma newline_notMem_write {v : Json} (h : Legible v) : '\n' ∉ write sp v := by
  induction h with
  | null => simp
  | bool b => cases b <;> simp
  | integer => exact newline_notMem_intText _
  | real x => exact newline_notMem_realText x
  | text s => exact newline_notMem_quote s
  | array _ ih => simpa using newline_notMem_writeItems between ih
  | object _ ih => simpa using newline_notMem_writeMembers between afterName ih

end Written

/-- **The text of a legible value is one line.** -/
theorem newline_notMem_spaced {v : Json} (h : Legible v) : '\n' ∉ v.spaced.toList := by
  rw [spaced, String.toList_ofList]
  exact newline_notMem_write (by decide) (by decide) h

end CommonPurse.Json

namespace CommonPurse.Log

open CommonPurse.Text

/-! ## Values that can stand in a line -/

namespace Value

/-- A value that can stand in a line: its whole numbers are not too long to be read, and nothing in
it belongs to identifiers. -/
inductive Writable : Value → Prop
  | null : Writable .null
  | bool (b : Bool) : Writable (.bool b)
  | integer {n : Int} (h : (natText n.natAbs).length ≤ Json.readNumber.maxIntegerDigits) :
      Writable (.integer n)
  | real (x : Binary64) : Writable (.real x)
  | text (s : String) : Writable (.text s)
  | id (i : Id) : Writable (.id i)
  | decimal (d : Decimal) : Writable (.decimal d)
  | timestamp (t : Timestamp) : Writable (.timestamp t)
  | array {items : List Value} (h : ∀ v ∈ items, Writable v) : Writable (.array items)
  | object {members : List (String × Value)} (h : ∀ m ∈ members, Writable m.2) :
      Writable (.object members)
  | noOne : Writable (.byId [])

/-- A value becomes one that can be read. -/
def Renders (v : Value) (j : Json) : Prop := v.json? = some j ∧ j.Legible

lemma exists_jsonItems {items : List Value} (h : ∀ v ∈ items, ∃ j, v.Renders j) :
    ∃ js, jsonItems? items = some js ∧ ∀ j ∈ js, j.Legible := by
  induction items with
  | nil => exact ⟨[], rfl, by simp⟩
  | cons v rest ih =>
    obtain ⟨j, value, legible⟩ := h v List.mem_cons_self
    obtain ⟨js, values, all⟩ := ih fun x hx => h x (List.mem_cons_of_mem v hx)
    exact ⟨j :: js, by simp [jsonItems?, value, values], List.forall_mem_cons.mpr ⟨legible, all⟩⟩

lemma exists_jsonMembers {members : List (String × Value)}
    (h : ∀ m ∈ members, ∃ j, m.2.Renders j) :
    ∃ ms, jsonMembers? members = some ms ∧ ∀ m ∈ ms, m.2.Legible := by
  induction members with
  | nil => exact ⟨[], rfl, by simp⟩
  | cons m rest ih =>
    obtain ⟨j, value, legible⟩ := h m List.mem_cons_self
    obtain ⟨ms, values, all⟩ := ih fun x hx => h x (List.mem_cons_of_mem m hx)
    exact ⟨(m.1, j) :: ms, by simp [jsonMembers?, value, values],
      List.forall_mem_cons.mpr ⟨legible, all⟩⟩

lemma Writable.exists_renders {v : Value} (h : v.Writable) : ∃ j, v.Renders j := by
  induction h with
  | null => exact ⟨_, rfl, .null⟩
  | bool b => exact ⟨_, rfl, .bool b⟩
  | integer short => exact ⟨_, rfl, .integer short⟩
  | real x => exact ⟨_, rfl, .real x⟩
  | text s => exact ⟨_, rfl, .text s⟩
  | id | decimal | timestamp => exact ⟨_, rfl, .text _⟩
  | array _ ih =>
    obtain ⟨js, values, legible⟩ := exists_jsonItems ih
    exact ⟨.array js, by rw [json?, values, Option.map_some], .array legible⟩
  | object _ ih =>
    obtain ⟨ms, values, legible⟩ := exists_jsonMembers ih
    exact ⟨.object ms, by rw [json?, values, Option.map_some], .object legible⟩
  | noOne => exact ⟨_, rfl, .object (by simp)⟩

lemma names_jsonMembers {members : List (String × Value)} {ms : List (String × Json)}
    (h : jsonMembers? members = some ms) : ms.map (·.1) = members.map (·.1) := by
  induction members generalizing ms with
  | nil =>
    obtain rfl := Option.some.inj h
    rfl
  | cons m rest ih =>
    rw [jsonMembers?, Option.bind_eq_some_iff] at h
    obtain ⟨j, -, h⟩ := h
    obtain ⟨ns, hns, rfl⟩ := Option.map_eq_some_iff.mp h
    rw [List.map_cons, List.map_cons, ih hns]

end Value

/-! ## What a layout asks for -/

namespace Layout

/-- What a layout asks for and what a record says about trouble, in the order in which it is
written. What comes later takes the place of what has the same name. -/
def told (l : Layout) (r : Record) (message stamp : String) : List (String × Value) :=
  ((if l.keys.isEmpty then usualKeys else l.keys).map fun k => (k.1, valueOf r message k.2)) ++
    ("timestamp", .text stamp) :: (trouble r ++ l.static)

/-- The names that a layout asks for. -/
def names (l : Layout) : List String :=
  (if l.keys.isEmpty then usualKeys else l.keys).map (·.1) ++ "timestamp" :: l.static.map (·.1)

/-- Without trouble, nothing else is asked for. -/
lemma notMem_told {l : Layout} {r : Record} (caught : r.caught = none) (stack : r.stack = "")
    {name : String} (h : name ∉ l.names) (message stamp : String) :
    name ∉ (l.told r message stamp).map (·.1) := by
  have quiet : trouble r = [] := by simp [trouble, caught, stack]
  have same : (l.told r message stamp).map (·.1) = l.names := by
    simp only [told, names, quiet, List.nil_append, List.map_append, List.map_map, List.map_cons]
    rfl
  rwa [same]

lemma members_eq (l : Layout) (r : Record) (message stamp : String) :
    l.members r message stamp = r.extra.foldl offer (putAll [] (l.told r message stamp)) := by
  simp only [members, told, putAll, List.foldl_append, List.foldl_cons]

lemma mem_put_self (name : String) (value : Value) (members : List (String × Value)) :
    (name, value) ∈ put name value members := by
  induction members with
  | nil => exact List.mem_singleton_self _
  | cons m rest ih =>
    rw [put]
    split_ifs with same
    · exact same ▸ List.mem_cons_self
    · exact List.mem_cons_of_mem _ ih

lemma mem_put_of_ne {name : String} {value : Value} {members : List (String × Value)}
    {m : String × Value} (h : m ∈ members) (other : m.1 ≠ name) : m ∈ put name value members := by
  induction members with
  | nil => cases h
  | cons a rest ih =>
    rw [put]
    rcases List.mem_cons.mp h with rfl | h
    · rw [if_neg other]
      exact List.mem_cons_self
    · split_ifs
      · exact List.mem_cons_of_mem _ h
      · exact List.mem_cons_of_mem _ (ih h)

/-- What has a name that comes in nothing that is put later stays. -/
lemma mem_putAll_of_mem {members more : List (String × Value)} {m : String × Value}
    (h : m ∈ members) (last : m.1 ∉ more.map (·.1)) : m ∈ putAll members more := by
  induction more generalizing members with
  | nil => exact h
  | cons a rest ih =>
    rw [List.map_cons, List.mem_cons, not_or] at last
    exact ih (mem_put_of_ne h last.1) last.2

/-- The last value under a name stands. -/
lemma mem_putAll {members before after : List (String × Value)} {m : String × Value}
    (last : m.1 ∉ after.map (·.1)) : m ∈ putAll members (before ++ m :: after) := by
  rw [putAll, List.foldl_append, List.foldl_cons]
  exact mem_putAll_of_mem (mem_put_self m.1 m.2 _) last

lemma mem_put_cases {name : String} {value : Value} {members : List (String × Value)}
    {m : String × Value} (h : m ∈ put name value members) : m ∈ members ∨ m = (name, value) := by
  induction members with
  | nil => exact .inr (List.mem_singleton.mp h)
  | cons a rest ih =>
    rw [put] at h
    split_ifs at h with same
    · rcases List.mem_cons.mp h with rfl | h
      · exact .inr (by rw [same])
      · exact .inl (List.mem_cons_of_mem _ h)
    · rcases List.mem_cons.mp h with rfl | h
      · exact .inl List.mem_cons_self
      · exact (ih h).imp_left (List.mem_cons_of_mem _)

/-- What stands has been put. -/
lemma mem_of_mem_putAll {members more : List (String × Value)} {m : String × Value}
    (h : m ∈ putAll members more) : m ∈ members ∨ m ∈ more := by
  induction more generalizing members with
  | nil => exact .inl h
  | cons a rest ih =>
    rcases ih h with h | h
    · exact (mem_put_cases h).imp_right fun same => List.mem_cons.mpr (.inl same)
    · exact .inr (List.mem_cons_of_mem _ h)

lemma nodup_foldl_offer {members : List (String × Value)} (h : (members.map (·.1)).Nodup)
    (offered : List (String × Value)) : ((offered.foldl offer members).map (·.1)).Nodup := by
  induction offered generalizing members with
  | nil => exact h
  | cons a rest ih =>
    refine ih ?_
    unfold offer
    split_ifs with taken
    · exact h
    · rw [Bool.or_eq_true, not_or] at taken
      have new : a.1 ∉ members.map (·.1) := by simpa using taken.2
      simpa using List.Nodup.append h (List.nodup_singleton a.1) (by simpa using new)

/-! ## Lines -/

/-- The value of an attribute stands in an object under its name, as what its text is read as. -/
def Shows (ms : List (String × Json)) (m : String × Value) : Prop :=
  ∃ j x, m.2.json? = some j ∧ Json.parse? j.spaced = some x ∧ (m.1, x) ∈ ms

/-- A text is the line of a record. It has no line end, and it is read as one object in which no
name comes twice. Whatever the layout asks for last under a name stands in it, so nothing that the
record brings along takes its place; and of this stands there what has a name that is neither
reserved nor asked for. -/
structure Lays (l : Layout) (r : Record) (message stamp text : String)
    (ms : List (String × Json)) : Prop where
  reads : r.message = .ok message
  dated : r.stamp = .ok stamp
  line : l.line r = .ok text
  whole : '\n' ∉ text.toList
  parsed : Json.parse? text = some (.object ms)
  distinct : (ms.map (·.1)).Nodup
  shows_told : ∀ before m after, l.told r message stamp = before ++ m :: after →
    m.1 ∉ after.map (·.1) → Shows ms m
  shows_extra : ∀ m ∈ r.extra, m.1 ∉ reserved → m.1 ∉ (l.told r message stamp).map (·.1) →
    Shows ms m

/-- A record has a line. -/
def HasLine (l : Layout) (r : Record) : Prop :=
  ∃ message stamp text ms, l.Lays r message stamp text ms

/-- A record is written: it has a line as it is told, and as it comes out of a queue, where its
message is folded and no attribute that goes into a line is left behind. -/
def Writes (l : Layout) (r : Record) : Prop :=
  l.HasLine r ∧ ∃ x, r.folded = .ok x ∧ (∀ m ∈ r.extra, m.1 ∉ reserved → m ∈ x.extra) ∧ l.HasLine x

/-- A record is lost: it has no line, neither as it is told nor as it comes out of a queue, because
something in it belongs to identifiers. -/
def Loses (l : Layout) (r : Record) : Prop :=
  l.line r = .error .notNamed ∧ ∃ x, r.folded = .ok x ∧ l.line x = .error .notNamed

lemma Loses.not_writes {l : Layout} {r : Record} (h : l.Loses r) : ¬ l.Writes r := by
  rintro ⟨⟨message, stamp, text, ms, lays⟩, -⟩
  cases h.1.symm.trans lays.line

section Line

variable {l : Layout} {r : Record} {message stamp : String}

/-- The first attribute under a name that is neither reserved nor asked for is a member. -/
lemma mem_members (distinct : (r.extra.map (·.1)).Nodup) {m : String × Value} (hm : m ∈ r.extra)
    (open_ : m.1 ∉ reserved) (free : m.1 ∉ (l.told r message stamp).map (·.1)) :
    m ∈ l.members r message stamp := by
  obtain ⟨before, after, split⟩ := List.append_of_mem hm
  rw [split, List.map_append, List.map_cons, List.nodup_append] at distinct
  have first : m.1 ∉ before.map (·.1) := fun taken =>
    distinct.2.2 m.1 taken m.1 List.mem_cons_self rfl
  have unput : m.1 ∉ (putAll [] (l.told r message stamp)).map (·.1) := by
    intro taken
    obtain ⟨x, hx, same⟩ := List.mem_map.mp taken
    rcases mem_of_mem_putAll hx with hx | hx
    · cases hx
    · exact free (same ▸ List.mem_map_of_mem hx)
  rw [members_eq, split]
  exact mem_foldl_offer open_ unput first

/-- **A record with an attribute that cannot stand in JSON has no line**, unless the name of the
attribute is reserved or asked for. -/
theorem line_eq_notNamed (told : r.message = .ok message) (time : r.stamp = .ok stamp)
    (distinct : (r.extra.map (·.1)).Nodup) {m : String × Value} (hm : m ∈ r.extra)
    (unwritable : m.2.json? = none) (open_ : m.1 ∉ reserved)
    (free : m.1 ∉ (l.told r message stamp).map (·.1)) : l.line r = .error .notNamed := by
  have none : Value.jsonMembers? (l.members r message stamp) = none := by
    by_contra some
    obtain ⟨ms, hms⟩ := Option.ne_none_iff_exists'.mp some
    obtain ⟨j, hj⟩ := Value.json?_isSome_of_mem hms (mem_members distinct hm open_ free)
    rw [unwritable] at hj
    cases hj
  simp [line, told, time, Value.json?, none]

/-- **A record whose members can stand in JSON has a line.** -/
theorem hasLine_of_renders (told : r.message = .ok message) (time : r.stamp = .ok stamp)
    (distinct : (r.extra.map (·.1)).Nodup)
    (writable : ∀ m ∈ l.members r message stamp, ∃ j, m.2.Renders j) : l.HasLine r := by
  obtain ⟨js, values, legible⟩ := Value.exists_jsonMembers writable
  have object : Json.Legible (.object js) := .object legible
  have parsed : Json.parse? (Json.object js).spaced =
      some (.object (js.map fun m => (m.1, m.2.reread))) := by
    rw [Json.parse?_reread object, Json.reread, Json.rereadMembers_eq_map]
  -- what is a member stands in the object as what its own text is read as
  have shown : ∀ m ∈ l.members r message stamp, Shows (js.map fun m => (m.1, m.2.reread)) m := by
    intro m hm
    obtain ⟨j, value, readable⟩ := writable m hm
    have member := (Value.jsonMembers?_mem values m.1 j).mpr ⟨m.2, hm, value⟩
    exact ⟨j, j.reread, value, Json.parse?_reread readable, List.mem_map.mpr ⟨_, member, rfl⟩⟩
  have whole := Json.newline_notMem_spaced object
  refine ⟨message, stamp, _, _, told, time, ?_, whole, parsed, ?_, ?_, ?_⟩
  · simp [line, told, time, Value.json?, values]
  · have names : (js.map fun m => (m.1, m.2.reread)).map (·.1) = js.map (·.1) := by simp
    rw [names, Value.names_jsonMembers values, members_eq]
    have none : (([] : List (String × Value)).map (·.1)).Nodup := List.nodup_nil
    exact nodup_foldl_offer (Pipeline.nodup_putAll none _) _
  · intro before m after split last
    refine shown m ?_
    rw [members_eq, split]
    exact mem_foldl_offer_of_mem (mem_putAll last) _
  · exact fun m hm open_ free => shown m (mem_members distinct hm open_ free)

end Line

end Layout

/-! ## Records whose values can stand in a line -/

namespace Record

/-- A record with values that can stand in a line. Its message can be put together, and the year of
its creation can be written. -/
structure Writable (r : Record) : Prop where
  arguments : ∀ v ∈ r.arguments, v.Writable
  created : r.created.Writable
  line : (natText r.line).length ≤ Json.readNumber.maxIntegerDigits
  extra : ∀ f ∈ r.extra, f.2.Writable
  distinct : (r.extra.map (·.1)).Nodup
  message : ∃ m, r.message = .ok m
  stamp : ∃ s, r.stamp = .ok s

lemma mem_of_find? {name : String} {attributes : List (String × Value)} {v : Value}
    (h : find? name attributes = some v) : ∃ f ∈ attributes, f.2 = v := by
  obtain ⟨f, hf, same⟩ := Option.map_eq_some_iff.mp h
  exact ⟨f, List.mem_of_find?_eq_some hf, same⟩

namespace Writable

variable {r : Record}

lemma standard (h : r.Writable) : ∀ f ∈ r.standard, f.2.Writable := by
  have caught : (caughtValue r.caught).Writable := by
    cases r.caught with
    | none => exact .null
    | some c =>
      refine .array fun v hv => ?_
      simp only [List.mem_cons, List.not_mem_nil, or_false] at hv
      rcases hv with rfl | rfl | rfl
      exacts [.text _, .text _, .null]
  have stack : (if r.stack.isEmpty then Value.null else .text r.stack).Writable := by
    split_ifs
    exacts [.null, .text _]
  have level : (Value.integer r.level.number).Writable := by
    cases r.level <;> exact .integer (by decide)
  simp only [Record.standard, List.forall_mem_cons]
  exact ⟨.text _, .text _, .array h.arguments, .text _, level, .text _, .text _, .text _, caught,
    .null, stack, .integer h.line, .null, h.created, .text _, .text _, .null, by simp⟩

lemma valueOf (h : r.Writable) (message name : String) :
    (Layout.valueOf r message name).Writable := by
  unfold Layout.valueOf
  split_ifs
  · exact .text message
  · cases hv : r.attribute? name with
    | none => exact .null
    | some v =>
      rcases Option.or_eq_some_iff.mp hv with hv | ⟨-, hv⟩
      · obtain ⟨f, hf, rfl⟩ := mem_of_find? hv
        exact h.extra f hf
      · obtain ⟨f, hf, rfl⟩ := mem_of_find? hv
        exact h.standard f hf

lemma trouble : ∀ m ∈ Layout.trouble r, m.2.Writable := by
  intro m hm
  unfold Layout.trouble at hm
  rcases List.mem_append.mp hm with hm | hm
  · cases hc : r.caught <;> simp only [hc, List.mem_singleton, List.not_mem_nil] at hm
    exact hm ▸ .text _
  · split_ifs at hm
    · cases hm
    · exact List.mem_singleton.mp hm ▸ .text _

/-- **A writable record has a line** in every layout whose own members can stand in a line.

**Proof sketch.** Every member of the line is an attribute of the record, a text about trouble or a
member of the layout, so all of them can stand in JSON. -/
theorem hasLine (h : r.Writable) {l : Layout} (static : ∀ m ∈ l.static, m.2.Writable) :
    l.HasLine r := by
  obtain ⟨message, told⟩ := h.message
  obtain ⟨stamp, time⟩ := h.stamp
  have asked : ∀ m ∈ l.told r message stamp, m.2.Writable := by
    intro m hm
    simp only [Layout.told, List.mem_append, List.mem_map, List.mem_cons] at hm
    rcases hm with ⟨k, -, rfl⟩ | rfl | hm | hm
    · exact h.valueOf message k.2
    · exact .text stamp
    · exact trouble m hm
    · exact static m hm
  refine Layout.hasLine_of_renders told time h.distinct fun m hm => ?_
  rw [Layout.members_eq] at hm
  rcases Layout.mem_of_mem_foldl_offer hm with hm | hm
  · rcases Layout.mem_of_mem_putAll hm with hm | hm
    · cases hm
    · exact (asked m hm).exists_renders
  · exact (h.extra m hm).exists_renders

end Writable

/-! ## Folded records -/

/-- A record is another one whose message has been folded. It has a message, and it keeps the time
and the attributes that go into lines. -/
structure Folds (r x : Record) : Prop where
  folded : r.folded = .ok x
  message : ∃ m, x.message = .ok m
  stamp : x.stamp = r.stamp
  arguments : x.arguments = []
  created : x.created = r.created
  line : x.line = r.line
  caught : x.caught = none
  stack : x.stack = ""
  extra : x.extra = r.extra.filter (·.1 ≠ "msg")

lemma find?_filter {name other : String} (hne : name ≠ other) (attributes : List (String × Value)) :
    find? name (attributes.filter (·.1 ≠ other)) = find? name attributes := by
  have same : (fun f : String × Value => decide (decide (f.1 ≠ other) ∧ f.1 == name)) =
      (·.1 == name) := by
    funext f
    by_cases h : f.1 = name <;> simp [h, hne]
  rw [find?, List.find?_filter, same]
  rfl

/-- The message of a record can be folded if it can be put together. -/
lemma exists_folds {r : Record} {message : String} (h : r.message = .ok message) :
    ∃ x, r.Folds x := by
  let x : Record := { r with
    template := r.withTrouble message
    arguments := []
    caught := none
    stack := ""
    extra := r.extra.filter (·.1 ≠ "msg") }
  have own : find? "msg" x.extra = none := by
    simp [find?, x]
  have created : x.attribute? "created" = r.attribute? "created" := by
    rw [attribute?, find?_filter (by decide)]
    rfl
  have folded : r.folded = .ok x := by
    rw [folded, h]
    rfl
  have told : x.message = .ok (r.withTrouble message) := by
    simp only [Record.message, textOf, attribute?, own, Option.none_or]
    rfl
  have time : x.stamp = r.stamp := by rw [stamp, stamp, created]
  exact ⟨x, folded, ⟨_, told⟩, time, rfl, rfl, rfl, rfl, rfl, rfl⟩

namespace Writable

variable {r : Record}

/-- A writable record stays writable when its message is folded. -/
lemma folds (h : r.Writable) {x : Record} (f : r.Folds x) : x.Writable where
  arguments := by simp [f.arguments]
  created := f.created ▸ h.created
  line := f.line ▸ h.line
  extra g hg := h.extra g (List.mem_filter.mp (f.extra ▸ hg)).1
  distinct := f.extra ▸ h.distinct.sublist (List.filter_sublist.map _)
  message := f.message
  stamp := f.stamp ▸ h.stamp

/-- **A writable record is written** in every layout whose own members can stand in a line. -/
theorem writes (h : r.Writable) {l : Layout} (static : ∀ m ∈ l.static, m.2.Writable) :
    l.Writes r := by
  obtain ⟨message, told⟩ := h.message
  obtain ⟨x, f⟩ := exists_folds told
  refine ⟨h.hasLine static, x, f.folded, fun m hm open_ => ?_, (h.folds f).hasLine static⟩
  have other : m.1 ≠ "msg" := fun same => open_ (same ▸ by decide)
  rw [f.extra]
  exact List.mem_filter.mpr ⟨hm, by simpa using other⟩

end Writable

end Record

end CommonPurse.Log
