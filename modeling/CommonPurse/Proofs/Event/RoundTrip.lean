import CommonPurse.Event.Document
import CommonPurse.Proofs.Id
import CommonPurse.Proofs.Json.RoundTrip
import CommonPurse.Proofs.Number.Decimal
import CommonPurse.Proofs.Time.Timestamp

/-!
# Events and their documents

An event is read back from its document and from the text of its document, provided that its
amounts and its times are among those that a text can name.

## Main definitions

* `CommonPurse.Event.Legible` — the events that are read back.
* `CommonPurse.Event.Sound` — those of them whose clocks all show universal time.

## Main results

* `CommonPurse.Event.ofDocument_document` — a legible event is read back from its document.
* `CommonPurse.Event.parse?_encode` — the text of an event is JSON, that of its document.
* `CommonPurse.Event.decode_encode` — a legible event is read back from its text.
-/

namespace CommonPurse

open CommonPurse.Form

/-! ## Legible events -/

/-- The amounts and times of an action inside a group are among those that a text can name. -/
def GroupAction.Legible : GroupAction → Prop
  | .created .. => True
  | .joined _ => True
  | .colorChanged .. => True
  | .expenseCreated _ _ amount date => amount.Sound ∧ date.Legible
  | .expenseModified _ _ _ previous new => previous.Sound ∧ new.Sound
  | .expenseDeleted _ => True
  | .settled _ start finish transfers =>
    (∀ t ∈ start, t.Legible) ∧ finish.Legible ∧ ∀ t ∈ transfers, t.amount.Sound
  | .deleted => True

/-- The same of what an event is about. -/
def Subject.Legible : Subject → Prop
  | .account .. => True
  | .group _ _ action => action.Legible

/-- An event whose time, and whose amounts and times, are among those that a text can name. -/
structure Event.Legible (e : Event) : Prop where
  occurredAt : e.occurredAt.Legible
  subject : e.subject.Legible

/-! ## Sound events -/

/-- The amounts of an action inside a group are among those that a text can name, and its times are
universal ones. -/
def GroupAction.Sound : GroupAction → Prop
  | .created .. => True
  | .joined _ => True
  | .colorChanged .. => True
  | .expenseCreated _ _ amount date => amount.Sound ∧ date.Sound
  | .expenseModified _ _ _ previous new => previous.Sound ∧ new.Sound
  | .expenseDeleted _ => True
  | .settled _ start finish transfers =>
    (∀ t ∈ start, t.Sound) ∧ finish.Sound ∧ ∀ t ∈ transfers, t.amount.Sound
  | .deleted => True

/-- The same of what an event is about. -/
def Subject.Sound : Subject → Prop
  | .account .. => True
  | .group _ _ action => action.Sound

/-- An event whose amounts are among those that a text can name, and whose times are universal
ones. -/
structure Event.Sound (e : Event) : Prop where
  occurredAt : e.occurredAt.Sound
  subject : e.subject.Sound

lemma GroupAction.Sound.legible {a : GroupAction} (h : a.Sound) : a.Legible := by
  cases a with
  | expenseCreated id description amount date => exact ⟨h.1, h.2.legible⟩
  | settled id start finish transfers =>
    exact ⟨fun t ht => (h.1 t ht).legible, h.2.1.legible, h.2.2⟩
  | _ => exact h

lemma Event.Sound.legible {e : Event} (h : e.Sound) : e.Legible where
  occurredAt := h.occurredAt.legible
  subject := by
    obtain ⟨id, occurredAt, subject⟩ := e
    cases subject with
    | account user a => exact h.subject
    | group group member a => exact GroupAction.Sound.legible h.subject

/-! ## Fields -/

lemma Form.identifier_text (i : Id) : identifier (.text i.text) = .ok i := by
  rw [identifier, Id.parse?_text]

lemma Form.timestamp_text {t : Timestamp} (h : t.Legible) : timestamp (.text t.zuluText) = .ok t := by
  rw [timestamp, Timestamp.parse?_zuluText h]

lemma Form.decimal_text (mode : Mode) {d : Decimal} (h : d.Sound) :
    decimal mode (.text d.text) = .ok d := by
  rw [decimal, decimalText]
  simp only [Decimal.parse?_text h, h.isFinite, if_true]

namespace Form.Checked

variable {α β γ δ : Type}

@[simp] lemma ofField_ok (a : α) : ofField (.ok a) = .ok a := rfl

@[simp] lemma map_ok (f : α → β) (a : α) : map f (.ok a) = .ok (f a) := rfl

@[simp] lemma and_ok (a : α) (b : β) : and (.ok a) (.ok b) = .ok (a, b) := rfl

@[simp] lemma map2_ok (f : α → β → γ) (a : α) (b : β) : map2 f (.ok a) (.ok b) = .ok (f a b) :=
  rfl

@[simp] lemma map3_ok (f : α → β → γ → δ) (a : α) (b : β) (c : γ) :
    map3 f (.ok a) (.ok b) (.ok c) = .ok (f a b c) := rfl

/-- Every element of a list is read back when each one is. -/
lemma list_map {read : β → Checked α} {write : α → β} {l : List α}
    (h : ∀ a ∈ l, read (write a) = .ok a) : list read (l.map write) = .ok l := by
  induction l with
  | nil => rfl
  | cons a l ih =>
    rw [List.map_cons, list, h a (by simp), ih fun x hx => h x (by simp [hx])]
    rfl

end Form.Checked

namespace Event

lemma component_integer (c : Fin 256) : component (.integer c.val) = .ok c := by
  have range : 0 ≤ (c.val : Int) ∧ (c.val : Int) ≤ 255 := by omega
  simp [component, integer, Color.component?, range]

lemma readColor_document (c : Color) : readColor c.document = .ok c := by
  simp [readColor, Color.document, field, required, Json.lookup, component_integer]

lemma readTransfer_document (mode : Mode) {t : Transfer} (h : t.amount.Sound) :
    readTransfer mode t.document = .ok t := by
  simp [readTransfer, Transfer.document, field, required, Json.lookup, identifier_text,
    decimal_text mode h]

lemma nullable_optionalTimestamp {start : Option Timestamp} (h : ∀ t ∈ start, t.Legible) :
    nullable timestamp (optionalTimestamp start) = .ok start := by
  cases start with
  | none => rfl
  | some t =>
    rw [optionalTimestamp, nullable, timestamp_text (h t rfl)]
    · rfl
    · simp

/-! ## Actions -/

lemma readAccountAction_document (a : AccountAction) : readAccountAction a.document = .ok a := by
  cases a <;>
    simp [readAccountAction, AccountAction.document, AccountAction.members, AccountAction.tag,
      field, required, Json.lookup, text]

/-- **What happened inside a group is read back**, one kind of action after the other. -/
lemma readGroupAction_document (mode : Mode) {a : GroupAction} (h : a.Legible) :
    readGroupAction mode a.document = .ok a := by
  rw [GroupAction.document, readGroupAction]
  cases a with
  | created name color =>
    simp [GroupAction.members, GroupAction.tag, field, required, Json.lookup, text,
      readColor_document]
  | joined color =>
    simp [GroupAction.members, GroupAction.tag, required, Json.lookup, readColor_document]
  | colorChanged previous new =>
    simp [GroupAction.members, GroupAction.tag, required, Json.lookup, readColor_document]
  | expenseCreated id description amount date =>
    obtain ⟨amount', date'⟩ := h
    simp [GroupAction.members, GroupAction.tag, field, required, Json.lookup, text,
      identifier_text, decimal_text mode amount', timestamp_text date']
  | expenseModified id pd nd pa na =>
    obtain ⟨previous, new⟩ := h
    simp [GroupAction.members, GroupAction.tag, field, required, Json.lookup, text,
      identifier_text, decimal_text mode previous, decimal_text mode new]
  | expenseDeleted id =>
    simp [GroupAction.members, GroupAction.tag, field, required, Json.lookup, identifier_text]
  | settled id start finish transfers =>
    obtain ⟨first, last, amounts⟩ := h
    have list : Checked.list (readTransfer mode) (transfers.map Transfer.document) =
        .ok transfers := Checked.list_map fun t ht => readTransfer_document mode (amounts t ht)
    simp [GroupAction.members, GroupAction.tag, field, required, readTransfers, Json.lookup,
      identifier_text, nullable_optionalTimestamp first, timestamp_text last, list]
  | deleted => simp [GroupAction.members, GroupAction.tag, Json.lookup]

/-! ## Events -/

/-- **A legible event is read back from its document.** -/
theorem ofDocument_document (mode : Mode) (fresh : Id) (now : Timestamp) {e : Event}
    (h : e.Legible) : ofDocument mode fresh now e.document = .ok e := by
  obtain ⟨id, occurredAt, subject⟩ := e
  obtain ⟨time, action⟩ := h
  dsimp only at time action
  cases subject with
  | account user a =>
    simp [document, ofDocument, hasFamily, readSubject, withDefault, field, required, Json.lookup,
      identifier_text, timestamp_text time, readAccountAction_document]
  | group group member a =>
    have read := readGroupAction_document mode (a := a) action
    simp [document, ofDocument, hasFamily, readSubject, withDefault, field, required, Json.lookup,
      identifier_text, timestamp_text time, read]

/-! ## Texts -/

open Json in
lemma plain_color (c : Color) : Plain c.document := by
  have short : ∀ n : Fin 256, Plain (.integer n.val) := by
    intro n
    have len : (Text.natText n.val).length ≤ 3 :=
      (Nat.length_toDigits_le_iff (by decide) (by decide)).mpr (by omega)
    have bound : Json.readNumber.maxIntegerDigits = 4300 := rfl
    refine .integer ?_
    rw [Int.natAbs_natCast]
    omega
  refine .object ?_
  simp [short]

open Json in
lemma plain_transfer (t : Transfer) : Plain t.document := by
  refine .object ?_
  simp [Plain.text]

open Json in
/-- The document of an event holds texts, small numbers and nothing else. -/
lemma plain_document (e : Event) : Plain e.document := by
  have account : ∀ a : AccountAction, Plain a.document := by
    intro a
    refine .object ?_
    cases a <;> simp [AccountAction.members, Plain.text]
  have optional : ∀ t, Plain (optionalTimestamp t) := by
    intro t
    cases t with
    | none => exact .null
    | some t => exact .text _
  have transfers : ∀ ts : List Transfer, Plain (.array (ts.map (·.document))) := by
    intro ts
    refine .array ?_
    intro v hv
    obtain ⟨t, -, rfl⟩ := List.mem_map.mp hv
    exact plain_transfer t
  have group : ∀ a : GroupAction, Plain a.document := by
    intro a
    refine .object ?_
    cases a <;> simp [GroupAction.members, Plain.text, plain_color, optional, transfers]
  obtain ⟨id, occurredAt, subject⟩ := e
  cases subject with
  | account user a =>
    refine .object ?_
    simp [Plain.text, account]
  | group g member a =>
    refine .object ?_
    simp [Plain.text, group]

open Json in
/-- The document of an event is nested no deeper than its transfers. -/
lemma depth_document (e : Event) : e.document.depth ≤ 4 := by
  have color : ∀ c : Color, c.document.depth = 1 := fun _ => rfl
  have account : ∀ a : AccountAction, a.document.depth = 1 := by
    intro a
    cases a <;> rfl
  have optional : ∀ t, (optionalTimestamp t).depth = 0 := by
    intro t
    cases t <;> rfl
  have transfers : ∀ ts : List Transfer, depthItems (ts.map (·.document)) ≤ 1 := by
    intro ts
    induction ts with
    | nil => simp [depthItems]
    | cons t ts ih =>
      have one : t.document.depth = 1 := rfl
      rw [List.map_cons, depthItems, one]
      omega
  have group : ∀ a : GroupAction, a.document.depth ≤ 3 := by
    intro a
    cases a with
    | settled id start finish ts =>
      have nested := transfers ts
      simp only [GroupAction.document, GroupAction.members, depth, depthMembers, optional]
      omega
    | _ => simp [GroupAction.document, GroupAction.members, depth, depthMembers, color]
  obtain ⟨id, occurredAt, subject⟩ := e
  cases subject with
  | account user a => simp [document, depth, depthMembers, account]
  | group g member a =>
    have := group a
    simp [document, depth, depthMembers]
    omega

/-- **The text of an event is JSON**, that of its document. -/
theorem parse?_encode (e : Event) : Json.parse? e.encode = some e.document :=
  Json.parse?_compact e.plain_document

/-- **A legible event is read back from its text.** -/
theorem decode_encode (fresh : Id) (now : Timestamp) {e : Event} (h : e.Legible) :
    decode fresh now e.encode = .ok e := by
  have depth := e.depth_document
  have shallow : e.document.depth ≤ maxDepth := le_trans depth (by decide)
  rw [decode, parse?_encode]
  simp only [e.plain_document.isWellFormed, shallow, decide_true, Bool.and_self, if_true,
    ofDocument_document .jsonText fresh now h]

end Event

end CommonPurse
