import CommonPurse.Proofs.Event.RoundTrip

/-!
# Stored events lose nothing

An event is the same after it has been written and read, as a text and as a document; so different
events have different texts. Texts that were written elsewhere are read more loosely, but an event
that has been read from one is legible, and from then on it stays as it is.

## Main definitions

* `CommonPurse.Form.Checked.Ensures` — whatever a form yields has a property.

## Main results

* `CommonPurse.Event.legible_of_decode` — what is read from a text is legible.
* `CommonPurse.Event.encode_injective` — different events have different texts.
* `CommonPurse.Event.lossless` — reading undoes writing, and writing what was read is harmless.
-/

namespace CommonPurse

open CommonPurse.Form

/-! ## What forms ensure -/

namespace Form.Checked

variable {α β γ δ : Type} {p : α → Prop} {q : β → Prop} {r : γ → Prop} {s : δ → Prop}

/-- Whatever a form yields, if it yields a value, has a property. -/
def Ensures (c : Checked α) (p : α → Prop) : Prop := ∀ a, c = .ok a → p a

lemma ensures_ok {a : α} (h : p a) : (ok a).Ensures p := by
  intro x hx
  cases hx
  exact h

lemma ensures_faulty (n : Nat) : (faulty n : Checked α).Ensures p := nofun

lemma ensures_true (c : Checked α) : c.Ensures fun _ => True := fun _ _ => trivial

lemma ensures_ofField {read : Except Fault α} (h : ∀ a, read = .ok a → p a) :
    (ofField read).Ensures p := by
  cases read with
  | ok a => exact ensures_ok (h a rfl)
  | error e => exact ensures_faulty 1

lemma Ensures.map {c : Checked α} (hc : c.Ensures p) {f : α → β} (hf : ∀ a, p a → q (f a)) :
    (c.map f).Ensures q := by
  cases c with
  | ok a => exact ensures_ok (hf a (hc a rfl))
  | faulty n => exact ensures_faulty n

lemma Ensures.and {c : Checked α} {d : Checked β} (hc : c.Ensures p) (hd : d.Ensures q) :
    (c.and d).Ensures fun x => p x.1 ∧ q x.2 := by
  cases c with
  | ok a =>
    cases d with
    | ok b => exact ensures_ok ⟨hc a rfl, hd b rfl⟩
    | faulty n => exact ensures_faulty n
  | faulty n =>
    cases d with
    | ok b => exact ensures_faulty n
    | faulty m => exact ensures_faulty (n + m)

lemma Ensures.map2 {c : Checked α} {d : Checked β} (hc : c.Ensures p) (hd : d.Ensures q)
    {f : α → β → γ} (hf : ∀ a b, p a → q b → r (f a b)) : (map2 f c d).Ensures r :=
  (hc.and hd).map fun x hx => hf x.1 x.2 hx.1 hx.2

lemma Ensures.map3 {c : Checked α} {d : Checked β} {e : Checked γ} (hc : c.Ensures p)
    (hd : d.Ensures q) (he : e.Ensures r) {f : α → β → γ → δ}
    (hf : ∀ a b c, p a → q b → r c → s (f a b c)) : (map3 f c d e).Ensures s :=
  (hc.and (hd.and he)).map fun x hx => hf x.1 x.2.1 x.2.2 hx.1 hx.2.1 hx.2.2

lemma ensures_list {f : α → Checked β} (h : ∀ a, (f a).Ensures q) (l : List α) :
    (list f l).Ensures fun bs => ∀ b ∈ bs, q b := by
  induction l with
  | nil => exact ensures_ok (by simp)
  | cons a l ih =>
    refine (h a).map2 ih ?_
    intro b bs hb hbs x hx
    rcases List.mem_cons.mp hx with rfl | hx
    · exact hb
    · exact hbs x hx

end Form.Checked

/-! ## Fields -/

lemma Form.legible_of_timestamp {v : Json} {t : Timestamp} (h : timestamp v = .ok t) :
    t.Legible := by
  cases v with
  | text s =>
    rw [timestamp] at h
    split at h
    next read =>
      cases h
      exact Timestamp.legible_of_parse? read
    next => cases h
  | integer n =>
    rw [timestamp] at h
    split at h
    next read =>
      cases h
      exact Timestamp.legible_of_ofNumber? read
    next => cases h
  | real x =>
    rw [timestamp] at h
    split at h
    next read =>
      cases h
      exact Timestamp.legible_of_ofReal? read
    next => cases h
  | _ => cases h

lemma Form.sound_of_decimal {mode : Mode} {v : Json} {d : Decimal} (h : decimal mode v = .ok d) :
    d.Sound := by
  rw [decimal] at h
  split at h
  next => cases h
  next s hs =>
    split at h
    next => cases h
    next read =>
      split_ifs at h with finite
      cases h
      exact Decimal.sound_of_parse? read finite

namespace Event

open Checked

variable {α : Type} {p : α → Prop}

lemma ensures_required {ms : List (String × Json)} {name : String} {read : Json → Checked α}
    (h : ∀ v, (read v).Ensures p) : (required ms name read).Ensures p := by
  rw [required]
  split
  · exact h _
  · exact ensures_faulty 1

lemma ensures_field {ms : List (String × Json)} {name : String} {read : Json → Except Fault α}
    (h : ∀ v a, read v = .ok a → p a) : (field ms name read).Ensures p :=
  ensures_required fun v => ensures_ofField (h v)

lemma ensures_withDefault {ms : List (String × Json)} {name : String} {usual : α}
    {read : Json → Except Fault α} (hu : p usual) (h : ∀ v a, read v = .ok a → p a) :
    (withDefault ms name usual read).Ensures p := by
  rw [withDefault]
  split
  · exact ensures_ofField (h _)
  · exact ensures_ok hu

lemma forall_mem_of_nullable {read : Json → Except Fault α} (h : ∀ v a, read v = .ok a → p a)
    {v : Json} {o : Option α} (ho : nullable read v = .ok o) : ∀ a ∈ o, p a := by
  unfold nullable at ho
  split at ho
  · cases ho
    simp
  · cases hv : read _ with
    | error e =>
      rw [hv] at ho
      cases ho
    | ok a =>
      rw [hv] at ho
      cases ho
      simpa using h _ a hv

/-! ## Records -/

lemma sound_readTransfer (mode : Mode) (v : Json) :
    (readTransfer mode v).Ensures fun t => t.amount.Sound := by
  cases v with
  | object ms =>
    exact (ensures_true _).map3 (ensures_true _) (ensures_field fun _ _ => sound_of_decimal)
      fun _ _ _ _ _ amount => amount
  | _ => exact ensures_faulty 1

lemma sound_readTransfers (mode : Mode) (ms : List (String × Json)) :
    (readTransfers mode ms).Ensures fun ts => ∀ t ∈ ts, t.amount.Sound := by
  rw [readTransfers]
  split
  · exact ensures_ok (by simp)
  · exact ensures_list (sound_readTransfer mode) _
  · exact ensures_faulty 1

/-- **What is read of an action inside a group is legible**, one kind of action after the other. -/
lemma legible_readGroupAction (mode : Mode) (v : Json) :
    (readGroupAction mode v).Ensures GroupAction.Legible := by
  have time : ∀ v t, timestamp v = .ok t → t.Legible := fun _ _ => legible_of_timestamp
  have amount : ∀ v d, decimal mode v = .ok d → d.Sound := fun _ _ => sound_of_decimal
  -- all other fields may hold anything
  have any := @ensures_true
  cases v with
  | object ms =>
    rw [readGroupAction]
    split
    next tag htag =>
      split_ifs with created joined colorChanged expenseCreated expenseModified expenseDeleted
        settled deleted
      · exact (any _).map2 (any _) fun _ _ _ _ => trivial
      · exact (any _).map fun _ _ => trivial
      · exact (any _).map2 (any _) fun _ _ _ _ => trivial
      · exact (any _).map2 ((ensures_field amount).and (ensures_field time)) fun _ _ _ h => h
      · exact (any _).map3 (any _) ((ensures_field amount).and (ensures_field amount))
          fun _ _ _ _ _ h => h
      · exact (any _).map fun _ _ => trivial
      · refine Ensures.map2 ((any _).and (ensures_field fun _ _ => forall_mem_of_nullable time))
          ((ensures_field time).and (sound_readTransfers mode ms)) ?_
        intro a b start rest
        exact ⟨start.2, rest⟩
      · exact ensures_ok trivial
      · exact ensures_faulty 1
    next => exact ensures_faulty 1
  | _ => exact ensures_faulty 1

lemma legible_readSubject (mode : Mode) (ms : List (String × Json)) :
    (readSubject mode ms).Ensures Subject.Legible := by
  rw [readSubject]
  split
  · split_ifs
    · exact (ensures_true _).map2 (ensures_true _) fun _ _ _ _ => trivial
    · exact (ensures_true _).map3 (ensures_true _)
        (ensures_required (legible_readGroupAction mode)) fun _ _ _ _ _ h => h
    · exact ensures_faulty 1
  · exact ensures_faulty 1

/-- **An event that is read from a document is legible.** -/
theorem legible_ofDocument (mode : Mode) (fresh : Id) {now : Timestamp} (clock : now.Legible)
    (v : Json) : (ofDocument mode fresh now v).Ensures Event.Legible := by
  cases v with
  | object ms =>
    rw [ofDocument]
    split_ifs
    · exact (ensures_true _).map3 (ensures_withDefault clock fun _ _ => legible_of_timestamp)
        (legible_readSubject mode ms) fun _ _ _ _ time subject => ⟨time, subject⟩
    · exact ensures_faulty 1
  | _ => exact ensures_faulty 1

/-! ## Texts -/

/-- **An event that is read from a text is legible**, wherever the text comes from. -/
theorem legible_of_decode {fresh : Id} {now : Timestamp} (clock : now.Legible) {t : String}
    {e : Event} (h : decode fresh now t = .ok e) : e.Legible := by
  unfold decode at h
  split at h
  next => cases h
  next v hv =>
    split_ifs at h
    exact legible_ofDocument .jsonText fresh clock v e h

/-- **Different events have different texts.** -/
theorem encode_injective {e e' : Event} (he : e.Legible) (he' : e'.Legible)
    (same : e.encode = e'.encode) : e = e' := by
  have first := decode_encode default default he
  have second := decode_encode default default he'
  rw [same, second] at first
  cases first
  rfl

/-- **Stored events lose nothing.** Whatever identifier and time a text without its own would get,
a legible event, and so any whose clocks show universal time (`Sound.legible`), is read back from its
text and from its document, and its text is one of its document; so no two events have the same
text. An event that is read from any text or from any bytes is read again from the text that is
written of it, provided that the clock is legible.

**Proof sketch.** What is read is legible: its times and amounts come from fields, which yield
nothing else (`legible_ofDocument`), or the time is that of the clock. So it is read back, too. -/
theorem lossless (fresh fresh' : Id) (now now' : Timestamp) (clock : now.Legible) :
    (∀ e : Event, e.Legible →
      decode fresh' now' e.encode = .ok e ∧
        ofDocument .document fresh' now' e.document = .ok e ∧
          Json.parse? e.encode = some e.document) ∧
      (∀ e e' : Event, e.Legible → e'.Legible → e.encode = e'.encode → e = e') ∧
        (∀ t e, decode fresh now t = .ok e → decode fresh' now' e.encode = .ok e) ∧
          ∀ bytes e, decodeBytes fresh now bytes = .ok e →
            decode fresh' now' e.encode = .ok e := by
  have again : ∀ t e, decode fresh now t = .ok e → decode fresh' now' e.encode = .ok e := by
    intro t e h
    exact decode_encode fresh' now' (legible_of_decode clock h)
  refine ⟨?_, ?_, again, ?_⟩
  · intro e he
    exact ⟨decode_encode fresh' now' he, ofDocument_document .document fresh' now' he,
      parse?_encode e⟩
  · intro e e' he he' same
    exact encode_injective he he' same
  · intro bytes e h
    unfold decodeBytes at h
    split at h
    next t ht => exact again t e h
    next => cases h

/-- A settlement at the end of a year, with two transfers and nothing settled before. -/
def sampleSettlement : Event where
  id := .ofNat 1
  occurredAt := .utc 1798761599250000
  subject := .group (.ofNat 16) (.ofNat 32) (.settled (.ofNat 48) none (.utc 1798761600000000)
    [⟨.ofNat 32, .ofNat 33, .finite false 1050 (-2)⟩, ⟨.ofNat 34, .ofNat 33, .finite false 7 3⟩])

/-- An arrival that was written down elsewhere, with a number of seconds and without an identifier. -/
def sampleArrival : Json :=
  .object [("user_id", .text (Id.ofNat 16).text), ("occurred_at", .integer 1767225600),
    ("aggregate", .text "user"),
    ("kind", .object [("name", .text "Éva \"E\""), ("type", .text "user_created"),
      ("email", .text "eva@mail.org")])]

/-- What is read of `sampleArrival`. -/
def sampleArrived : Event where
  id := .ofNat 5
  occurredAt := .utc 1767225600000000
  subject := .account (.ofNat 16) (.created "Éva \"E\"" "eva@mail.org")

/-- The settlement is read back, the arrival is read again, and the two have different texts. -/
theorem lossless_sampleSettlement :
    (Timestamp.utc 0).Legible ∧ sampleSettlement.Legible ∧ sampleArrived.Legible ∧
      decode (.ofNat 5) (.utc 0) sampleArrival.spaced = .ok sampleArrived ∧
        decode (.ofNat 6) (.utc 1) sampleSettlement.encode = .ok sampleSettlement ∧
          decode (.ofNat 6) (.utc 1) sampleArrived.encode = .ok sampleArrived ∧
            sampleSettlement.encode ≠ sampleArrived.encode := by
  have clock : (Timestamp.utc 0).Legible := by decide
  have settlement : sampleSettlement.Legible := by
    refine ⟨by decide, nofun, by decide, ?_⟩
    simp only [List.mem_cons, List.not_mem_nil, or_false, forall_eq_or_imp, forall_eq]
    decide
  have arrived : sampleArrived.Legible := ⟨by decide, trivial⟩
  have plain : Json.Plain sampleArrival := by
    have time : Json.Plain (.integer 1767225600) := .integer (by decide)
    have kind : Json.Plain (.object [("name", .text "Éva \"E\""), ("type", .text "user_created"),
        ("email", .text "eva@mail.org")]) := .object (by simp [Json.Plain.text])
    exact .object (by simp [Json.Plain.text, time, kind])
  have read : decode (.ofNat 5) (.utc 0) sampleArrival.spaced = .ok sampleArrived := by
    have shallow : sampleArrival.depth ≤ maxDepth := by decide
    rw [decode, Json.parse?_spaced plain]
    simp only [plain.isWellFormed, shallow, decide_true, Bool.and_self, if_true]
    rfl
  obtain ⟨back, different, again, -⟩ := lossless (.ofNat 5) (.ofNat 6) (.utc 0) (.utc 1) clock
  refine ⟨clock, settlement, arrived, read, (back _ settlement).1, again _ _ read, ?_⟩
  intro same
  exact absurd (different _ _ settlement arrived same) (by decide)

end Event

end CommonPurse
