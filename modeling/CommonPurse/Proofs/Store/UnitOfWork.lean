import CommonPurse.Proofs.Store.Table
import CommonPurse.Store.Memory

/-!
# A unit of work on the store in memory

A unit of work either meets an obstacle, and then the store is what it was, or all its writes and
the records of all its events are carried out in one go. What stands in the way is settled by the
store as it is before: a collection that is switched off, or an identifier that is in the log.

## Main definitions

* `CommonPurse.Store.Memory.Contents.writeAll` — several writes, one after the other.
* `CommonPurse.Store.Memory.changesOf` — the changes of a unit of work.
* `CommonPurse.Store.Memory.withEvents` — a log with the records of further events.
* `CommonPurse.Store.Memory.vet` — what stands in the way of a unit of work.

## Main results

* `CommonPurse.Store.Memory.carryOut_eq` — a unit of work is carried out as a whole or not at all.
* `CommonPurse.Store.Memory.checkNew_eq_ok_iff` — which identifiers are new.
* `CommonPurse.Store.Memory.Contents.applyAll_changesOf` — what a unit of work leads to.
-/

namespace CommonPurse.Store.Memory

/-! ## Writes -/

namespace Contents

/-- Carry out writes in their order. -/
def writeAll (c : Contents) (writes : List Write) : Contents := writes.foldl write c

@[simp] lemma writeAll_nil (c : Contents) : c.writeAll [] = c := rfl

@[simp] lemma writeAll_cons (c : Contents) (w : Write) (ws : List Write) :
    c.writeAll (w :: ws) = (c.write w).writeAll ws := rfl

/-- Writes leave the log as it is. -/
@[simp] lemma events_write (c : Contents) (w : Write) : (c.write w).events = c.events := by
  cases w <;> rfl

@[simp] lemma events_writeAll (c : Contents) (ws : List Write) :
    (c.writeAll ws).events = c.events := by
  induction ws generalizing c with
  | nil => rfl
  | cons w ws ih => rw [writeAll_cons, ih, events_write]

/-- Saving expenses one after the other puts each under its identifier. -/
lemma writeAll_map_saveExpense (c : Contents) (es : List Expense) :
    c.writeAll (es.map .saveExpense) = { c with expenses := c.expenses.putAll (·.id) es } := by
  induction es generalizing c with
  | nil => rfl
  | cons e es ih =>
    rw [List.map_cons, writeAll_cons, ih]
    rfl

lemma applyAll_map_write (c : Contents) (ws : List Write) :
    c.applyAll (ws.map .write) = c.writeAll ws := by
  rw [applyAll, List.foldl_map]
  rfl

end Contents

/-! ## Changes -/

/-- The changes of a unit of work: its writes, then the records of its events. -/
def changesOf (writes : List Write) (events : List Event) : List Change :=
  writes.map .write ++ events.map fun e => .log e.id (recordOf e)

/-- What stands in the way of a unit of work: a collection that is switched off, or an identifier
that is not new. -/
def vet (m : Memory) (writes : List Write) (events : List Event) : Except Error Unit :=
  if (writes.any fun w => m.isCrashed w.repository) || m.isCrashed .events then .error .crashed
  else checkNew m.contents (events.map (·.id))

/-- A log with the records of further events. -/
def withEvents (log : Table Id EventRecord) (events : List Event) : Table Id EventRecord :=
  events.foldl (fun t e => t.put e.id (recordOf e)) log

/-- A unit of work: the writes are carried out, and the log gets the records. -/
lemma Contents.applyAll_changesOf (c : Contents) (ws : List Write) (es : List Event) :
    c.applyAll (changesOf ws es) = { c.writeAll ws with events := withEvents c.events es } := by
  have hlog : ∀ d : Contents, d.applyAll (es.map fun e => .log e.id (recordOf e)) =
      { d with events := withEvents d.events es } := by
    intro d
    induction es generalizing d with
    | nil => rfl
    | cons e es ih => exact ih (d.apply (.log e.id (recordOf e)))
  have hsplit : c.applyAll (changesOf ws es) =
      (c.applyAll (ws.map .write)).applyAll (es.map fun e => .log e.id (recordOf e)) :=
    List.foldl_append
  rw [hsplit, applyAll_map_write, hlog, events_writeAll]

/-! ## Staging -/

/-- A write is staged in an open transaction unless its collection is switched off. -/
lemma stage_own (m : Memory) (r : Repository) (c : Change) {t : Transaction}
    (ht : t.active = true) :
    m.stage r c (.own t) =
      if m.isCrashed r then (.error .crashed, .own t) else (.ok (), .own (t.stage c)) := by
  simp [stage, ht]

/-- Writes are staged up to the first one whose collection is switched off. The transaction stays
open in either case.

**Proof sketch.** Induction on the writes; the transaction so far is general. -/
lemma writeAll_own (m : Memory) (writes : List Write) {t : Transaction} (ht : t.active = true) :
    ∃ u : Transaction, u.active = true ∧
      backend.writeAll writes (.own t) m =
        if writes.any fun w => m.isCrashed w.repository then (.error .crashed, .own u, m)
        else (.ok (), .own { t with changes := t.changes ++ writes.map .write }, m) := by
  induction writes generalizing t with
  | nil => exact ⟨t, ht, by simp [Backend.writeAll]⟩
  | cons w ws ih =>
    by_cases hw : m.isCrashed w.repository = true
    · refine ⟨t, ht, ?_⟩
      simp [Backend.writeAll, backend, stage_own _ _ _ ht, hw]
    · obtain ⟨u, hu, h⟩ := ih (t := t.stage (.write w)) ht
      refine ⟨u, hu, ?_⟩
      rw [Bool.not_eq_true] at hw
      have hstep : backend.writeAll (w :: ws) (.own t) m =
          backend.writeAll ws (.own (t.stage (.write w))) m := by
        simp [Backend.writeAll, backend, stage_own _ _ _ ht, hw]
      rw [hstep, h]
      simp [hw, Transaction.stage]

/-- The records of events are staged when the log is not switched off. -/
lemma stageEvents_own (m : Memory) (events : List Event) {t : Transaction}
    (ht : t.active = true) (hm : m.isCrashed .events = false) :
    m.stageEvents events (.own t) = (.ok (), .own { t with
      changes := t.changes ++ events.map fun e => .log e.id (recordOf e) }) := by
  induction events generalizing t with
  | nil => simp [stageEvents]
  | cons e es ih =>
    simp only [stageEvents, stage_own _ _ _ ht, hm, Bool.false_eq_true, ↓reduceIte]
    rw [ih (t := t.stage _) ht]
    simp [Transaction.stage]

/-- Events are logged when the log is not switched off and their identifiers are new; otherwise
the transaction stays as it is. -/
lemma log_own (m : Memory) (events : List Event) {t : Transaction} (ht : t.active = true) :
    m.log events (.own t) =
      if m.isCrashed .events then (.error .crashed, .own t)
      else
        match checkNew m.contents (events.map (·.id)) with
        | .error e => (.error e, .own t)
        | .ok () => (.ok (), .own { t with
            changes := t.changes ++ events.map fun e => .log e.id (recordOf e)
            checks := t.checks ++ [events.map (·.id)] }) := by
  unfold log
  split
  · rfl
  · next hm =>
    rw [Bool.not_eq_true] at hm
    cases checkNew m.contents (events.map (·.id)) with
    | error e => rfl
    | ok u => simp [stageEvents_own m events ht hm, requireNew, Transaction.require]

/-! ## The whole unit of work -/

/-- What is left open is rolled back, which changes nothing. -/
lemma finish_own {ε α : Type} (onError : Error → ε) (r : Except ε α) (t : Transaction)
    (m : Memory) :
    ∃ u, backend.finish onError r (.own t) m = (r, u, m) := by
  cases ht : t.active with
  | false => exact ⟨.own t, by simp [Backend.finish, Backend.isOpen, backend, ht]⟩
  | true =>
    exact ⟨.own .closed, by simp [Backend.finish, Backend.isOpen, backend, rollback, ht]⟩

/-- Writing, logging and committing in a new transaction.

**Proof sketch.** Follow the three stages. The check at the commit is the one that was made when
the events were logged, on the same contents. -/
lemma writeAndCommit_new (m : Memory) (writes : List Write) (events : List Event) :
    ∃ u : Transaction, backend.writeAndCommit writes events (.own .new) m =
      match m.vet writes events with
      | .error e => (.error e, .own u, m)
      | .ok () => (.ok (), .own .closed,
          { m with contents := m.contents.applyAll (changesOf writes events) }) := by
  obtain ⟨u, -, h⟩ := writeAll_own m writes (t := .new) rfl
  have hw : backend.writeAll writes (.own .new) m =
      if writes.any fun w => m.isCrashed w.repository then (.error .crashed, .own u, m)
      else (.ok (), .own ⟨writes.map .write, [], true⟩, m) := by
    simpa [Transaction.new] using h
  have hl := log_own m events (t := ⟨writes.map .write, [], true⟩) rfl
  have hlog : ∀ t, backend.log events t m = ((m.log events t).1, (m.log events t).2, m) :=
    fun _ => rfl
  unfold Backend.writeAndCommit
  rw [hw]
  by_cases hc : (writes.any fun w => m.isCrashed w.repository) = true
  · exact ⟨u, by simp [vet, hc]⟩
  rw [Bool.not_eq_true] at hc
  refine ⟨⟨writes.map .write, [], true⟩, ?_⟩
  simp only [vet, hc, Bool.false_eq_true, ↓reduceIte, Bool.false_or, hlog, hl]
  by_cases he : m.isCrashed .events = true
  · simp only [he, ↓reduceIte]
  rw [Bool.not_eq_true] at he
  simp only [he, Bool.false_eq_true, ↓reduceIte]
  cases hn : checkNew m.contents (events.map (·.id)) with
  | error e => rfl
  | ok v => simp [backend, commit, runChecks, hn, changesOf]

/-- **A unit of work is carried out as a whole or not at all.** -/
theorem carryOut_eq (m : Memory) (writes : List Write) (events : List Event) :
    backend.carryOut writes events m =
      match m.vet writes events with
      | .error e => (.error e, m)
      | .ok () =>
        (.ok (), { m with contents := m.contents.applyAll (changesOf writes events) }) := by
  obtain ⟨u, h⟩ := writeAndCommit_new m writes events
  have hstart : backend.start m = (.ok .new, m) := rfl
  simp only [Backend.carryOut, hstart, h]
  cases m.vet writes events with
  | error e =>
    obtain ⟨v, hv⟩ := finish_own id (.error e : Except Error Unit) u m
    simp only [hv]
  | ok v =>
    obtain ⟨v, hv⟩ := finish_own id (.ok () : Except Error Unit) .closed
      { m with contents := m.contents.applyAll (changesOf writes events) }
    simp only [hv]

/-! ## What is admitted -/

/-- Identifiers are new when none of them is in the log and none of them comes twice. -/
lemma checkNew_eq_ok_iff (c : Contents) (ids : List Id) :
    checkNew c ids = .ok () ↔ (∀ i ∈ ids, c.events.get? i = none) ∧ ids.Nodup := by
  have htaken : (taken c ids).isEmpty = true ↔ ∀ i ∈ ids, c.events.get? i = none := by
    simp [taken, List.isEmpty_iff, List.filter_eq_nil_iff, Table.contains]
  unfold checkNew
  by_cases h : (taken c ids).isEmpty = true
  · have hi := htaken.mp h
    by_cases hn : ids.Nodup
    · simpa [h, hn] using hi
    · simp [h, hn]
  · rw [if_neg h]
    simpa using fun hi => absurd (htaken.mpr hi) h

/-- A unit of work is admitted when all collections that it writes to and the log are switched on
and its identifiers are new. -/
lemma vet_eq_ok_iff (m : Memory) (writes : List Write) (events : List Event) :
    m.vet writes events = .ok () ↔
      (∀ w ∈ writes, m.isCrashed w.repository = false) ∧ m.isCrashed .events = false ∧
        checkNew m.contents (events.map (·.id)) = .ok () := by
  unfold vet
  by_cases hw : ∀ w ∈ writes, m.isCrashed w.repository = false
  · have hany : (writes.any fun w => m.isCrashed w.repository) = false := by
      simpa using hw
    cases he : m.isCrashed .events with
    | true => simp [hany]
    | false => simpa [hany] using fun _ => hw
  · have hany : (writes.any fun w => m.isCrashed w.repository) = true := by
      simpa using hw
    simp only [hany, Bool.true_or, ↓reduceIte, reduceCtorEq, hw, false_and]

end CommonPurse.Store.Memory
