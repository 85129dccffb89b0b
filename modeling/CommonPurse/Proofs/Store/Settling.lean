import CommonPurse.Proofs.Store.Orderly

/-!
# Settlements and the expenses that they close

The settlements of a group follow one another without a gap, every settled expense is listed by one
of them, and its time lies between the two ends of that settlement. Four changes can be made to
expenses and settlements: an expense is entered, an open one is revised or removed, and the open
expenses of a group are closed by a settlement. Each of them keeps all this, as long as it is not
made before what is stored.

The last settlement of a group is found by its end and not by its place. That it is the last one
nevertheless rests on the clock.

## Main definitions

* `CommonPurse.Settlement.Linked` — settlements without a gap between them.
* `CommonPurse.Settlement.Covers` — an expense falls into the time of a settlement.
* `CommonPurse.Store.Memory.Contents.Settling` — settlements and expenses fit together.
* `CommonPurse.Store.Memory.Contents.Past` — nothing is stored that comes after a time.

## Main results

* `CommonPurse.Store.Memory.finish_latest` — the latest settlement ends where the last one ends.
* `CommonPurse.Store.Memory.Contents.Settling.enter`, `revise`, `remove`, `close` — the changes.
-/

namespace CommonPurse

open CommonPurse.Store

/-! ## Times -/

/-- Clocks that show universal time agree on the instant exactly when they agree. -/
lemma Timestamp.eq_of_instant {a b : Timestamp} (ha : a.offset = some 0) (hb : b.offset = some 0)
    (h : a.instant = b.instant) : a = b := by
  obtain ⟨wall, offset⟩ := a
  obtain ⟨wall', offset'⟩ := b
  simp only at ha hb
  subst ha hb
  simpa [instant] using h

namespace Settlement

/-- Settlements follow one another: the first one starts at a time, or has no start, and every
other one starts where the one before it ends. -/
def Linked : Option Timestamp → List Settlement → Prop
  | _, [] => True
  | t, s :: rest => s.start = t ∧ Linked (some s.finish) rest

/-- An expense falls into the time of a settlement, which has no lower end if it is the first. -/
structure Covers (s : Settlement) (e : Expense) : Prop where
  start : ∀ t, s.start = some t → t.instant ≤ e.createdAt.instant
  finish : e.createdAt.instant ≤ s.finish.instant

/-- One more settlement follows when it starts where the last one ends. -/
lemma linked_append_singleton (t : Option Timestamp) (l : List Settlement) (s : Settlement) :
    Linked t (l ++ [s]) ↔ Linked t l ∧ s.start = (l.getLast?.map (·.finish)).or t := by
  induction l generalizing t with
  | nil => simp [Linked]
  | cons a rest ih =>
    rw [List.cons_append, Linked, Linked, ih, and_assoc]
    cases rest with
    | nil => simp
    | cons b rest =>
      obtain ⟨last, hlast⟩ : ∃ last, (b :: rest).getLast? = some last :=
        ⟨_, List.getLast?_eq_some_getLast (List.cons_ne_nil b rest)⟩
      rw [List.getLast?_cons_cons, hlast]
      rfl

end Settlement

namespace Store.Memory

open Settlement

/-! ## The latest settlement -/

lemma latest_append_singleton {α : Type} (time : α → Timestamp) (l : List α) (a : α) :
    latest time (l ++ [a]) =
      match latest time l with
      | none => some a
      | some b => if (time b).instant < (time a).instant then some a else some b := by
  cases l with
  | nil => rfl
  | cons x rest =>
    simp only [List.cons_append, latest, List.foldl_append, List.foldl_cons, List.foldl_nil]
    split <;> rfl

/-- Of settlements in the order of their ends, the latest ends where the last one ends.

**Proof sketch.** Induction from the end of the list. Of two settlements that end at one instant the
first counts as the latest, but on clocks that show universal time the ends are the same. -/
lemma finish_latest {l : List Settlement} (universal : ∀ s ∈ l, s.finish.offset = some 0)
    (forward : l.Pairwise fun s t => s.finish.instant ≤ t.finish.instant) :
    (latest (·.finish) l).map (·.finish) = l.getLast?.map (·.finish) := by
  induction l using List.reverseRecOn with
  | nil => rfl
  | append_singleton l s ih =>
    have split := List.pairwise_append.mp forward
    have before := ih (fun t ht => universal t (List.mem_append_left _ ht)) split.1
    rw [latest_append_singleton, List.getLast?_concat]
    cases hb : latest (·.finish) l with
    | none => rfl
    | some b =>
      have hbl : b ∈ l := mem_of_latest hb
      have hle : b.finish.instant ≤ s.finish.instant :=
        split.2.2 b hbl s (List.mem_singleton_self s)
      by_cases hlt : b.finish.instant < s.finish.instant
      · simp only [if_pos hlt]
      · simp only [if_neg hlt, Option.map_some, Option.some.injEq]
        exact Timestamp.eq_of_instant (universal b (List.mem_append_left _ hbl))
          (universal s (by simp)) (by omega)

/-! ## Expenses and settlements that fit together -/

namespace Contents

/-- Settlements and expenses fit together: the settlements stand in the order of their ends and,
within a group, without a gap; no expense is listed twice; exactly the settled expenses are listed,
by a settlement of their own group that covers them; and the open expenses of a group are not older
than its settlements. -/
structure Settling (c : Contents) : Prop where
  universal : ∀ s ∈ c.settlements.values, s.finish.offset = some 0
  forward : c.settlements.values.Pairwise fun s t => s.finish.instant ≤ t.finish.instant
  linked : ∀ g, Linked none (settlementsOf c g)
  once : (c.settlements.values.flatMap (·.expenseIds)).Nodup
  settled : ∀ i e, c.expenses.get? i = some e →
    (e.settled = true ↔ ∃ s ∈ c.settlements.values, s.groupId = e.groupId ∧ i ∈ s.expenseIds)
  covered : ∀ s ∈ c.settlements.values, ∀ i ∈ s.expenseIds,
    ∃ e, c.expenses.get? i = some e ∧ e.groupId = s.groupId ∧ s.Covers e
  later : ∀ s ∈ c.settlements.values, ∀ i e, c.expenses.get? i = some e →
    e.groupId = s.groupId → e.settled = false → s.finish.instant ≤ e.createdAt.instant

/-- Nothing has been entered or settled after an instant. -/
structure Past (c : Contents) (t : Int) : Prop where
  settlements : ∀ s ∈ c.settlements.values, s.finish.instant ≤ t
  expenses : ∀ i e, c.expenses.get? i = some e → e.createdAt.instant ≤ t

variable {c : Contents}

lemma settling_empty : Contents.empty.Settling where
  universal _ h := nomatch h
  forward := .nil
  linked _ := trivial
  once := List.nodup_nil
  settled _ _ h := nomatch h
  covered _ h := nomatch h
  later _ h := nomatch h

lemma past_empty (t : Int) : Contents.empty.Past t where
  settlements _ h := nomatch h
  expenses _ _ h := nomatch h

/-- Only expenses and settlements matter. -/
lemma Settling.congr {d : Contents} (h : c.Settling) (he : d.expenses = c.expenses)
    (hs : d.settlements = c.settlements) : d.Settling := by
  obtain ⟨_, _, _, _, _, _, _⟩ := c
  obtain ⟨_, _, _, _, _, _, _⟩ := d
  simp only at he hs
  subst he hs
  exact { h with }

/-- What a settlement lists is settled. -/
lemma Settling.settled_of_listed (h : c.Settling) {s : Settlement}
    (hs : s ∈ c.settlements.values) {i : Id} (hi : i ∈ s.expenseIds) {e : Expense}
    (he : c.expenses.get? i = some e) : e.settled = true := by
  obtain ⟨x, hx, hg, -⟩ := h.covered s hs i hi
  obtain rfl : x = e := Option.some.inj (hx.symm.trans he)
  exact (h.settled i x hx).mpr ⟨s, hs, hg.symm, hi⟩

/-- Under an identifier that is not taken, or that of an open expense, nothing is listed. -/
lemma Settling.not_listed (h : c.Settling) {i : Id}
    (hi : ∀ e, c.expenses.get? i = some e → e.settled = false) :
    ∀ s ∈ c.settlements.values, i ∉ s.expenseIds := by
  intro s hs hmem
  obtain ⟨e, he, -⟩ := h.covered s hs i hmem
  have hsettled := h.settled_of_listed hs hmem he
  rw [hi e he] at hsettled
  cases hsettled

/-! ## The four changes -/

/-- An open expense is put in, in a new place or in that of another open one, and it is not older
than the settlements of its group. -/
lemma Settling.putOpen (h : c.Settling) {e : Expense} (isOpen : e.settled = false)
    (replaces : ∀ x, c.expenses.get? e.id = some x → x.settled = false)
    (later : ∀ s ∈ c.settlements.values, e.groupId = s.groupId →
      s.finish.instant ≤ e.createdAt.instant) :
    Settling { c with expenses := c.expenses.put e.id e } where
  universal := h.universal
  forward := h.forward
  linked := h.linked
  once := h.once
  settled i x hx := by
    rw [Table.get?_put] at hx
    split at hx
    · next hi =>
      cases hx
      have hnot := h.not_listed (hi ▸ replaces)
      refine iff_of_false (by simp [isOpen]) ?_
      rintro ⟨s, hs, -, hmem⟩
      exact hnot s hs hmem
    · exact h.settled i x hx
  covered s hs i hi := by
    obtain ⟨x, hx, hg, hc⟩ := h.covered s hs i hi
    have hne : e.id ≠ i := by
      rintro rfl
      exact h.not_listed replaces s hs hi
    exact ⟨x, by rw [Table.get?_put, if_neg hne, hx], hg, hc⟩
  later s hs i x hx hg ho := by
    rw [Table.get?_put] at hx
    split at hx
    · cases hx
      exact later s hs hg
    · exact h.later s hs i x hx hg ho

/-- A new expense is entered. -/
lemma Settling.enter (h : c.Settling) {e : Expense} (past : c.Past e.createdAt.instant)
    (isOpen : e.settled = false) (new : c.expenses.get? e.id = none) :
    Settling { c with expenses := c.expenses.put e.id e } :=
  h.putOpen isOpen (fun x hx => by simp [new] at hx) fun s hs _ => past.settlements s hs

/-- An open expense is revised; its group and its time stay. -/
lemma Settling.revise (h : c.Settling) {old e : Expense} (found : c.expenses.get? e.id = some old)
    (wasOpen : old.settled = false) (isOpen : e.settled = false) (group : e.groupId = old.groupId)
    (time : e.createdAt = old.createdAt) :
    Settling { c with expenses := c.expenses.put e.id e } := by
  refine h.putOpen isOpen (fun x hx => ?_) fun s hs hg => ?_
  · obtain rfl : old = x := Option.some.inj (found.symm.trans hx)
    exact wasOpen
  · rw [time]
    exact h.later s hs e.id old found (group ▸ hg) wasOpen

/-- An open expense is removed. -/
lemma Settling.remove (h : c.Settling) {i : Id} {old : Expense}
    (found : c.expenses.get? i = some old) (wasOpen : old.settled = false) :
    Settling { c with expenses := c.expenses.erase i } where
  universal := h.universal
  forward := h.forward
  linked := h.linked
  once := h.once
  settled j x hx := by
    rw [Table.get?_erase] at hx
    split at hx
    · cases hx
    · exact h.settled j x hx
  covered s hs j hj := by
    obtain ⟨x, hx, hg, hc⟩ := h.covered s hs j hj
    have hne : i ≠ j := by
      rintro rfl
      have hsettled := h.settled_of_listed hs hj found
      rw [wasOpen] at hsettled
      cases hsettled
    exact ⟨x, by rw [Table.get?_erase, if_neg hne, hx], hg, hc⟩
  later s hs j x hx hg ho := by
    rw [Table.get?_erase] at hx
    split at hx
    · cases hx
    · exact h.later s hs j x hx hg ho

/-- A settlement closes expenses: it lists exactly the open expenses of its group, each once, and
starts where the latest settlement of the group ends. -/
structure Closes (c : Contents) (s : Settlement) (es : List Expense) : Prop where
  listed : s.expenseIds = es.map (·.id)
  open_ : ∀ e, e ∈ es ↔ e ∈ c.expenses.values ∧ e.groupId = s.groupId ∧ e.settled = false
  distinct : (es.map (·.id)).Nodup
  start : s.start = (latest (·.finish) (settlementsOf c s.groupId)).map (·.finish)

/-- The contents when a settlement has closed expenses. -/
def closed (c : Contents) (s : Settlement) (es : List Expense) : Contents :=
  { c with
    expenses := c.expenses.putAll (·.id) (es.map (·.settle))
    settlements := c.settlements.put s.id s }

variable {s : Settlement} {es : List Expense}

/-- What a settlement lists is open and belongs to its group. -/
lemma Closes.get?_of_mem (h : c.Closes s es) (ho : c.Orderly) {i : Id} (hi : i ∈ s.expenseIds) :
    ∃ e ∈ es, e.id = i ∧ c.expenses.get? i = some e ∧ e.groupId = s.groupId ∧
      e.settled = false := by
  rw [h.listed] at hi
  obtain ⟨e, he, rfl⟩ := List.mem_map.mp hi
  obtain ⟨hv, hg, hs⟩ := (h.open_ e).mp he
  obtain ⟨r, hr, rfl⟩ := List.mem_map.mp hv
  have hget : c.expenses.get? r.2.id = some r.2 :=
    Table.get?_of_mem ho.expenses (ho.expenseKeys r hr ▸ hr)
  exact ⟨r.2, he, rfl, hget, hg, hs⟩

/-- What a settlement lists is settled by it, and the other expenses stay as they are. -/
lemma Closes.get?_closed (h : c.Closes s es) (ho : c.Orderly) (i : Id) :
    (c.closed s es).expenses.get? i =
      if i ∈ s.expenseIds then (c.expenses.get? i).map (·.settle) else c.expenses.get? i := by
  have stored : ∀ e ∈ es, c.expenses.get? e.id = some e := by
    intro e he
    have hi : e.id ∈ s.expenseIds := h.listed ▸ List.mem_map_of_mem he
    obtain ⟨r, hr, rfl⟩ := List.mem_map.mp ((h.open_ e).mp he).1
    exact Table.get?_of_mem ho.expenses (ho.expenseKeys r hr ▸ hr)
  rw [h.listed]
  exact Table.get?_putAll_map (f := Expense.settle) (fun _ => rfl) stored i

/-- The open expenses of a group are closed by a settlement.

**Proof sketch.** What the new settlement lists was open before, so no earlier settlement lists it;
it is not older than the last settlement of the group, where the new one starts; and afterwards
nothing in the group is open. -/
lemma Settling.close (h : c.Settling) (ho : c.Orderly) (hc : c.Closes s es)
    (past : c.Past s.finish.instant) (universal : s.finish.offset = some 0)
    (new : c.settlements.get? s.id = none) : (c.closed s es).Settling := by
  have values : (c.closed s es).settlements.values = c.settlements.values ++ [s] :=
    Table.values_put_of_absent s new
  have ofGroup : ∀ g, settlementsOf (c.closed s es) g =
      settlementsOf c g ++ if s.groupId = g then [s] else [] := by
    intro g
    rw [settlementsOf, values, List.filter_append]
    by_cases hg : s.groupId = g <;> simp [settlementsOf, hg]
  have apart : ∀ i ∈ s.expenseIds, ∀ t ∈ c.settlements.values, i ∉ t.expenseIds := by
    intro i hi
    obtain ⟨e, -, -, he, -, hopen⟩ := hc.get?_of_mem ho hi
    refine h.not_listed fun x hx => ?_
    obtain rfl : e = x := Option.some.inj (he.symm.trans hx)
    exact hopen
  have stays : ∀ i, i ∉ s.expenseIds → (c.closed s es).expenses.get? i = c.expenses.get? i := by
    intro i hi
    rw [hc.get?_closed ho, if_neg hi]
  constructor
  case universal =>
    rw [values]
    intro t ht
    rcases List.mem_append.mp ht with ht | ht
    · exact h.universal t ht
    · exact List.mem_singleton.mp ht ▸ universal
  case forward =>
    rw [values]
    refine List.pairwise_append.mpr ⟨h.forward, List.pairwise_singleton _ _, fun t ht x hx => ?_⟩
    exact List.mem_singleton.mp hx ▸ past.settlements t ht
  case linked =>
    intro g
    rw [ofGroup]
    by_cases hg : s.groupId = g
    · rw [if_pos hg, linked_append_singleton]
      refine ⟨h.linked g, ?_⟩
      have sub : (settlementsOf c g).Sublist c.settlements.values := List.filter_sublist
      rw [hc.start, hg, finish_latest (fun t ht => h.universal t (sub.subset ht))
        (h.forward.sublist sub), Option.or_none]
    · rw [if_neg hg, List.append_nil]
      exact h.linked g
  case once =>
    rw [values, List.flatMap_append, List.flatMap_singleton]
    refine List.Nodup.append h.once (hc.listed ▸ hc.distinct) fun i hi hs => ?_
    obtain ⟨t, ht, hit⟩ := List.mem_flatMap.mp hi
    exact apart i hs t ht hit
  case settled =>
    intro i e he
    rw [values]
    by_cases hi : i ∈ s.expenseIds
    · obtain ⟨x, -, -, hx, hg, -⟩ := hc.get?_of_mem ho hi
      rw [hc.get?_closed ho, if_pos hi, hx] at he
      cases he
      exact iff_of_true rfl ⟨s, by simp, hg.symm, hi⟩
    · rw [stays i hi] at he
      rw [h.settled i e he]
      constructor
      · rintro ⟨t, ht, hg, hit⟩
        exact ⟨t, List.mem_append_left _ ht, hg, hit⟩
      · rintro ⟨t, ht, hg, hit⟩
        rcases List.mem_append.mp ht with ht | ht
        · exact ⟨t, ht, hg, hit⟩
        · exact absurd (List.mem_singleton.mp ht ▸ hit) hi
  case covered =>
    rw [values]
    intro t ht i hi
    rcases List.mem_append.mp ht with ht | ht
    · obtain ⟨e, he, hg, hcov⟩ := h.covered t ht i hi
      exact ⟨e, by rw [stays i fun his => apart i his t ht hi, he], hg, hcov⟩
    · obtain rfl := List.mem_singleton.mp ht
      obtain ⟨e, -, -, he, hg, hopen⟩ := hc.get?_of_mem ho hi
      refine ⟨e.settle, by rw [hc.get?_closed ho, if_pos hi, he]; rfl, hg, ?_, ?_⟩
      · intro u hu
        rw [hc.start] at hu
        obtain ⟨last, hlast, rfl⟩ := Option.map_eq_some_iff.mp hu
        have hmem := List.mem_filter.mp (mem_of_latest hlast)
        have hgroup : last.groupId = t.groupId := by simpa using hmem.2
        exact h.later last hmem.1 i e he (hg.trans hgroup.symm) hopen
      · exact past.expenses i e he
  case later =>
    rw [values]
    intro t ht i e he hg hopen
    have hi : i ∉ s.expenseIds := by
      intro hi
      rw [hc.get?_closed ho, if_pos hi] at he
      obtain ⟨x, -, rfl⟩ := Option.map_eq_some_iff.mp he
      cases hopen
    rw [stays i hi] at he
    rcases List.mem_append.mp ht with ht | ht
    · exact h.later t ht i e he hg hopen
    · -- an open expense of the group would have been listed
      obtain rfl := List.mem_singleton.mp ht
      have hmem : e ∈ es := (hc.open_ e).mpr ⟨Table.mem_values_of_get? he, hg, hopen⟩
      rw [hc.listed, ← ho.expense_id he] at hi
      exact absurd (List.mem_map_of_mem hmem) hi

end Contents

end Store.Memory

end CommonPurse
