import CommonPurse.Proofs.Concurrency.Interleaving

/-!
# Settled expenses when calls interleave

An expense that is settled should stay as it is, and be part of one settlement only. When calls
interleave this depends on the schedule: a unit of work writes expenses that were open when its
call read them, and nothing looks at them again when it is committed. What is wanted holds of
exactly those runs in which no unit of work touches an expense that has been settled by the time
it is committed.

## Main definitions

* `CommonPurse.Plan.Effect` — what plans do to expenses and settlements.
* `CommonPurse.Interleaved.SettledOnce` — settled expenses stay, and are settled once.
* `CommonPurse.Interleaved.Undisturbed` — no commit touches an expense that is settled.

## Main results

* `CommonPurse.Interleaved.settledOnce_iff_undisturbed` — the first holds exactly when the second
  does.
* `CommonPurse.Interleaved.not_settledOnce_overlapping` — a run in which neither does.
-/

namespace CommonPurse

open CommonPurse.Store

/-! ## Effects of plans -/

namespace Store.Write

/-- The expense that a write concerns. -/
def expense? : Write → Option Id
  | .saveExpense e => some e.id
  | .deleteExpense i => some i
  | _ => none

/-- The settlement that a write concerns. -/
def settlement? : Write → Option Id
  | .saveSettlement s => some s.id
  | _ => none

end Store.Write

/-- What a plan does to expenses and settlements: nothing, or it saves one open expense, deletes one
expense, or saves a settlement together with the expenses that it lists. -/
inductive Plan.Effect (p : Plan) : Prop
  | elsewhere (none : ∀ w ∈ p.writes, w.expense? = none ∧ w.settlement? = none)
  | entry (e : Expense) (writes : p.writes = [.saveExpense e]) (isOpen : e.settled = false)
  | removal (i : Id) (writes : p.writes = [.deleteExpense i])
  | closing (s : Settlement) (es : List Expense)
      (writes : p.writes = .saveSettlement s :: es.map .saveExpense)
      (listed : s.expenseIds = es.map (·.id)) (settled : ∀ e ∈ es, e.settled = true)

/-- What the plans of commands do to expenses and settlements. -/
lemma Command.Planned.effect {v : View} {o : Occasion} {c : Command} {p : Plan}
    (h : Planned v o c p) : p.Effect := by
  cases h with
  | @register name email hash u created new =>
    refine .elsewhere fun w hw => ?_
    rcases List.mem_cons.mp hw with rfl | hw
    · exact ⟨rfl, rfl⟩
    · rcases credentialWrites_cases u.email hash with none_ | ⟨x, one⟩
      · simp [none_] at hw
      · rw [one] at hw
        obtain rfl := List.mem_singleton.mp hw
        exact ⟨rfl, rfl⟩
  | createExpense loaded member created =>
    obtain ⟨t, a, -, -, rfl⟩ := (Expense.create_eq_ok_iff ..).mp created
    exact .entry _ rfl rfl
  | updateExpense loaded found editable titled priced => exact .entry _ rfl editable.unsettled
  | deleteExpense loaded found editable => exact .removal _ rfl
  | @settle user group g es last ts loaded open_ latest admin balanced =>
    refine .closing _ _ rfl ?_ fun e he => ?_
    · rw [List.map_map]
      rfl
    · obtain ⟨x, -, rfl⟩ := List.mem_map.mp he
      rfl
  | _ => exact .elsewhere (by simp [Write.expense?, Write.settlement?])

/-! ## What is wanted -/

namespace Store.Memory.Contents

/-- No expense is listed by two settlements. -/
def SettledApart (c : Contents) : Prop :=
  ∀ j k s t, c.settlements.get? j = some s → c.settlements.get? k = some t →
    ∀ i ∈ s.expenseIds, i ∈ t.expenseIds → j = k

/-- What is settled in one state is stored, settled, and has its title and amount in another. -/
def KeepsSettled (c c' : Contents) : Prop :=
  ∀ i e, c.expenses.get? i = some e → e.settled = true →
    ∃ e', c'.expenses.get? i = some e' ∧ e'.settled = true ∧ e'.title = e.title ∧
      e'.amount = e.amount

lemma KeepsSettled.refl (c : Contents) : c.KeepsSettled c :=
  fun _ e he hs => ⟨e, he, hs, rfl, rfl⟩

lemma KeepsSettled.trans {a b c : Contents} (hab : a.KeepsSettled b) (hbc : b.KeepsSettled c) :
    a.KeepsSettled c := by
  intro i e he hs
  obtain ⟨x, hx, hxs, hxt, hxa⟩ := hab i e he hs
  obtain ⟨y, hy, hys, hyt, hya⟩ := hbc i x hx hxs
  exact ⟨y, hy, hys, hyt.trans hxt, hya.trans hxa⟩

/-- Every settled expense is listed by a settlement. -/
def Listed (c : Contents) : Prop :=
  ∀ i e, c.expenses.get? i = some e → e.settled = true →
    ∃ j s, c.settlements.get? j = some s ∧ i ∈ s.expenseIds

/-- Every expense that a settlement lists is stored and settled. -/
def Backed (c : Contents) : Prop :=
  ∀ j s, c.settlements.get? j = some s → ∀ i ∈ s.expenseIds,
    ∃ e, c.expenses.get? i = some e ∧ e.settled = true

end Store.Memory.Contents

namespace Interleaved

open Store.Memory.Contents

/-- **Settled expenses stay, and are settled once**: in every state of a run no expense is listed by
two settlements, and what is settled in a state stays so, with its title and amount, in all later
ones. -/
structure SettledOnce (d : Interleaved) (steps : List Step) : Prop where
  once : ∀ x ∈ d.states steps, x.contents.SettledApart
  stays : (d.states steps).Pairwise fun x y => x.contents.KeepsSettled y.contents

/-- A step commits no unit of work that touches an expense which is settled at that moment. -/
def LeavesSettled (d : Interleaved) (s : Step) : Prop :=
  ∀ p ∈ d.committing? s, ∀ w ∈ p.writes, ∀ i ∈ w.expense?,
    ∀ e ∈ d.contents.expenses.get? i, e.settled = false

/-- No step of a run commits a unit of work that touches an expense which is settled at that
moment. -/
def Undisturbed (d : Interleaved) : List Step → Prop
  | [] => True
  | s :: ss => d.LeavesSettled s ∧ (d.step s).Undisturbed ss

/-- The settlement that a step commits, if any, has an identifier that no stored settlement has. -/
def FreshAt (d : Interleaved) (s : Step) : Prop :=
  ∀ p ∈ d.committing? s, ∀ w ∈ p.writes, ∀ i ∈ w.settlement?,
    d.contents.settlements.get? i = none

/-- All settlements that a run commits have fresh identifiers. -/
def Fresh (d : Interleaved) : List Step → Prop
  | [] => True
  | s :: ss => d.FreshAt s ∧ (d.step s).Fresh ss

instance (d : Interleaved) (s : Step) : Decidable (d.LeavesSettled s) :=
  inferInstanceAs (Decidable (∀ p ∈ d.committing? s, ∀ w ∈ p.writes, ∀ i ∈ w.expense?,
    ∀ e ∈ d.contents.expenses.get? i, e.settled = false))

instance (d : Interleaved) (s : Step) : Decidable (d.FreshAt s) :=
  inferInstanceAs (Decidable (∀ p ∈ d.committing? s, ∀ w ∈ p.writes, ∀ i ∈ w.settlement?,
    d.contents.settlements.get? i = none))

instance decidableUndisturbed (d : Interleaved) :
    (steps : List Step) → Decidable (d.Undisturbed steps)
  | [] => isTrue trivial
  | s :: ss => @instDecidableAnd _ _ _ ((d.step s).decidableUndisturbed ss)

instance decidableFresh (d : Interleaved) : (steps : List Step) → Decidable (d.Fresh steps)
  | [] => isTrue trivial
  | s :: ss => @instDecidableAnd _ _ _ ((d.step s).decidableFresh ss)

/-! ## One step -/

/-- What a step does to expenses and settlements, by the effect of the plan that it commits. -/
inductive StepEffect (d : Interleaved) (s : Step) : Prop
  | none (expenses : (d.step s).contents.expenses = d.contents.expenses)
      (settlements : (d.step s).contents.settlements = d.contents.settlements)
      (quiet : ∀ p, d.committing? s = some p → ∀ w ∈ p.writes,
        w.expense? = none ∧ w.settlement? = none)
  | entry (p : Plan) (e : Expense) (commits : d.committing? s = some p)
      (writes : p.writes = [.saveExpense e]) (isOpen : e.settled = false)
      (expenses : (d.step s).contents.expenses = d.contents.expenses.put e.id e)
      (settlements : (d.step s).contents.settlements = d.contents.settlements)
  | removal (p : Plan) (i : Id) (commits : d.committing? s = some p)
      (writes : p.writes = [.deleteExpense i])
      (expenses : (d.step s).contents.expenses = d.contents.expenses.erase i)
      (settlements : (d.step s).contents.settlements = d.contents.settlements)
  | closing (p : Plan) (t : Settlement) (es : List Expense) (commits : d.committing? s = some p)
      (writes : p.writes = .saveSettlement t :: es.map .saveExpense)
      (listed : t.expenseIds = es.map (·.id)) (settled : ∀ e ∈ es, e.settled = true)
      (expenses : (d.step s).contents.expenses = d.contents.expenses.putAll (·.id) es)
      (settlements : (d.step s).contents.settlements = d.contents.settlements.put t.id t)

/-- Writes that concern no expense leave expenses as they are, and likewise for settlements. -/
lemma writeAll_elsewhere {c : Memory.Contents} {ws : List Write}
    (h : ∀ w ∈ ws, w.expense? = none ∧ w.settlement? = none) :
    (c.writeAll ws).expenses = c.expenses ∧ (c.writeAll ws).settlements = c.settlements := by
  induction ws generalizing c with
  | nil => exact ⟨rfl, rfl⟩
  | cons w ws ih =>
    have hw := h w List.mem_cons_self
    have hws := ih (c := c.write w) fun x hx => h x (List.mem_cons_of_mem _ hx)
    rw [writeAll_cons, hws.1, hws.2]
    cases w <;> simp_all [Write.expense?, Write.settlement?, Memory.Contents.write]

/-- Every step has one of these effects. -/
lemma stepEffect {d : Interleaved} (h : d.Planned) (s : Step) : d.StepEffect s := by
  obtain ⟨devices, events, hc⟩ := d.contents_step s
  cases hp : d.committing? s with
  | none =>
    rw [hp] at hc
    exact .none (by rw [hc]; rfl) (by rw [hc]; rfl) (by simp [hp])
  | some p =>
    obtain ⟨v, o, c, hplanned⟩ := h p (mem_of_committing? hp)
    rw [hp] at hc
    cases hplanned.effect with
    | elsewhere quiet =>
      obtain ⟨he, hs⟩ := writeAll_elsewhere (c := d.contents) quiet
      refine .none (by rw [hc]; exact he) (by rw [hc]; exact hs) fun q hq => ?_
      obtain rfl := Option.some.inj (hp.symm.trans hq)
      exact quiet
    | entry e writes isOpen =>
      refine .entry p e hp writes isOpen ?_ ?_ <;>
        rw [hc, Option.map_some, Option.getD_some, writes]
      · rfl
      · rfl
    | removal i writes =>
      refine .removal p i hp writes ?_ ?_ <;> rw [hc, Option.map_some, Option.getD_some, writes]
      · rfl
      · rfl
    | closing t es writes listed settled =>
      refine .closing p t es hp writes listed settled ?_ ?_ <;>
        rw [hc, Option.map_some, Option.getD_some, writes, writeAll_cons, writeAll_map_saveExpense]
      · rfl
      · rfl

variable {d : Interleaved} {s : Step}

/-- Every settled expense stays listed by a settlement, whatever step is taken. -/
lemma listed_step (hp : d.Planned) (hf : d.FreshAt s) (h : d.contents.Listed) :
    (d.step s).contents.Listed := by
  intro i e he hs
  cases stepEffect hp s with
  | none expenses settlements quiet =>
    rw [settlements]
    exact h i e (expenses ▸ he) hs
  | entry p x commits writes isOpen expenses settlements =>
    rw [expenses, Table.get?_put] at he
    rw [settlements]
    split at he
    · cases he
      rw [isOpen] at hs
      cases hs
    · exact h i e he hs
  | removal p x commits writes expenses settlements =>
    rw [expenses, Table.get?_erase] at he
    rw [settlements]
    split at he
    · cases he
    · exact h i e he hs
  | closing p t es commits writes listed settled expenses settlements =>
    rw [expenses] at he
    by_cases hi : i ∈ es.map (·.id)
    · exact ⟨t.id, t, by rw [settlements, Table.get?_put, if_pos rfl], listed ▸ hi⟩
    · rw [Table.get?_putAll_of_notMem hi] at he
      obtain ⟨j, u, hj, hu⟩ := h i e he hs
      have hnew : d.contents.settlements.get? t.id = none :=
        hf p commits (.saveSettlement t) (by simp [writes]) t.id rfl
      have hne : t.id ≠ j := by
        rintro rfl
        rw [hnew] at hj
        cases hj
      exact ⟨j, u, by rw [settlements, Table.get?_put, if_neg hne, hj], hu⟩

/-- A step that leaves settled expenses alone keeps their records. -/
lemma get?_step_of_leavesSettled (hp : d.Planned) (hl : d.LeavesSettled s) {i : Id} {e : Expense}
    (he : d.contents.expenses.get? i = some e) (hs : e.settled = true) :
    (d.step s).contents.expenses.get? i = some e := by
  have hopen : ∀ p, d.committing? s = some p → ∀ w ∈ p.writes, w.expense? ≠ some i := by
    intro p hc w hw hi
    rw [hl p hc w hw i hi e he] at hs
    cases hs
  cases stepEffect hp s with
  | none expenses settlements quiet => rw [expenses, he]
  | entry p x commits writes isOpen expenses settlements =>
    have hne : x.id ≠ i := fun h =>
      hopen p commits (.saveExpense x) (by simp [writes]) (by rw [Write.expense?, h])
    rw [expenses, Table.get?_put, if_neg hne, he]
  | removal p x commits writes expenses settlements =>
    have hne : x ≠ i := fun h =>
      hopen p commits (.deleteExpense x) (by simp [writes]) (by rw [Write.expense?, h])
    rw [expenses, Table.get?_erase, if_neg hne, he]
  | closing p t es commits writes listed settled expenses settlements =>
    have hne : i ∉ es.map (·.id) := by
      intro h
      obtain ⟨x, hx, rfl⟩ := List.mem_map.mp h
      exact hopen p commits (.saveExpense x) (by simp [writes, hx]) rfl
    rw [expenses, Table.get?_putAll_of_notMem hne, he]

/-- A step that leaves settled expenses alone keeps everything settled that a settlement lists. -/
lemma backed_step (hp : d.Planned) (hl : d.LeavesSettled s) (h : d.contents.Backed) :
    (d.step s).contents.Backed := by
  have hold : ∀ j t, d.contents.settlements.get? j = some t → ∀ i ∈ t.expenseIds,
      ∃ e, (d.step s).contents.expenses.get? i = some e ∧ e.settled = true := by
    intro j t ht i hi
    obtain ⟨e, he, hs⟩ := h j t ht i hi
    exact ⟨e, get?_step_of_leavesSettled hp hl he hs, hs⟩
  intro j u hu i hi
  cases stepEffect hp s with
  | none expenses settlements quiet => exact hold j u (settlements ▸ hu) i hi
  | entry p x commits writes isOpen expenses settlements => exact hold j u (settlements ▸ hu) i hi
  | removal p x commits writes expenses settlements => exact hold j u (settlements ▸ hu) i hi
  | closing p t es commits writes listed settled expenses settlements =>
    rw [settlements, Table.get?_put] at hu
    split at hu
    · cases hu
      obtain ⟨e, hmem, -, he⟩ := Table.get?_putAll_of_mem (t := d.contents.expenses) (listed ▸ hi)
      exact ⟨e, by rw [expenses, he], settled e hmem⟩
    · exact hold j u hu i hi

/-- A step that leaves settled expenses alone lists none of them again. -/
lemma settledApart_step (hp : d.Planned) (hl : d.LeavesSettled s) (hb : d.contents.Backed)
    (h : d.contents.SettledApart) : (d.step s).contents.SettledApart := by
  intro j k u v hu hv i hi hi'
  cases stepEffect hp s with
  | none expenses settlements quiet =>
    rw [settlements] at hu hv
    exact h j k u v hu hv i hi hi'
  | entry p x commits writes isOpen expenses settlements =>
    rw [settlements] at hu hv
    exact h j k u v hu hv i hi hi'
  | removal p x commits writes expenses settlements =>
    rw [settlements] at hu hv
    exact h j k u v hu hv i hi hi'
  | closing p t es commits writes listed settled expenses settlements =>
    -- what the new settlement lists was open, and what an old one lists was settled
    have hclash : ∀ l w, d.contents.settlements.get? l = some w → i ∈ t.expenseIds →
        i ∉ w.expenseIds := by
      intro l w hw hit hiw
      obtain ⟨e, he, hs⟩ := hb l w hw i hiw
      obtain ⟨x, hx, rfl⟩ := List.mem_map.mp (listed ▸ hit)
      rw [hl p commits (.saveExpense x) (by simp [writes, hx]) x.id rfl e he] at hs
      cases hs
    rw [settlements, Table.get?_put] at hu hv
    split at hu
    · next hj =>
      cases hu
      split at hv
      · next hk => exact hj.symm.trans hk
      · exact absurd hi' (hclash k v hv hi)
    · split at hv
      · cases hv
        exact absurd hi (hclash j u hu hi')
      · exact h j k u v hu hv i hi hi'

/-- A step that commits something about a settled expense either makes it open, or removes it, or
lists it a second time. -/
lemma leavesSettled_of_keeps (hp : d.Planned) (hf : d.FreshAt s) (hl : d.contents.Listed)
    (hk : d.contents.KeepsSettled (d.step s).contents) (ha : (d.step s).contents.SettledApart) :
    d.LeavesSettled s := by
  intro q hq w hw i hwi e he
  by_contra hs
  rw [Bool.not_eq_false] at hs
  obtain ⟨e', he', hs', -⟩ := hk i e he hs
  cases stepEffect hp s with
  | none expenses settlements quiet =>
    exact absurd hwi (by simp [(quiet q hq w hw).1])
  | entry p x commits writes isOpen expenses settlements =>
    obtain rfl := Option.some.inj (commits.symm.trans hq)
    obtain rfl := List.mem_singleton.mp (writes ▸ hw)
    have hxi : x.id = i := Option.some.inj hwi
    rw [expenses, Table.get?_put, if_pos hxi] at he'
    cases he'
    rw [isOpen] at hs'
    cases hs'
  | removal p x commits writes expenses settlements =>
    obtain rfl := Option.some.inj (commits.symm.trans hq)
    obtain rfl := List.mem_singleton.mp (writes ▸ hw)
    have hxi : x = i := Option.some.inj hwi
    rw [expenses, Table.get?_erase, if_pos hxi] at he'
    cases he'
  | closing p t es commits writes listed settled expenses settlements =>
    obtain rfl := Option.some.inj (commits.symm.trans hq)
    rw [writes, List.mem_cons] at hw
    rcases hw with rfl | hw
    · exact absurd hwi (by simp [Write.expense?])
    obtain ⟨x, hx, rfl⟩ := List.mem_map.mp hw
    have hxi : x.id = i := Option.some.inj hwi
    have hit : i ∈ t.expenseIds := by
      rw [listed]
      exact List.mem_map.mpr ⟨x, hx, hxi⟩
    obtain ⟨j, u, hj, hu⟩ := hl i e he hs
    have hnew : d.contents.settlements.get? t.id = none :=
      hf p commits (.saveSettlement t) (by simp [writes]) t.id rfl
    have hne : t.id ≠ j := by
      rintro rfl
      rw [hnew] at hj
      cases hj
    have hold : (d.step s).contents.settlements.get? j = some u := by
      rw [settlements, Table.get?_put, if_neg hne, hj]
    have hthis : (d.step s).contents.settlements.get? t.id = some t := by
      rw [settlements, Table.get?_put, if_pos rfl]
    exact hne (ha t.id j t u hthis hold i hit hu)

/-! ## Whole runs -/

lemma states_eq_cons (d : Interleaved) (steps : List Step) :
    ∃ rest, d.states steps = d :: rest := by
  cases steps with
  | nil => exact ⟨[], rfl⟩
  | cons s ss => exact ⟨(d.step s).states ss, rfl⟩

/-- An undisturbed run keeps settled expenses from its first state on. -/
lemma keepsSettled_of_undisturbed {steps : List Step} (hp : d.Planned)
    (hu : d.Undisturbed steps) :
    ∀ x ∈ d.states steps, d.contents.KeepsSettled x.contents := by
  induction steps generalizing d with
  | nil =>
    intro x hx
    obtain rfl := List.mem_singleton.mp hx
    exact .refl _
  | cons s ss ih =>
    intro x hx
    rcases List.mem_cons.mp hx with rfl | hx
    · exact .refl _
    · have hstep : d.contents.KeepsSettled (d.step s).contents := fun i e he hs =>
        ⟨e, get?_step_of_leavesSettled hp hu.1 he hs, hs, rfl, rfl⟩
      exact hstep.trans (ih (hp.step s) hu.2 x hx)

/-- In an undisturbed run settled expenses stay, and are settled once. -/
lemma settledOnce_of_undisturbed {steps : List Step} (hp : d.Planned)
    (hb : d.contents.Backed) (ha : d.contents.SettledApart) (hu : d.Undisturbed steps) :
    d.SettledOnce steps := by
  induction steps generalizing d with
  | nil =>
    refine ⟨fun x hx => ?_, List.pairwise_singleton _ _⟩
    obtain rfl := List.mem_singleton.mp hx
    exact ha
  | cons s ss ih =>
    have hrest := ih (hp.step s) (backed_step hp hu.1 hb) (settledApart_step hp hu.1 hb ha) hu.2
    refine ⟨fun x hx => ?_, List.pairwise_cons.mpr ⟨fun x hx => ?_, hrest.stays⟩⟩
    · rcases List.mem_cons.mp hx with rfl | hx
      · exact ha
      · exact hrest.once x hx
    · exact keepsSettled_of_undisturbed hp hu x (List.mem_cons_of_mem _ hx)

/-- A run in which settled expenses stay, and are settled once, is undisturbed. -/
lemma undisturbed_of_settledOnce {steps : List Step} (hp : d.Planned) (hl : d.contents.Listed)
    (hf : d.Fresh steps) (h : d.SettledOnce steps) : d.Undisturbed steps := by
  induction steps generalizing d with
  | nil => trivial
  | cons s ss ih =>
    obtain ⟨hkeep, hstays⟩ := List.pairwise_cons.mp h.stays
    obtain ⟨rest, hrest⟩ := (d.step s).states_eq_cons ss
    have hfirst : d.step s ∈ (d.step s).states ss := by
      rw [hrest]
      exact List.mem_cons_self
    have hleaves : d.LeavesSettled s := leavesSettled_of_keeps hp hf.1 hl (hkeep _ hfirst)
      (h.once _ (List.mem_cons_of_mem _ hfirst))
    refine ⟨hleaves, ih (hp.step s) (listed_step hp hf.1 hl) hf.2 ⟨fun x hx => ?_, hstays⟩⟩
    exact h.once x (List.mem_cons_of_mem _ hx)

/-- **Settled expenses stay, and are settled once, exactly in undisturbed runs.** Calls interleave
in any order on a store that is empty at first, and settlements have fresh identifiers. Then no
expense is listed by two settlements, and settled expenses stay settled with title and amount,
exactly when no commit touches an expense that has been settled by then.

**Proof sketch.** A step that touches no settled expense keeps the records of all of them, and what
it settles anew was listed nowhere, because settlements list settled expenses only. Conversely a
unit of work that touches a settled expense was planned when the expense was open: it makes the
expense open again, removes it, or lists it in one more settlement than the one which lists it
already. -/
theorem settledOnce_iff_undisturbed (w : World Memory) (crashed : List Repository)
    (steps : List Step) (fresh : (start w crashed).Fresh steps) :
    (start w crashed).SettledOnce steps ↔ (start w crashed).Undisturbed steps := by
  have hp := planned_start w crashed
  constructor
  · exact undisturbed_of_settledOnce hp (fun _ _ h => nomatch h) fresh
  · exact settledOnce_of_undisturbed hp (fun _ _ h => nomatch h) (fun _ _ _ _ h => nomatch h)

/-! ## Runs -/

/-- The occasion of the call with a number: every call draws identifiers of its own. -/
def sampleOccasion (k : Nat) : Occasion :=
  ⟨.utc (k * Timestamp.second), fun n => .ofNat (16 * k + n)⟩

/-- A world with a queue that takes everything. -/
def sampleWorld : World Memory := ⟨.empty [], .queue [] none, default, sampleOccasion 0, []⟩

/-- Somebody registers, founds a group, and enters two expenses; then the group is settled. No call
comes between the two steps of another. -/
def sampleSequence : List Step :=
  [.read (sampleOccasion 1) (.register (some "Ada") (some "ada@mail.org") none), .commit 0,
    .read (sampleOccasion 2) (.createGroup (.ofNat 16) "Trip" none), .commit 0,
    .read (sampleOccasion 3) (.createExpense (.ofNat 16) (.ofNat 32) "Boat" "30"), .commit 0,
    .read (sampleOccasion 4) (.createExpense (.ofNat 16) (.ofNat 32) "Tent" "10"), .commit 0,
    .read (sampleOccasion 5) (.settle (.ofNat 16) (.ofNat 32)), .commit 0]

/-- The calls of `sampleSequence` do not disturb each other, and settled expenses stay. -/
theorem settledOnce_sampleSequence :
    (start sampleWorld []).Fresh sampleSequence ∧
      (start sampleWorld []).SettledOnce sampleSequence :=
  have hfresh : (start sampleWorld []).Fresh sampleSequence := by decide
  ⟨hfresh, (settledOnce_iff_undisturbed sampleWorld [] sampleSequence hfresh).mpr (by decide)⟩

/-- Before the settlement of `sampleSequence` is committed, three more calls read: one that changes
the first expense, one that deletes the second, and one that settles the group. They commit when
the settlement has been committed. -/
def sampleOverlap : List Step :=
  sampleSequence.take 9 ++
    [.read (sampleOccasion 6) (.updateExpense (.ofNat 16) (.ofNat 32) (.ofNat 48) "Ferry" "40"),
      .read (sampleOccasion 7) (.deleteExpense (.ofNat 16) (.ofNat 32) (.ofNat 64)),
      .read (sampleOccasion 8) (.settle (.ofNat 16) (.ofNat 32)),
      .commit 0, .commit 0, .commit 0, .commit 0]

lemma foldl_step_mem_states (d : Interleaved) (steps : List Step) :
    steps.foldl step d ∈ d.states steps := by
  induction steps generalizing d with
  | nil => exact List.mem_singleton.mpr rfl
  | cons s ss ih => exact List.mem_cons_of_mem _ (ih (d.step s))

/-- In the end of `sampleOverlap` two settlements list the same expenses. -/
theorem not_settledOnce_sampleOverlap : ¬ (start sampleWorld []).SettledOnce sampleOverlap := by
  intro h
  let last := sampleOverlap.foldl step (start sampleWorld [])
  have hapart : last.contents.SettledApart := h.once _ (foldl_step_mem_states _ _)
  have hfirst : (last.contents.settlements.get? (.ofNat 80)).map (·.expenseIds) =
      some [.ofNat 48, .ofNat 64] := by decide
  have hsecond : (last.contents.settlements.get? (.ofNat 128)).map (·.expenseIds) =
      some [.ofNat 48, .ofNat 64] := by decide
  obtain ⟨s, hs, hsids⟩ := Option.map_eq_some_iff.mp hfirst
  obtain ⟨t, ht, htids⟩ := Option.map_eq_some_iff.mp hsecond
  have hsame := hapart _ _ s t hs ht (.ofNat 48) (by simp [hsids]) (by simp [htids])
  exact absurd hsame (by decide)

/-- In the course of `sampleOverlap` a settled expense is open again, with another title, and
another one is gone. -/
example :
    ((sampleOverlap.take 15).foldl step (start sampleWorld [])).contents.expenses.values.map
      (fun e => (e.id, e.title, e.settled)) = [(.ofNat 48, "Ferry", false)] := by
  decide

end Interleaved

end CommonPurse
