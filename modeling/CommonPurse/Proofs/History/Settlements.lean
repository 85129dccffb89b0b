import CommonPurse.Proofs.History.Run
import CommonPurse.Proofs.Store.Settling

/-!
# The settlements of a run

Calls that follow one another, under a clock that does not go back and with identifiers that are not
in use: the settlements of each group form a chain, each expense is settled once, and what has been
settled stays as it was.

## Main definitions

* `CommonPurse.World.closings` — the settlements that are committed in a run.
* `CommonPurse.World.Forward` — the calls of a run come at times that do not go back.
* `CommonPurse.World.Fresh` — nothing is stored under the identifiers that the calls of a run draw.
* `CommonPurse.Turn` — what a move does to expenses and settlements.
* `CommonPurse.World.WellSettled` — what is wanted of the settlements of a run.

## Main results

* `CommonPurse.Command.Planned.turn` — what the plan of a command does to expenses and settlements.
* `CommonPurse.World.settling_run` — expenses and settlements fit together after every run.
* `CommonPurse.World.wellSettled_run` — every run is well settled.
-/

namespace CommonPurse

open CommonPurse.Store CommonPurse.Store.Memory

/-! ## Settlements of a run -/

/-- The settlement that a write saves. -/
def Store.Write.saved? : Write → Option Settlement
  | .saveSettlement s => some s
  | _ => none

/-- The settlements that a plan saves. -/
def Plan.settlements (p : Plan) : List Settlement := p.writes.filterMap Write.saved?

namespace World

/-- The settlements that a move commits. -/
def closing (w : World Memory) : Move → List Settlement
  | .call o c => ((w.store.accepted? o c).map Plan.settlements).getD []
  | .ask _ _ => []
  | .switch _ _ => []

/-- The settlements that are committed in a run, in the order of their commits. -/
def closings (w : World Memory) : List Move → List Settlement
  | [] => []
  | m :: ms => w.closing m ++ (w.move m).closings ms

/-! ## The clock and the identifiers -/

/-- The time of a move. -/
def Move.time? : Move → Option Timestamp
  | .call o _ => some o.now
  | .ask o _ => some o.now
  | .switch _ _ => none

/-- The calls of a run come at times that do not go back, on a clock that shows universal time. -/
structure Forward (ms : List Move) : Prop where
  universal : ∀ t ∈ ms.filterMap Move.time?, t.offset = some 0
  ordered : (ms.filterMap Move.time?).Pairwise fun t u => t.instant ≤ u.instant

end World

/-- Nothing is stored under an identifier. -/
def Store.Memory.Contents.Unused (c : Contents) (i : Id) : Prop :=
  c.users.get? i = none ∧ c.groups.get? i = none ∧ c.expenses.get? i = none ∧
    c.settlements.get? i = none ∧ c.events.get? i = none

instance (c : Contents) (i : Id) : Decidable (c.Unused i) :=
  inferInstanceAs (Decidable (_ ∧ _))

namespace World

/-- Nothing is stored under the identifiers that a move draws. -/
def FreshAt (w : World Memory) : Move → Prop
  | .call o c => ∀ p ∈ w.store.accepted? o c, ∀ n < p.drawn, w.store.contents.Unused (o.ids n)
  | .ask _ _ => True
  | .switch _ _ => True

/-- Nothing is stored under the identifiers that the moves of a run draw. -/
def Fresh (w : World Memory) : List Move → Prop
  | [] => True
  | m :: ms => w.FreshAt m ∧ (w.move m).Fresh ms

lemma fresh_append (w : World Memory) (ms ns : List Move) :
    w.Fresh (ms ++ ns) ↔ w.Fresh ms ∧ (w.run ms).Fresh ns := by
  induction ms generalizing w with
  | nil => simp [Fresh, run]
  | cons m ms ih => rw [List.cons_append, Fresh, Fresh, ih, and_assoc, run_cons]

lemma run_append (w : World Memory) (ms ns : List Move) :
    w.run (ms ++ ns) = (w.run ms).run ns :=
  List.foldl_append

end World

/-! ## What a move does -/

/-- What a move does to expenses and settlements: nothing; a new expense is entered; an open one is
revised, or removed; or the open expenses of a group are closed by a settlement. -/
inductive Turn (c c' : Contents) (time : Option Timestamp) (closing : List Settlement) : Prop
  | quiet (expenses : c'.expenses = c.expenses) (settlements : c'.settlements = c.settlements)
      (none : closing = [])
  | entered (e : Expense) (at_ : time = some e.createdAt) (isOpen : e.settled = false)
      (new : c.expenses.get? e.id = Option.none)
      (expenses : c'.expenses = c.expenses.put e.id e)
      (settlements : c'.settlements = c.settlements) (none : closing = [])
  | revised (old e : Expense) (found : c.expenses.get? e.id = some old)
      (wasOpen : old.settled = false) (isOpen : e.settled = false)
      (group : e.groupId = old.groupId) (since : e.createdAt = old.createdAt)
      (expenses : c'.expenses = c.expenses.put e.id e)
      (settlements : c'.settlements = c.settlements) (none : closing = [])
  | removed (old : Expense) (found : c.expenses.get? old.id = some old)
      (wasOpen : old.settled = false) (expenses : c'.expenses = c.expenses.erase old.id)
      (settlements : c'.settlements = c.settlements) (none : closing = [])
  | closed (s : Settlement) (es : List Expense) (at_ : time = some s.finish)
      (closes : c.Closes s es) (new : c.settlements.get? s.id = Option.none)
      (expenses : c'.expenses = (c.closed s es).expenses)
      (settlements : c'.settlements = (c.closed s es).settlements) (one : closing = [s])

/-- The expenses that are read as open are closed by the settlement that is made of them. -/
lemma closes_of_read {m : Memory} (hm : m.contents.Orderly) {group : Id} {es : List Expense}
    {last : Option Settlement} (open_ : m.view.unsettled group = .ok (some es))
    (latest : m.view.lastSettlement group = .ok (some last)) {s : Settlement}
    (group_ : s.groupId = group) (start : s.start = last.map (·.finish))
    (listed : s.expenseIds = es.map (·.id)) : m.contents.Closes s es where
  listed := listed
  open_ e := by rw [group_, mem_of_view_unsettled open_]
  distinct := hm.nodup_unsettled open_
  start := by
    have read := ((reading_eq_ok_iff ..).mp latest).2
    rw [Option.ite_none_right_eq_some] at read
    rw [start, group_, Option.some.inj read.2]

/-- What is written about a hash concerns no expense and no settlement. -/
lemma quiet_credentialWrites (c : Contents) (email : String) (hash : Option String) :
    (c.writeAll (Command.credentialWrites email hash)).expenses = c.expenses ∧
      (c.writeAll (Command.credentialWrites email hash)).settlements = c.settlements ∧
      (Command.credentialWrites email hash).filterMap Write.saved? = [] := by
  rcases Command.credentialWrites_cases email hash with h | ⟨x, h⟩ <;> rw [h] <;>
    exact ⟨rfl, rfl, rfl⟩

lemma filterMap_saved?_saveExpense (es : List Expense) :
    (es.map Write.saveExpense).filterMap Write.saved? = [] := by
  rw [List.filterMap_map, List.filterMap_eq_nil_iff]
  exact fun _ _ => rfl

/-- **What the plan of a command does to expenses and settlements.** -/
theorem Command.Planned.turn {m : Memory} (hm : m.contents.Orderly) {o : Occasion} {c : Command}
    {p : Plan} (h : Command.Planned m.view o c p)
    (fresh : ∀ n < p.drawn, m.contents.Unused (o.ids n)) :
    Turn m.contents (m.contents.writeAll p.writes) (some o.now) p.settlements := by
  cases h with
  | @register name email hash u created new =>
    have hc := quiet_credentialWrites (m.contents.write (.saveUser u)) u.email hash
    exact .quiet hc.1 hc.2.1 hc.2.2
  | createExpense loaded member created =>
    obtain ⟨t, a, -, -, rfl⟩ := (Expense.create_eq_ok_iff ..).mp created
    exact .entered _ rfl rfl (fresh 0 Nat.two_pos).2.2.1 rfl rfl rfl
  | @updateExpense user group expense title amount g old t a loaded found editable titled priced =>
    have hold := ((view_expense_eq_ok_iff ..).mp found).2
    have found : m.contents.expenses.get? old.id = some old := (hm.expense_id hold).symm ▸ hold
    exact .revised old { old with title := t, amount := a, modifiedAt := some o.now } found
      editable.unsettled editable.unsettled rfl rfl rfl rfl rfl
  | @deleteExpense user group expense g old loaded found editable =>
    have hold := ((view_expense_eq_ok_iff ..).mp found).2
    exact .removed old ((hm.expense_id hold).symm ▸ hold) editable.unsettled rfl rfl rfl
  | @settle user group g es last ts loaded open_ latest admin balanced =>
    have hg := ((view_group_eq_ok_iff ..).mp loaded).2
    have hw := Contents.writeAll_map_saveExpense
    refine .closed ⟨o.ids 0, g.id, last.map (·.finish), o.now, ts, es.map (·.id)⟩ es rfl
      (closes_of_read hm open_ latest (hm.group_id hg) rfl rfl) (fresh 0 Nat.two_pos).2.2.2.1
      ?_ ?_ ?_
    · simp only [Contents.writeAll_cons, hw]
      rfl
    · simp only [Contents.writeAll_cons, hw]
      rfl
    · exact congrArg (List.cons _) (filterMap_saved?_saveExpense _)
  | _ => exact .quiet rfl rfl rfl

/-! ## Moves -/

namespace World

variable {w : World Memory}

/-- Every move takes one of the turns. -/
lemma turn (ho : w.store.contents.Orderly) {m : Move} (fresh : w.FreshAt m) :
    Turn w.store.contents (w.move m).store.contents m.time? (w.closing m) := by
  cases m with
  | ask o q => exact .quiet (by rw [contents_ask]) (by rw [contents_ask]) rfl
  | switch r off => exact .quiet (by rw [contents_switch]) (by rw [contents_switch]) rfl
  | call o c =>
    cases h : w.store.accepted? o c with
    | none =>
      have hc := contents_move_of_not_accepted h
      exact .quiet (by rw [hc]) (by rw [hc]) (by simp [closing, h])
    | some p =>
      obtain ⟨e, devices, hp, -, -, hc⟩ := contents_move_of_accepted h
      have hone : w.closing (.call o c) = p.settlements := by simp [closing, h]
      rw [hc, hone]
      cases hp.turn ho (fresh p h) with
      | quiet expenses settlements none => exact .quiet expenses settlements none
      | entered x at_ isOpen new expenses settlements none =>
        exact .entered x at_ isOpen new expenses settlements none
      | revised old x found wasOpen isOpen group since expenses settlements none =>
        exact .revised old x found wasOpen isOpen group since expenses settlements none
      | removed old found wasOpen expenses settlements none =>
        exact .removed old found wasOpen expenses settlements none
      | closed s es at_ closes new expenses settlements one =>
        exact .closed s es at_ closes new expenses settlements one

end World

namespace Turn

variable {c c' : Contents} {time : Option Timestamp} {closing : List Settlement}

/-- A turn keeps expenses and settlements fitting together, when it is not made before what is
stored. -/
lemma settling (h : Turn c c' time closing) (ho : c.Orderly) (hs : c.Settling)
    (past : ∀ t, time = some t → c.Past t.instant)
    (universal : ∀ t, time = some t → t.offset = some 0) : c'.Settling := by
  cases h with
  | quiet expenses settlements none => exact hs.congr expenses settlements
  | entered e at_ isOpen new expenses settlements none =>
    exact (hs.enter (past _ at_) isOpen new).congr expenses settlements
  | revised old e found wasOpen isOpen group since expenses settlements none =>
    exact (hs.revise found wasOpen isOpen group since).congr expenses settlements
  | removed old found wasOpen expenses settlements none =>
    exact (hs.remove found wasOpen).congr expenses settlements
  | closed s es at_ closes new expenses settlements one =>
    exact (hs.close ho closes (past _ at_) (universal _ at_) new).congr expenses settlements

/-- After a turn nothing is stored that comes after an instant, if that was so before and the turn
is not made after it. -/
lemma past (h : Turn c c' time closing) (ho : c.Orderly) {t : Int} (hp : c.Past t)
    (at_ : ∀ u, time = some u → u.instant ≤ t) : c'.Past t := by
  have put : ∀ e : Expense, e.createdAt.instant ≤ t → ∀ i x,
      (c.expenses.put e.id e).get? i = some x → x.createdAt.instant ≤ t := by
    intro e he i x hx
    rw [Table.get?_put] at hx
    split at hx
    · cases hx
      exact he
    · exact hp.expenses i x hx
  cases h with
  | quiet expenses settlements none =>
    exact ⟨settlements ▸ hp.settlements, expenses ▸ hp.expenses⟩
  | entered e now isOpen new expenses settlements none =>
    exact ⟨settlements ▸ hp.settlements, expenses ▸ put e (at_ _ now)⟩
  | revised old e found wasOpen isOpen group since expenses settlements none =>
    exact ⟨settlements ▸ hp.settlements,
      expenses ▸ put e (since ▸ hp.expenses e.id old found)⟩
  | removed old found wasOpen expenses settlements none =>
    refine ⟨settlements ▸ hp.settlements, fun i x hx => ?_⟩
    rw [expenses, Table.get?_erase] at hx
    split at hx
    · cases hx
    · exact hp.expenses i x hx
  | closed s es now closes new expenses settlements one =>
    refine ⟨fun u hu => ?_, fun i x hx => ?_⟩
    · rw [settlements] at hu
      rcases List.mem_append.mp (Table.values_put_of_absent s new ▸ hu) with hu | hu
      · exact hp.settlements u hu
      · exact List.mem_singleton.mp hu ▸ at_ _ now
    · rw [expenses, closes.get?_closed ho] at hx
      split at hx
      · obtain ⟨y, hy, rfl⟩ := Option.map_eq_some_iff.mp hx
        exact hp.expenses i y hy
      · exact hp.expenses i x hx

/-- The settlements that a turn commits go to the end. -/
lemma values (h : Turn c c' time closing) :
    c'.settlements.values = c.settlements.values ++ closing := by
  cases h with
  | closed s es at_ closes new expenses settlements one =>
    rw [settlements, one]
    exact Table.values_put_of_absent s new
  | _ => simp_all

/-- A turn leaves settled expenses as they are. -/
lemma keeps (h : Turn c c' time closing) (ho : c.Orderly) {i : Id} {e : Expense}
    (he : c.expenses.get? i = some e) (hs : e.settled = true) :
    c'.expenses.get? i = some e := by
  have clash : ∀ x, c.expenses.get? i = some x → x.settled ≠ false := by
    intro x hx hopen
    obtain rfl : e = x := Option.some.inj (he.symm.trans hx)
    rw [hs] at hopen
    cases hopen
  cases h with
  | quiet expenses settlements none => rw [expenses, he]
  | entered x at_ isOpen new expenses settlements none =>
    have hne : x.id ≠ i := by
      rintro rfl
      rw [new] at he
      cases he
    rw [expenses, Table.get?_put, if_neg hne, he]
  | revised old x found wasOpen isOpen group since expenses settlements none =>
    have hne : x.id ≠ i := by
      rintro rfl
      exact clash old found wasOpen
    rw [expenses, Table.get?_put, if_neg hne, he]
  | removed old found wasOpen expenses settlements none =>
    have hne : old.id ≠ i := by
      rintro rfl
      exact clash old found wasOpen
    rw [expenses, Table.get?_erase, if_neg hne, he]
  | closed s es at_ closes new expenses settlements one =>
    have hi : i ∉ s.expenseIds := by
      intro hi
      obtain ⟨x, -, -, hx, -, hopen⟩ := closes.get?_of_mem ho hi
      exact clash x hx hopen
    rw [expenses, closes.get?_closed ho, if_neg hi, he]

/-- What a turn settles was open, and apart from being settled it stays as it was. -/
lemma settles (h : Turn c c' time closing) (ho : c.Orderly) {s : Settlement}
    (hs : s ∈ closing) {i : Id} (hi : i ∈ s.expenseIds) :
    ∃ e, c.expenses.get? i = some e ∧ e.settled = false ∧
      c'.expenses.get? i = some e.settle := by
  cases h with
  | closed t es at_ closes new expenses settlements one =>
    obtain rfl := List.mem_singleton.mp (one ▸ hs)
    obtain ⟨e, -, -, he, -, hopen⟩ := closes.get?_of_mem ho hi
    exact ⟨e, he, hopen, by rw [expenses, closes.get?_closed ho, if_pos hi, he]; rfl⟩
  | _ => simp_all

end Turn

/-! ## Runs -/

namespace World

/-- Nothing is stored that comes after the time of one of the moves. -/
def Before (w : World Memory) (ms : List Move) : Prop :=
  ∀ t ∈ ms.filterMap Move.time?, w.store.contents.Past t.instant

lemma Forward.tail {m : Move} {ms : List Move} (h : Forward (m :: ms)) : Forward ms := by
  have hsub : (ms.filterMap Move.time?).Sublist ((m :: ms).filterMap Move.time?) :=
    (List.sublist_cons_self m ms).filterMap _
  exact ⟨fun t ht => h.universal t (hsub.subset ht), h.ordered.sublist hsub⟩

variable {w : World Memory} {m : Move} {ms : List Move}

/-- One move of a run. -/
lemma settling_move (ho : w.store.contents.Orderly) (hs : w.store.contents.Settling)
    (clock : Forward (m :: ms)) (before : w.Before (m :: ms)) (fresh : w.FreshAt m) :
    (w.move m).store.contents.Settling ∧ (w.move m).Before ms := by
  have hturn := turn ho fresh
  have now : ∀ t, m.time? = some t → t ∈ (m :: ms).filterMap Move.time? := by
    intro t ht
    rw [List.filterMap_cons, ht]
    exact List.mem_cons_self
  refine ⟨hturn.settling ho hs (fun t ht => before t (now t ht))
    (fun t ht => clock.universal t (now t ht)), fun t ht => ?_⟩
  have later : t ∈ (m :: ms).filterMap Move.time? :=
    ((List.sublist_cons_self m ms).filterMap Move.time?).subset ht
  refine hturn.past ho (before t later) fun u hu => ?_
  have ordered := clock.ordered
  rw [List.filterMap_cons, hu] at ordered
  exact (List.pairwise_cons.mp ordered).1 t ht

/-- **Expenses and settlements fit together after every run**, and the settlements are stored in the
order of their commits. -/
theorem settling_run (ho : w.store.contents.Orderly) (hs : w.store.contents.Settling)
    (clock : Forward ms) (before : w.Before ms) (fresh : w.Fresh ms) :
    (w.run ms).store.contents.Settling ∧
      (w.run ms).store.contents.settlements.values =
        w.store.contents.settlements.values ++ w.closings ms := by
  induction ms generalizing w with
  | nil => exact ⟨hs, (List.append_nil _).symm⟩
  | cons m ms ih =>
    have hstep := settling_move ho hs clock before fresh.1
    obtain ⟨hrun, hvalues⟩ := ih (orderly_move ho m) hstep.1 clock.tail hstep.2 fresh.2
    refine ⟨hrun, ?_⟩
    rw [run_cons, hvalues, (turn ho fresh.1).values, closings, List.append_assoc]

/-- A run leaves settled expenses as they are. -/
lemma keeps_run (ho : w.store.contents.Orderly) (fresh : w.Fresh ms) {i : Id} {e : Expense}
    (he : w.store.contents.expenses.get? i = some e) (hs : e.settled = true) :
    (w.run ms).store.contents.expenses.get? i = some e := by
  induction ms generalizing w with
  | nil => exact he
  | cons m ms ih => exact ih (orderly_move ho m) fresh.2 ((turn ho fresh.1).keeps ho he hs)

/-- What is wanted of the settlements of a run: they are stored in the order of their commits, and
those of a group follow one another without a gap; no expense is listed twice; exactly the settled
expenses are listed, by a settlement of their own group; and what a settlement lists was open when
it was made, is still stored just as it was then, but settled, and falls into the time of the
settlement. -/
structure WellSettled (w : World Memory) (ms : List Move) : Prop where
  stored : (w.run ms).store.contents.settlements.values = w.closings ms
  linked : ∀ g, Settlement.Linked none ((w.closings ms).filter fun s => s.groupId = g)
  once : ((w.closings ms).flatMap (·.expenseIds)).Nodup
  settled : ∀ i e, (w.run ms).store.contents.expenses.get? i = some e →
    (e.settled = true ↔ ∃ s ∈ w.closings ms, s.groupId = e.groupId ∧ i ∈ s.expenseIds)
  kept : ∀ before m after, ms = before ++ m :: after →
    ∀ s ∈ (w.run before).closing m, ∀ i ∈ s.expenseIds,
      ∃ e, (w.run before).store.contents.expenses.get? i = some e ∧ e.settled = false ∧
        (w.run ms).store.contents.expenses.get? i = some e.settle ∧ s.Covers e

lemma closings_append (w : World Memory) (ms ns : List Move) :
    w.closings (ms ++ ns) = w.closings ms ++ (w.run ms).closings ns := by
  induction ms generalizing w with
  | nil => rfl
  | cons m ms ih =>
    rw [List.cons_append, closings, closings, ih, List.append_assoc, run_cons]

/-- **Settlements form a chain, and what is settled is settled once and stays.** A run of calls, of
any length, begins with an empty store in which anything is switched off; calls may fail, and
collections are switched off and on in between. The clock does not go back, and nothing is stored
under the identifiers that are drawn.

**Proof sketch.** Each move takes one of few turns (`turn`), and each turn keeps expenses and
settlements fitting together (`Turn.settling`) and leaves settled expenses alone (`Turn.keeps`).
What is listed was open at the move that committed its settlement (`Turn.settles`), and has been
left alone since. -/
theorem wellSettled_run (w : World Memory) (crashed : List Repository) (ms : List Move)
    (clock : Forward ms) (fresh : (w.withStore (.empty crashed)).Fresh ms) :
    (w.withStore (.empty crashed)).WellSettled ms := by
  have ho : (w.withStore (.empty crashed)).store.contents.Orderly := Contents.orderly_empty
  obtain ⟨settling, values⟩ := settling_run ho Contents.settling_empty clock
    (fun t _ => Contents.past_empty _) fresh
  rw [show (w.withStore (.empty crashed)).store.contents.settlements.values = [] from rfl,
    List.nil_append] at values
  constructor
  case stored => exact values
  case linked =>
    rw [← values]
    exact settling.linked
  case once =>
    rw [← values]
    exact settling.once
  case settled =>
    rw [← values]
    exact settling.settled
  case kept =>
    rintro before m after rfl s hs i hi
    obtain ⟨-, hfresh, hafter⟩ := (fresh_append ..).mp fresh
    have horderly := orderly_run ho before
    obtain ⟨e, he, hopen, hsettled⟩ := (turn horderly hfresh).settles horderly hs hi
    have hlast : ((w.withStore (.empty crashed)).run
        (before ++ m :: after)).store.contents.expenses.get? i = some e.settle := by
      rw [run_append, run_cons]
      exact keeps_run (orderly_move horderly m) hafter hsettled rfl
    have hmem : s ∈ (w.withStore (.empty crashed)).closings (before ++ m :: after) := by
      rw [closings_append, closings]
      exact List.mem_append_right _ (List.mem_append_left _ hs)
    obtain ⟨x, hx, -, hcov⟩ := settling.covered s (values ▸ hmem) i hi
    obtain rfl : x = e.settle := Option.some.inj (hx.symm.trans hlast)
    exact ⟨e, he, hopen, hlast, hcov.start, hcov.finish⟩

/-! ## A run -/

instance (w : World Memory) : (m : Move) → Decidable (w.FreshAt m)
  | .call o c => inferInstanceAs (Decidable
      (∀ p ∈ w.store.accepted? o c, ∀ n < p.drawn, w.store.contents.Unused (o.ids n)))
  | .ask _ _ => isTrue trivial
  | .switch _ _ => isTrue trivial

instance decidableFresh (w : World Memory) : (ms : List Move) → Decidable (w.Fresh ms)
  | [] => isTrue trivial
  | m :: ms => @instDecidableAnd _ _ _ ((w.move m).decidableFresh ms)

/-- The call with a number: every call draws identifiers of its own, and the clock stops at the
fifth one. -/
def sampleCall (k : Nat) (c : Command) : Move :=
  .call ⟨.utc (min k 5 * Timestamp.second), fun n => .ofNat (16 * k + n)⟩ c

/-- Somebody registers, founds a group and enters two expenses. The group is settled, and after the
next expense it is settled again; in between an attempt is made to change what has been settled. -/
def sampleMoves : List Move :=
  [sampleCall 1 (.register (some "Ada") (some "ada@mail.org") none),
    sampleCall 2 (.createGroup (.ofNat 16) "Trip" none),
    sampleCall 3 (.createExpense (.ofNat 16) (.ofNat 32) "Boat" "30"),
    sampleCall 4 (.createExpense (.ofNat 16) (.ofNat 32) "Tent" "10"),
    sampleCall 5 (.settle (.ofNat 16) (.ofNat 32)),
    sampleCall 6 (.updateExpense (.ofNat 16) (.ofNat 32) (.ofNat 48) "Ferry" "40"),
    sampleCall 7 (.createExpense (.ofNat 16) (.ofNat 32) "Fuel" "20"),
    sampleCall 8 (.settle (.ofNat 16) (.ofNat 32))]

/-- A world with a queue that takes everything. -/
def sampleWorld : World Memory :=
  ⟨.empty [], .queue [] none, default, ⟨.utc 0, .ofNat⟩, []⟩

/-- The run `sampleMoves` is well settled. -/
theorem wellSettled_sampleMoves :
    Forward sampleMoves ∧ (sampleWorld.withStore (.empty [])).Fresh sampleMoves ∧
      (sampleWorld.withStore (.empty [])).WellSettled sampleMoves :=
  have clock : Forward sampleMoves := ⟨by decide, by decide⟩
  have fresh : (sampleWorld.withStore (.empty [])).Fresh sampleMoves := by decide
  ⟨clock, fresh, wellSettled_run sampleWorld [] sampleMoves clock fresh⟩

/-- The second settlement of `sampleMoves` starts where the first one ends, also when both end at
the same time. -/
example : ((sampleWorld.withStore (.empty [])).closings sampleMoves).map
    (fun s => (s.start, s.finish, s.expenseIds)) =
      [(none, .utc 5000000, [.ofNat 48, .ofNat 64]),
        (some (.utc 5000000), .utc 5000000, [.ofNat 112])] := by
  decide

end World

end CommonPurse
