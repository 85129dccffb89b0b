import CommonPurse.Proofs.History.Run

/-!
# The log is a complete account

Replaying the events of a run, one after the other and from nothing, gives the accounts, the groups
with their members and colours, and the expenses that the store has come to hold. Replay knows the
events only; it is written without a look at how commands are carried out.

## Main definitions

* `CommonPurse.Ledger` — accounts, groups and expenses as events tell of them.
* `CommonPurse.Ledger.apply`, `CommonPurse.Ledger.replay` — what events make of a ledger.
* `CommonPurse.Ledger.ofContents` — the ledger of what is stored.

## Main results

* `CommonPurse.Ledger.ofContents_writeAll` — what a command writes is what its event says.
* `CommonPurse.World.replay_history` — replaying the history of a run gives what is stored.
-/

namespace CommonPurse

open CommonPurse.Store

/-! ## Ledgers -/

/-- An account in a ledger. -/
structure AccountEntry where
  name : String
  email : String
  deriving DecidableEq

/-- A member of a group in a ledger. -/
structure MemberEntry where
  id : Id
  name : String
  email : String
  isAdmin : Bool
  color : Color
  deriving DecidableEq

/-- A group in a ledger. -/
structure GroupEntry where
  name : String
  admin : Id
  members : List MemberEntry
  deriving DecidableEq

/-- An expense in a ledger. -/
structure ExpenseEntry where
  group : Id
  member : Id
  title : String
  amount : Decimal
  date : Timestamp
  settled : Bool
  deriving DecidableEq

/-- Accounts, groups and expenses as events tell of them. -/
structure Ledger where
  accounts : Table Id AccountEntry
  groups : Table Id GroupEntry
  expenses : Table Id ExpenseEntry
  deriving DecidableEq

namespace Ledger

/-- A ledger without entries. -/
def empty : Ledger := ⟨.empty, .empty, .empty⟩

/-! ## Replay -/

/-- Change the value of a key, if it has one. -/
def modify {α : Type} (t : Table Id α) (k : Id) (f : α → α) : Table Id α :=
  match t.get? k with
  | some a => t.put k (f a)
  | none => t

/-- The holder of an account as a member of a group; nobody when there is no account. -/
def memberOf (l : Ledger) (user : Id) (isAdmin : Bool) (color : Color) : List MemberEntry :=
  (l.accounts.get? user).toList.map fun a => ⟨user, a.name, a.email, isAdmin, color⟩

/-- A member with another colour, if it is the one with an identifier. -/
def MemberEntry.recolor (user : Id) (color : Color) (m : MemberEntry) : MemberEntry :=
  if m.id = user then { m with color := color } else m

/-- An expense is settled if it belongs to a group. -/
def ExpenseEntry.close (group : Id) (x : ExpenseEntry) : ExpenseEntry :=
  if x.group = group then { x with settled := true } else x

/-- What an action inside a group makes of a ledger. -/
def applyAction (l : Ledger) (group member : Id) : GroupAction → Ledger
  | .created name color =>
    { l with groups := l.groups.put group ⟨name, member, l.memberOf member true color⟩ }
  | .joined color =>
    { l with groups := modify l.groups group fun g =>
        { g with members := g.members ++ l.memberOf member false color } }
  | .colorChanged _ color =>
    { l with groups := modify l.groups group fun g =>
        { g with members := g.members.map (MemberEntry.recolor member color) } }
  | .expenseCreated id description amount date =>
    { l with expenses := l.expenses.put id ⟨group, member, description, amount, date, false⟩ }
  | .expenseModified id _ description _ amount =>
    { l with expenses := modify l.expenses id fun x =>
        { x with title := description, amount := amount } }
  | .expenseDeleted id => { l with expenses := l.expenses.erase id }
  | .settled _ _ _ _ => { l with expenses := l.expenses.map (ExpenseEntry.close group) }
  | .deleted => { l with groups := l.groups.erase group }

/-- What an event makes of a ledger. -/
def apply (l : Ledger) (e : Event) : Ledger :=
  match e.subject with
  | .account user (.created name email) => { l with accounts := l.accounts.put user ⟨name, email⟩ }
  | .account user .deleted => { l with accounts := l.accounts.erase user }
  | .account _ .loggedIn => l
  | .account _ .loggedOut => l
  | .group group member action => l.applyAction group member action

/-- What events make of a ledger, one after the other. -/
def replay (l : Ledger) (events : List Event) : Ledger := events.foldl apply l

lemma replay_append (l : Ledger) (xs ys : List Event) :
    l.replay (xs ++ ys) = (l.replay xs).replay ys :=
  List.foldl_append

/-! ## The ledger of what is stored -/

/-- The entry of an account. -/
def ofUser (u : User) : AccountEntry := ⟨u.name, u.email⟩

/-- The entry of a member. -/
def ofMember (m : Member) : MemberEntry := ⟨m.id, m.name, m.email, m.isAdmin, m.color⟩

/-- The entry of a group. -/
def ofGroup (g : Group) : GroupEntry := ⟨g.name, g.adminId, g.members.map ofMember⟩

/-- The entry of an expense. -/
def ofExpense (e : Expense) : ExpenseEntry :=
  ⟨e.groupId, e.memberId, e.title, e.amount, e.createdAt, e.settled⟩

/-- The ledger of what is stored. -/
def ofContents (c : Memory.Contents) : Ledger :=
  ⟨c.users.map ofUser, c.groups.map ofGroup, c.expenses.map ofExpense⟩

/-! ## Commands write what their events say -/

lemma modify_eq_put {α : Type} {t : Table Id α} {k : Id} {a : α} (h : t.get? k = some a)
    (f : α → α) : modify t k f = t.put k (f a) := by
  rw [modify, h]

/-- A user who is stored is found in the ledger with name and address. -/
lemma memberOf_ofContents {c : Memory.Contents} {u : User} (h : c.users.get? u.id = some u)
    (group : Id) (isAdmin : Bool) (color : Color) (now : Timestamp) :
    (ofContents c).memberOf u.id isAdmin color =
      [ofMember (.ofUser group u isAdmin color now)] := by
  simp [memberOf, ofContents, h, ofUser, ofMember, Member.ofUser]

/-- The open expenses of a group are settled by putting them back settled.

**Proof sketch.** Every expense of the group that is not put back is settled already, so the
change leaves it alone. -/
lemma settle_openExpenses {m : Memory} (hm : m.contents.Orderly) {group : Id} {es : List Expense}
    (hes : m.view.unsettled group = .ok (some es)) :
    (m.contents.expenses.putAll (·.id) (es.map (·.settle))).map ofExpense =
      (m.contents.expenses.map ofExpense).map (ExpenseEntry.close group) := by
  let f : Expense → Expense := fun e => if e.groupId = group then e.settle else e
  have hmem := Memory.mem_of_view_unsettled hes
  have hfes : es.map (·.settle) = es.map f :=
    List.map_congr_left fun e he => by simp only [f, if_pos ((hmem e).mp he).2.1]
  have hf : ∀ e : Expense, (f e).id = e.id := by
    intro e
    simp only [f]
    split <;> rfl
  have hout : ∀ e ∈ m.contents.expenses.values, e ∉ es → f e = e := by
    intro e he hne
    simp only [f]
    split
    · next hg =>
      have hs : e.settled = true := by
        by_contra hs
        exact hne ((hmem e).mpr ⟨he, hg, by simpa using hs⟩)
      rw [Expense.settle, ← hs]
    · rfl
  rw [hfes, Table.putAll_map_eq_map hm.expenses hm.expenseKeys hf
    (fun e he => ((hmem e).mp he).1) hout, Table.map_map, Table.map_map]
  congr 1
  funext e
  by_cases hg : e.groupId = group
  · simp [f, hg, ofExpense, ExpenseEntry.close, Expense.settle]
  · simp [f, hg, ofExpense, ExpenseEntry.close]

/-- What is written about a hash does not show in the ledger. -/
lemma ofContents_credentialWrites (c : Memory.Contents) (email : String) (hash : Option String) :
    ofContents (c.writeAll (Command.credentialWrites email hash)) = ofContents c := by
  rcases Command.credentialWrites_cases email hash with h | ⟨x, h⟩ <;> rw [h] <;> rfl

/-- **What a command writes is what its event says.**

**Proof sketch.** One case for each kind of command. What the event does not repeat, such as the
name of a new member, is found in the ledger because the contents are in order. -/
theorem ofContents_writeAll {m : Memory} (hm : m.contents.Orderly) {o : Occasion} {c : Command}
    {p : Plan} {e : Event} (hp : Command.Planned m.view o c p) (he : p.events = [e]) :
    ofContents (m.contents.writeAll p.writes) = (ofContents m.contents).apply e := by
  cases hp with
  | @register name email hash u created new =>
    obtain rfl := (List.singleton_inj.mp he).symm
    rw [Memory.Contents.writeAll_cons, ofContents_credentialWrites]
    simp only [ofContents, Memory.Contents.write, Table.map_put]
    rfl
  | login valid credential found same =>
    obtain rfl := (List.singleton_inj.mp he).symm
    rfl
  | logout found =>
    obtain rfl := (List.singleton_inj.mp he).symm
    rfl
  | deleteUser found =>
    obtain rfl := (List.singleton_inj.mp he).symm
    simp only [Memory.Contents.writeAll_cons, Memory.Contents.writeAll_nil, ofContents,
      Memory.Contents.write, Table.map_erase]
    rfl
  | @createGroup user name color picked u n hc found named =>
    obtain rfl := (List.singleton_inj.mp he).symm
    have hu := ((Memory.view_user_eq_ok_iff ..).mp found).2
    have hid := hm.user_id hu
    have hmember := memberOf_ofContents (hid.symm ▸ hu) (o.ids 0) true picked o.now
    simp only [apply, applyAction, hmember]
    simp only [Memory.Contents.writeAll_cons, Memory.Contents.writeAll_nil, ofContents,
      Memory.Contents.write, Table.map_put]
    rfl
  | @joinGroup user group color c u g hc found loaded outside =>
    obtain rfl := (List.singleton_inj.mp he).symm
    have hu := ((Memory.view_user_eq_ok_iff ..).mp found).2
    have hg := ((Memory.view_group_eq_ok_iff ..).mp loaded).2
    have hmember := memberOf_ofContents ((hm.user_id hu).symm ▸ hu) g.id false c o.now
    have hget : (ofContents m.contents).groups.get? g.id = some (ofGroup g) := by
      simp [ofContents, hm.group_id hg, hg]
    simp only [apply, applyAction, hmember, modify_eq_put hget]
    simp only [Memory.Contents.writeAll_cons, Memory.Contents.writeAll_nil, ofContents,
      Memory.Contents.write, Table.map_put]
    simp [Group.withMember, ofGroup]
  | @changeColor user group color c g x hc loaded member =>
    obtain rfl := (List.singleton_inj.mp he).symm
    have hg := ((Memory.view_group_eq_ok_iff ..).mp loaded).2
    have hget : (ofContents m.contents).groups.get? g.id = some (ofGroup g) := by
      simp [ofContents, hm.group_id hg, hg]
    have hmembers : (g.withColor user c).members.map ofMember =
        (g.members.map ofMember).map (MemberEntry.recolor user c) := by
      rw [Group.withColor, Group.setColor_eq_map user c (hm.members_nodup hg), List.map_map,
        List.map_map]
      refine List.map_congr_left fun x _ => ?_
      by_cases hx : x.id = user <;> simp [ofMember, MemberEntry.recolor, hx]
    simp only [apply, applyAction, modify_eq_put hget]
    simp only [Memory.Contents.writeAll_cons, Memory.Contents.writeAll_nil, ofContents,
      Memory.Contents.write, Table.map_put]
    rw [ofGroup, hmembers]
    rfl
  | @createExpense user group title amount g x loaded member created =>
    obtain rfl := (List.singleton_inj.mp he).symm
    obtain ⟨t, a, -, -, rfl⟩ := (Expense.create_eq_ok_iff ..).mp created
    simp only [Memory.Contents.writeAll_cons, Memory.Contents.writeAll_nil, ofContents,
      Memory.Contents.write, Table.map_put]
    rfl
  | @updateExpense user group expense title amount g old t a loaded found editable titled priced =>
    obtain rfl := (List.singleton_inj.mp he).symm
    have hold := ((Memory.view_expense_eq_ok_iff ..).mp found).2
    have hget : (ofContents m.contents).expenses.get? old.id = some (ofExpense old) := by
      simp [ofContents, hm.expense_id hold, hold]
    simp only [apply, applyAction, modify_eq_put hget]
    simp only [Memory.Contents.writeAll_cons, Memory.Contents.writeAll_nil, ofContents,
      Memory.Contents.write, Table.map_put]
    rfl
  | deleteExpense loaded found editable =>
    obtain rfl := (List.singleton_inj.mp he).symm
    simp only [Memory.Contents.writeAll_cons, Memory.Contents.writeAll_nil, ofContents,
      Memory.Contents.write, Table.map_erase]
    rfl
  | @settle user group g es last ts loaded open_ latest admin balanced =>
    obtain rfl := (List.singleton_inj.mp he).symm
    have hg := ((Memory.view_group_eq_ok_iff ..).mp loaded).2
    rw [Memory.Contents.writeAll_cons, Memory.Contents.writeAll_map_saveExpense]
    simp only [ofContents, Memory.Contents.write, settle_openExpenses hm open_, apply, applyAction,
      hm.group_id hg]
  | @deleteGroup user group g loaded admin =>
    obtain rfl := (List.singleton_inj.mp he).symm
    have hg := ((Memory.view_group_eq_ok_iff ..).mp loaded).2
    simp only [Memory.Contents.writeAll_cons, Memory.Contents.writeAll_nil, ofContents,
      Memory.Contents.write, Table.map_erase, apply, applyAction, hm.group_id hg]

end Ledger

/-! ## Runs -/

namespace World

/-- Replaying what a move commits follows the move. -/
lemma replay_recorded {w : World Memory} (h : w.store.contents.Orderly) (m : Move) :
    (Ledger.ofContents w.store.contents).replay (w.recorded m) =
      Ledger.ofContents (w.move m).store.contents := by
  rcases w.move_cases m with ⟨hr, hc⟩ | ⟨o, c, p, e, devices, hp, he, -, hr, hc⟩
  · rw [hr, hc]
    rfl
  · have hstep := Ledger.ofContents_writeAll h hp he
    rw [hr, hc]
    exact hstep.symm

/-- Replaying the history of a run follows the run. -/
lemma replay_history_of_orderly {w : World Memory} (h : w.store.contents.Orderly)
    (ms : List Move) :
    (Ledger.ofContents w.store.contents).replay (w.history ms) =
      Ledger.ofContents (w.run ms).store.contents := by
  induction ms generalizing w with
  | nil => rfl
  | cons m ms ih =>
    rw [history, Ledger.replay_append, replay_recorded h, ih (orderly_move h m), run_cons]

/-- **The log is a complete account.** A run of calls, of any length, begins with an empty store in
which anything is switched off; commands and queries have any arguments and may fail, and
collections are switched off and on in between. Then the log holds the records of the history of
the run in the order of the commits, each identifier once, and replaying the history from nothing
gives the accounts, groups, members, colours and expenses that are stored.

**Proof sketch.** Induction on the run. One move commits the plan of a command or nothing
(`move_cases`), and what a command writes is what its event says (`Ledger.ofContents_writeAll`) as
long as the contents are in order, which moves keep. -/
theorem replay_history (w : World Memory) (crashed : List Repository) (ms : List Move) :
    let start := w.withStore (.empty crashed)
    (start.run ms).store.contents.events.rows =
        (start.history ms).map (fun e => (e.id, ⟨e.occurredAt, e.encode, none⟩)) ∧
      ((start.history ms).map (·.id)).Nodup ∧
      Ledger.empty.replay (start.history ms) = .ofContents (start.run ms).store.contents := by
  intro start
  have horderly : start.store.contents.Orderly := Memory.Contents.orderly_empty
  have hrows := start.rows_run ms
  have hids : (start.run ms).store.contents.events.keys = (start.history ms).map (·.id) := by
    rw [Table.keys, hrows, List.map_append, List.map_map]
    rfl
  refine ⟨hrows, ?_, replay_history_of_orderly horderly ms⟩
  rw [← hids]
  exact distinct_run Table.distinct_empty ms

end World

end CommonPurse
