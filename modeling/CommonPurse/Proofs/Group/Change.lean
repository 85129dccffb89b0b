import CommonPurse.Group
import Mathlib.Tactic.Lemma

/-!
# Changes to a group

When a change to a group is accepted, and what it leads to: the group afterwards, the event that
is recorded, and the answer. Every accepted change records exactly one event.

## Main definitions

* `CommonPurse.Member.ofUser` — a user as a member.
* `CommonPurse.Group.withMember`, `CommonPurse.Group.withColor` — a group with one more member, or
  with another colour for one of them.
* `CommonPurse.OpenGroup.Editable` — an expense that somebody may change.

## Main results

* `CommonPurse.OpenGroup.addMember_eq_ok_iff`, `changeColor_eq_ok_iff`, `addExpense_eq_ok_iff`,
  `updateExpense_eq_ok_iff`, `deleteExpense_eq_ok_iff`, `settle_eq_ok_iff`, `delete_eq_ok_iff` — the
  accepted changes.
-/

namespace CommonPurse

/-- A user as a member of a group. -/
def Member.ofUser (group : Id) (u : User) (isAdmin : Bool) (color : Color) (now : Timestamp) :
    Member :=
  ⟨u.id, group, u.name, u.email, isAdmin, color, now⟩

namespace Group

/-- A group with one more member. -/
def withMember (g : Group) (m : Member) : Group := { g with members := g.members ++ [m] }

/-- A group with another colour for one of its members. -/
def withColor (g : Group) (user : Id) (color : Color) : Group :=
  { g with members := setColor user color g.members }

lemma requireMember_eq_ok_iff (g : Group) (user : Id) (m : Member) :
    g.requireMember user = .ok m ↔ g.member? user = some m := by
  unfold requireMember
  cases g.member? user <;> simp

lemma member?_eq_none_of_error {g : Group} {user : Id} {p : Problem}
    (h : g.requireMember user = .error p) : g.member? user = none := by
  unfold requireMember at h
  cases hm : g.member? user <;> simp_all

lemma id_of_member? {g : Group} {user : Id} {m : Member} (h : g.member? user = some m) :
    m.id = user := by
  simpa using List.find?_some h

end Group

/-- A name and an address are accepted for a new account one after the other. -/
lemma User.create_eq_ok_iff (o : Occasion) (name email : Option String) (u : User) :
    User.create o name email = .ok u ↔
      ∃ n e, Entry.name name "name" = .ok n ∧ Entry.email email = .ok e ∧
        u = ⟨o.ids 0, n, e, o.now⟩ := by
  unfold User.create
  cases Entry.name name "name" with
  | error p => simp
  | ok n =>
    cases Entry.email email with
    | error p => simp
    | ok e => simp [eq_comm]

/-- A title and an amount are accepted for a new expense one after the other. -/
lemma Expense.create_eq_ok_iff (id groupId memberId : Id) (now : Timestamp)
    (title amount : String) (e : Expense) :
    Expense.create id groupId memberId now title amount = .ok e ↔
      ∃ t a, Entry.name (some title) "title" = .ok t ∧ Entry.amount amount = .ok a ∧
        e = ⟨id, groupId, memberId, t, a, now, none, false⟩ := by
  unfold Expense.create
  cases Entry.name (some title) "title" with
  | error p => simp
  | ok t =>
    cases Entry.amount amount with
    | error r => simp
    | ok a => simp [eq_comm]

/-- A settlement is made when the transfers are found. -/
lemma Settlement.create_eq_ok_iff (id groupId : Id) (start : Option Timestamp) (now : Timestamp)
    (expenses : List Expense) (members : List Id) (s : Settlement) (es : List Expense) :
    Settlement.create id groupId start now expenses members = .ok (s, es) ↔
      ∃ ts, Balance.transfers (expenses.map paymentOf) members = .ok ts ∧
        s = ⟨id, groupId, start, now, ts, expenses.map (·.id)⟩ ∧
        es = expenses.map (·.settle) := by
  unfold Settlement.create
  cases Balance.transfers (expenses.map paymentOf) members with
  | error f => simp [Except.map]
  | ok ts => simp [Except.map, eq_comm]

namespace OpenGroup

/-- The event that a change records. -/
def eventOf (w : OpenGroup) (id : Id) (now : Timestamp) (user : Id) (action : GroupAction) :
    Event :=
  ⟨id, now, .group w.group.id user action⟩

/-- An expense that somebody may change: it belongs to the group, the user is a member and either
its owner or the administrator, and it is not settled. -/
structure Editable (w : OpenGroup) (user : Id) (e : Expense) : Prop where
  member : (w.group.member? user).isSome
  group : e.groupId = w.group.id
  owner : w.group.isAdmin user = true ∨ e.memberId = user
  unsettled : e.settled = false

lemma editable_eq_ok_iff (w : OpenGroup) (user : Id) (expense : Option Expense) (e : Expense) :
    w.editable user expense = .ok e ↔ expense = some e ∧ w.Editable user e := by
  unfold editable
  cases hm : w.group.requireMember user with
  | error p =>
    have hnone := Group.member?_eq_none_of_error hm
    simp only [reduceCtorEq, false_iff, not_and]
    exact fun _ h => by simpa [hnone] using h.member
  | ok m =>
    have hsome := (Group.requireMember_eq_ok_iff _ _ _).mp hm
    cases expense with
    | none => simp
    | some x =>
      simp only [Option.some.injEq]
      constructor
      · intro h
        split at h
        · cases h
        next hg =>
        split at h
        · cases h
        next ho =>
        split at h
        · cases h
        next hs =>
        cases h
        refine ⟨rfl, by simp [hsome], by simpa using hg, ?_, by simpa using hs⟩
        simpa [Decidable.or_iff_not_imp_left] using ho
      · rintro ⟨rfl, h⟩
        have ho : ¬ ((!w.group.isAdmin user && x.memberId != user) = true) := by
          rcases h.owner with ha | ha <;> simp [ha]
        simp [h.group, ho, h.unsettled]

lemma requireAdmin_eq_ok_iff (w : OpenGroup) (user : Id) (r : Unit) :
    w.requireAdmin user = .ok r ↔ w.group.isAdmin user = true := by
  unfold requireAdmin
  split <;> simp_all

lemma isAdmin_eq_false_of_error {w : OpenGroup} {user : Id} {p : Problem}
    (h : w.requireAdmin user = .error p) : w.group.isAdmin user = false := by
  unfold requireAdmin at h
  split at h <;> simp_all

/-! ## Accepted changes -/

/-- A group is founded under a name by a user, who becomes its administrator and first member. -/
lemma create_eq_ok_iff (o : Occasion) (name : String) (admin : User) (color : Color)
    (w : OpenGroup) :
    create o name admin color = .ok w ↔
      ∃ n, Entry.name (some name) "name" = .ok n ∧
        w = ⟨⟨o.ids 0, n, admin.id, o.now, [.ofUser (o.ids 0) admin true color o.now]⟩,
          [⟨o.ids 1, o.now, .group (o.ids 0) admin.id (.created n color)⟩]⟩ := by
  unfold create
  cases Entry.name (some name) "name" with
  | error p => simp [Except.map]
  | ok n => simp [Except.map, record, ofGroup, Member.ofUser, eq_comm]

/-- Whoever is not yet a member is admitted. -/
lemma addMember_eq_ok_iff (w : OpenGroup) (o : Occasion) (u : User) (c : Color) (m : Member)
    (w' : OpenGroup) :
    w.addMember o u c = (.ok m, w') ↔
      w.group.isMember u.id = false ∧ m = .ofUser w.group.id u false c o.now ∧
        w' = ⟨w.group.withMember m, w.pending ++ [w.eventOf (o.ids 0) o.now u.id (.joined c)]⟩ := by
  unfold addMember
  cases h : w.group.isMember u.id with
  | true => simp
  | false =>
    simp only [Bool.false_eq_true, ↓reduceIte, Prod.mk.injEq, Except.ok.injEq, true_and]
    constructor
    · rintro ⟨rfl, rfl⟩
      exact ⟨rfl, rfl⟩
    · rintro ⟨rfl, rfl⟩
      exact ⟨rfl, rfl⟩

/-- Every member may take another colour. -/
lemma changeColor_eq_ok_iff (w : OpenGroup) (o : Occasion) (user : Id) (c : Color) (m : Member)
    (w' : OpenGroup) :
    w.changeColor o user c = (.ok m, w') ↔
      ∃ old, w.group.member? user = some old ∧ m = { old with color := c } ∧
        w' = ⟨w.group.withColor user c,
          w.pending ++ [w.eventOf (o.ids 0) o.now user (.colorChanged old.color c)]⟩ := by
  unfold changeColor
  cases h : w.group.requireMember user with
  | error p =>
    simp [Group.member?_eq_none_of_error h]
  | ok old =>
    have hsome := (Group.requireMember_eq_ok_iff _ _ _).mp h
    have hid := Group.id_of_member? hsome
    simp [hsome, record, eventOf, Group.withColor, hid, eq_comm]

/-- Every member may enter an expense. -/
lemma addExpense_eq_ok_iff (w : OpenGroup) (o : Occasion) (user : Id) (title amount : String)
    (e : Expense) (w' : OpenGroup) :
    w.addExpense o user title amount = (.ok e, w') ↔
      (w.group.member? user).isSome ∧
        Expense.create (o.ids 0) w.group.id user o.now title amount = .ok e ∧
        w' = ⟨w.group, w.pending ++ [w.eventOf (o.ids 1) o.now user
          (.expenseCreated e.id e.title e.amount e.createdAt)]⟩ := by
  unfold addExpense
  cases h : w.group.requireMember user with
  | error p =>
    simp [Group.member?_eq_none_of_error h]
  | ok m =>
    have hsome := (Group.requireMember_eq_ok_iff _ _ _).mp h
    cases hc : Expense.create (o.ids 0) w.group.id user o.now title amount with
    | error r => simp
    | ok e' =>
      simp only [hsome, Option.isSome_some, Prod.mk.injEq, Except.ok.injEq, true_and]
      constructor
      · rintro ⟨rfl, rfl⟩
        exact ⟨rfl, rfl⟩
      · rintro ⟨rfl, rfl⟩
        exact ⟨rfl, rfl⟩

/-- Whoever may change an expense can give it another title and another amount, if the event has a
place for the amount that it had. -/
lemma updateExpense_eq_ok_iff (w : OpenGroup) (o : Occasion) (user : Id)
    (expense : Option Expense) (title amount : String) (e : Expense) (w' : OpenGroup)
    (after : Option Expense) :
    w.updateExpense o user expense title amount = (.ok e, w', after) ↔
      ∃ old t a, expense = some old ∧ w.Editable user old ∧
        Entry.name (some title) "title" = .ok t ∧ Entry.amount amount = .ok a ∧
        old.amount.isFinite = true ∧
        e = { old with title := t, amount := a, modifiedAt := some o.now } ∧ after = some e ∧
        w' = ⟨w.group, w.pending ++ [w.eventOf (o.ids 0) o.now user
          (.expenseModified old.id old.title t old.amount a)]⟩ := by
  unfold updateExpense
  cases he : w.editable user expense with
  | error p =>
    simp only [Prod.mk.injEq, reduceCtorEq, false_and, false_iff, not_exists, not_and]
    intro old t a hx hed
    rw [(editable_eq_ok_iff w user expense old).mpr ⟨hx, hed⟩] at he
    cases he
  | ok old =>
    obtain ⟨rfl, hed⟩ := (editable_eq_ok_iff w user expense old).mp he
    unfold Expense.revise
    cases hn : Entry.name (some title) "title" with
    | error p => simp
    | ok t =>
      cases ha : Entry.amount amount with
      | error r => simp
      | ok a =>
        dsimp only
        split
        next finite =>
          simp only [Prod.mk.injEq, Except.ok.injEq, Option.some.injEq]
          constructor
          · rintro ⟨rfl, rfl, rfl⟩
            exact ⟨old, t, a, rfl, hed, rfl, rfl, finite, rfl, rfl, rfl⟩
          · rintro ⟨_, _, _, rfl, -, rfl, rfl, -, rfl, rfl, rfl⟩
            exact ⟨rfl, rfl, rfl⟩
        next endless =>
          simp only [Prod.mk.injEq, reduceCtorEq, false_and, false_iff, not_exists, not_and]
          rintro _ _ _ ⟨⟩ - - - finite
          exact absurd finite endless

/-- Whoever may change an expense can take it out of the group. -/
lemma deleteExpense_eq_ok_iff (w : OpenGroup) (o : Occasion) (user : Id)
    (expense : Option Expense) (e : Expense) (w' : OpenGroup) :
    w.deleteExpense o user expense = (.ok e, w') ↔
      expense = some e ∧ w.Editable user e ∧
        w' = ⟨w.group, w.pending ++ [w.eventOf (o.ids 0) o.now user (.expenseDeleted e.id)]⟩ := by
  rw [← and_assoc, ← editable_eq_ok_iff]
  unfold deleteExpense
  cases w.editable user expense with
  | error p => simp
  | ok x =>
    simp only [Prod.mk.injEq, Except.ok.injEq]
    constructor
    · rintro ⟨rfl, rfl⟩
      exact ⟨rfl, rfl⟩
    · rintro ⟨rfl, rfl⟩
      exact ⟨rfl, rfl⟩

/-- The administrator can settle expenses when the transfers are found. -/
lemma settle_eq_ok_iff (w : OpenGroup) (o : Occasion) (user : Id) (expenses : List Expense)
    (last : Option Settlement) (s : Settlement) (w' : OpenGroup) (after : List Expense) :
    w.settle o user expenses last = (.ok s, w', after) ↔
      w.group.isAdmin user = true ∧ ∃ ts,
        Balance.transfers (expenses.map Settlement.paymentOf) (w.group.members.map (·.id)) =
          .ok ts ∧
        s = ⟨o.ids 0, w.group.id, last.map (·.finish), o.now, ts, expenses.map (·.id)⟩ ∧
        after = expenses.map (·.settle) ∧
        w' = ⟨w.group, w.pending ++ [w.eventOf (o.ids 1) o.now user
          (.settled s.id s.start s.finish s.transfers)]⟩ := by
  unfold settle
  cases hadm : w.requireAdmin user with
  | error p =>
    simp [isAdmin_eq_false_of_error hadm]
  | ok r =>
    have h := (requireAdmin_eq_ok_iff w user r).mp hadm
    simp only [h, true_and]
    cases hc : Settlement.create (o.ids 0) w.group.id (last.map (·.finish)) o.now expenses
        (w.group.members.map (·.id)) with
    | error f =>
      simp only [Prod.mk.injEq, reduceCtorEq, false_and, false_iff, not_exists, not_and]
      intro ts hts hs
      have hok := (Settlement.create_eq_ok_iff (o.ids 0) w.group.id (last.map (·.finish)) o.now
        expenses (w.group.members.map (·.id)) s (expenses.map (·.settle))).mpr ⟨ts, hts, hs, rfl⟩
      rw [hc] at hok
      cases hok
    | ok p =>
      obtain ⟨s', es'⟩ := p
      obtain ⟨ts, hts, rfl, rfl⟩ := (Settlement.create_eq_ok_iff ..).mp hc
      simp only [Prod.mk.injEq, Except.ok.injEq, hts]
      constructor
      · rintro ⟨rfl, rfl, rfl⟩
        exact ⟨ts, rfl, rfl, rfl, rfl⟩
      · rintro ⟨_, rfl, rfl, rfl, rfl⟩
        exact ⟨rfl, rfl, rfl⟩

/-- The administrator can close the group. -/
lemma delete_eq_ok_iff (w : OpenGroup) (o : Occasion) (user : Id) (r : Unit) (w' : OpenGroup) :
    w.delete o user = (.ok r, w') ↔
      w.group.isAdmin user = true ∧
        w' = ⟨w.group, w.pending ++ [w.eventOf (o.ids 0) o.now user .deleted]⟩ := by
  unfold delete
  cases hadm : w.requireAdmin user with
  | error p =>
    simp [isAdmin_eq_false_of_error hadm]
  | ok u =>
    have h := (requireAdmin_eq_ok_iff w user u).mp hadm
    simp [h, record, eventOf, eq_comm]

end OpenGroup

end CommonPurse
