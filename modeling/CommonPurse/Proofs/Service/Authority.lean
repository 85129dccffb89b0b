import CommonPurse.Proofs.History.Reachable
import CommonPurse.Proofs.History.Settlements

/-!
# What a call on a group may change

Which writes a user is entitled to in a call on a group can be said of single writes, and from
that what may become of everything that is stored. The checks are spread over the operations; the
plans show that together they let no other write pass.

## Main definitions

* `CommonPurse.World.Move.ActsOn` — a call that a user makes on a group.
* `CommonPurse.Store.Write.Entitled` — the writes that the user is entitled to.
* `CommonPurse.Store.Memory.Confined` — what may become of what is stored.

## Main results

* `CommonPurse.Command.Planned.entitled` — commands on a group write nothing else.
* `CommonPurse.Store.Memory.confined_of_entitled` — what follows for everything that is stored.
* `CommonPurse.World.confined_move` — calls on a group change nothing else.
-/

namespace CommonPurse

open CommonPurse.Store CommonPurse.Store.Memory

/-! ## Calls on a group -/

/-- A command is a call that a user makes on a group. The group that is founded is the one with the
identifier that is drawn for it. -/
def Command.ActsOn (o : Occasion) (user group : Id) : Command → Prop
  | .createGroup u _ _ => u = user ∧ o.ids 0 = group
  | .joinGroup u g _ => u = user ∧ g = group
  | .changeColor u g _ => u = user ∧ g = group
  | .createExpense u g _ _ => u = user ∧ g = group
  | .updateExpense u g _ _ _ => u = user ∧ g = group
  | .deleteExpense u g _ => u = user ∧ g = group
  | .settle u g => u = user ∧ g = group
  | .deleteGroup u g => u = user ∧ g = group
  | .register _ _ _ | .login _ _ | .logout _ | .deleteUser _ => False

/-- A query is a call that a user makes on a group. -/
def Query.ActsOn (user group : Id) : Query → Prop
  | .group u g => u = user ∧ g = group
  | .expenses u g => u = user ∧ g = group
  | .user _ => False

namespace World.Move

/-- A move is a call that a user makes on a group. -/
def ActsOn (user group : Id) : Move → Prop
  | .call o c => c.ActsOn o user group
  | .ask _ q => q.ActsOn user group
  | .switch _ _ => False

/-- The command that a move calls. -/
def command? : Move → Option Command
  | .call _ c => some c
  | .ask _ _ => none
  | .switch _ _ => none

end World.Move

/-! ## Groups but for one member -/

/-- A group differs from another one at most in what concerns one user as a member. -/
structure Group.SameBut (user : Id) (g g' : Group) : Prop where
  id : g'.id = g.id
  name : g'.name = g.name
  adminId : g'.adminId = g.adminId
  createdAt : g'.createdAt = g.createdAt
  others : g'.members.filter (·.id ≠ user) = g.members.filter (·.id ≠ user)

namespace Group

lemma sameBut_refl (g : Group) (user : Id) : g.SameBut user g := ⟨rfl, rfl, rfl, rfl, rfl⟩

/-- Whoever is a member afterwards is the user, or has been a member before. -/
lemma SameBut.mem {user : Id} {g g' : Group} (h : g.SameBut user g') {m : Member}
    (hm : m ∈ g'.members) : m.id = user ∨ m ∈ g.members := by
  by_cases hu : m.id = user
  · exact .inl hu
  · have kept : m ∈ g'.members.filter (·.id ≠ user) :=
      List.mem_filter.mpr ⟨hm, by simpa using hu⟩
    rw [h.others] at kept
    exact .inr (List.mem_filter.mp kept).1

lemma sameBut_withMember (g : Group) (m : Member) : g.SameBut m.id (g.withMember m) :=
  ⟨rfl, rfl, rfl, rfl, by simp [withMember]⟩

lemma filter_setColor (user : Id) (color : Color) (members : List Member) :
    (setColor user color members).filter (·.id ≠ user) = members.filter (·.id ≠ user) := by
  induction members with
  | nil => rfl
  | cons m rest ih =>
    unfold setColor
    by_cases hm : m.id = user
    · simp [hm]
    · rw [if_neg hm, List.filter_cons, List.filter_cons, ih]

lemma sameBut_withColor (g : Group) (user : Id) (color : Color) :
    g.SameBut user (g.withColor user color) :=
  ⟨rfl, rfl, rfl, rfl, filter_setColor user color g.members⟩

end Group

/-! ## Writes that a user is entitled to -/

namespace Store

/-- The writes that a user is entitled to in a call on a group, by what is stored before it. -/
inductive Write.Entitled (before : Contents) (call : Option Command) (user group : Id) :
    Write → Prop
  | found {g : Group} (id : g.id = group) (new : before.groups.get? group = none)
      (own : ∀ m ∈ g.members, m.id = user) : Entitled before call user group (.saveGroup g)
  | reshape {g g' : Group} (stored : before.groups.get? group = some g) (id : g'.id = group)
      (rest : g.SameBut user g') : Entitled before call user group (.saveGroup g')
  | close {g : Group} (stored : before.groups.get? group = some g)
      (admin : g.isAdmin user = true) : Entitled before call user group (.deleteGroup group)
  | enter {g : Group} {e : Expense} (stored : before.groups.get? group = some g)
      (member : (g.member? user).isSome) (new : before.expenses.get? e.id = none)
      (group_ : e.groupId = group) (owner : e.memberId = user) :
      Entitled before call user group (.saveExpense e)
  | revise {g : Group} {i : Id} {old e : Expense} {title amount : String}
      (stored : before.groups.get? group = some g) (found : before.expenses.get? i = some old)
      (id : e.id = i) (editable : (OpenGroup.ofGroup g).Editable user old) (own : g.id = group)
      (target : call = some (.updateExpense user group i title amount)) :
      Entitled before call user group (.saveExpense e)
  | remove {g : Group} {i : Id} {old : Expense} (stored : before.groups.get? group = some g)
      (found : before.expenses.get? i = some old)
      (editable : (OpenGroup.ofGroup g).Editable user old) (own : g.id = group)
      (target : call = some (.deleteExpense user group i)) :
      Entitled before call user group (.deleteExpense i)
  | settle {g : Group} {i : Id} {old e : Expense} (stored : before.groups.get? group = some g)
      (found : before.expenses.get? i = some old) (id : e.id = i)
      (admin : g.isAdmin user = true) (group_ : old.groupId = group) (isOpen : old.settled = false)
      (target : call = some (.settle user group)) :
      Entitled before call user group (.saveExpense e)
  | conclude {g : Group} {s : Settlement} (stored : before.groups.get? group = some g)
      (admin : g.isAdmin user = true) (new : before.settlements.get? s.id = none)
      (group_ : s.groupId = group) : Entitled before call user group (.saveSettlement s)

end Store

/-- **Commands on a group write nothing that the user is not entitled to.** -/
theorem Command.Planned.entitled {m : Memory} (hm : m.contents.Orderly) {o : Occasion}
    {c : Command} {p : Plan} (h : Command.Planned m.view o c p) {user group : Id}
    (acts : c.ActsOn o user group) (fresh : ∀ n < p.drawn, m.contents.Unused (o.ids n)) :
    ∀ w ∈ p.writes, w.Entitled m.contents (some c) user group := by
  cases h with
  | register created new => exact acts.elim
  | login valid credential found same => exact acts.elim
  | logout found => exact acts.elim
  | deleteUser found => exact acts.elim
  | createGroup picked found named =>
    obtain ⟨rfl, rfl⟩ := acts
    have known := hm.user_id ((view_user_eq_ok_iff ..).mp found).2
    intro w hw
    obtain rfl := List.mem_singleton.mp hw
    refine .found rfl (fresh 0 Nat.two_pos).2.1 fun x hx => ?_
    obtain rfl := List.mem_singleton.mp hx
    exact known
  | joinGroup picked found loaded outside =>
    obtain ⟨rfl, rfl⟩ := acts
    have known := hm.user_id ((view_user_eq_ok_iff ..).mp found).2
    have stored := ((view_group_eq_ok_iff ..).mp loaded).2
    have own := hm.group_id stored
    intro w hw
    obtain rfl := List.mem_singleton.mp hw
    exact .reshape stored own (known ▸ Group.sameBut_withMember _ (.ofUser ..))
  | changeColor picked loaded member =>
    obtain ⟨rfl, rfl⟩ := acts
    have stored := ((view_group_eq_ok_iff ..).mp loaded).2
    have own := hm.group_id stored
    intro w hw
    obtain rfl := List.mem_singleton.mp hw
    exact .reshape stored own (Group.sameBut_withColor ..)
  | createExpense loaded member created =>
    obtain ⟨rfl, rfl⟩ := acts
    have stored := ((view_group_eq_ok_iff ..).mp loaded).2
    obtain ⟨t, a, -, -, rfl⟩ := (Expense.create_eq_ok_iff ..).mp created
    intro w hw
    obtain rfl := List.mem_singleton.mp hw
    exact .enter stored member (fresh 0 Nat.two_pos).2.2.1 (hm.group_id stored) rfl
  | updateExpense loaded found editable titled priced =>
    obtain ⟨rfl, rfl⟩ := acts
    have stored := ((view_group_eq_ok_iff ..).mp loaded).2
    have old := ((view_expense_eq_ok_iff ..).mp found).2
    have id := hm.expense_id old
    intro w hw
    obtain rfl := List.mem_singleton.mp hw
    exact .revise stored old id editable (hm.group_id stored) rfl
  | deleteExpense loaded found editable =>
    obtain ⟨rfl, rfl⟩ := acts
    have stored := ((view_group_eq_ok_iff ..).mp loaded).2
    have old := ((view_expense_eq_ok_iff ..).mp found).2
    intro w hw
    obtain rfl := List.mem_singleton.mp hw
    rw [hm.expense_id old]
    exact .remove stored old editable (hm.group_id stored) rfl
  | @settle user' group' g es last ts loaded open_ latest admin balanced =>
    obtain ⟨rfl, rfl⟩ := acts
    have stored := ((view_group_eq_ok_iff ..).mp loaded).2
    intro w hw
    rcases List.mem_cons.mp hw with rfl | hw
    · exact .conclude stored admin (fresh 0 Nat.two_pos).2.2.2.1 (hm.group_id stored)
    · obtain ⟨x, hx, rfl⟩ := List.mem_map.mp hw
      obtain ⟨e, he, rfl⟩ := List.mem_map.mp hx
      obtain ⟨kept, group_, isOpen⟩ := (mem_of_view_unsettled open_ e).mp he
      obtain ⟨r, hr, rfl⟩ := List.mem_map.mp kept
      have found := Table.get?_of_mem hm.expenses hr
      have id := hm.expense_id found
      exact .settle stored found id admin group_ isOpen rfl
  | deleteGroup loaded admin =>
    obtain ⟨rfl, rfl⟩ := acts
    have stored := ((view_group_eq_ok_iff ..).mp loaded).2
    intro w hw
    obtain rfl := List.mem_singleton.mp hw
    exact .close stored admin

/-! ## What writes leave alone -/

namespace Store

/-- What a write makes of the expense with an identifier, if it concerns that expense: another one,
or nothing. -/
def Write.madeExpense? (i : Id) : Write → Option (Option Expense)
  | .saveExpense e => if e.id = i then some (some e) else none
  | .deleteExpense j => if j = i then some none else none
  | _ => none

/-- What a write makes of the group with an identifier. -/
def Write.madeGroup? (i : Id) : Write → Option (Option Group)
  | .saveGroup g => if g.id = i then some (some g) else none
  | .deleteGroup j => if j = i then some none else none
  | _ => none

/-- What a write makes of the settlement with an identifier. -/
def Write.madeSettlement? (i : Id) : Write → Option (Option Settlement)
  | .saveSettlement s => if s.id = i then some (some s) else none
  | _ => none

namespace Memory.Contents

/-- What stands in one place after several writes stood there before, or one of the writes put it
there.

**Proof sketch.** Induction on the writes. The last write that concerns the place decides. -/
lemma writeAll_cases {α : Type} (place : Contents → α) (made : Write → Option α)
    (step : ∀ c w, place (c.write w) = (made w).getD (place c)) (c : Contents) (ws : List Write) :
    place (c.writeAll ws) = place c ∨ ∃ w ∈ ws, made w = some (place (c.writeAll ws)) := by
  induction ws generalizing c with
  | nil => exact .inl rfl
  | cons w ws ih =>
    rw [writeAll_cons]
    rcases ih (c.write w) with same | ⟨x, hx, hmade⟩
    · rw [same, step]
      cases hw : made w with
      | none => exact .inl rfl
      | some a => exact .inr ⟨w, List.mem_cons_self, hw⟩
    · exact .inr ⟨x, List.mem_cons_of_mem _ hx, hmade⟩

lemma expense_write (i : Id) (c : Contents) (w : Write) :
    (c.write w).expenses.get? i = (w.madeExpense? i).getD (c.expenses.get? i) := by
  cases w with
  | saveExpense e =>
    simp only [write, Table.get?_put, Write.madeExpense?]
    split <;> rfl
  | deleteExpense j =>
    simp only [write, Table.get?_erase, Write.madeExpense?]
    split <;> rfl
  | _ => rfl

lemma group_write (i : Id) (c : Contents) (w : Write) :
    (c.write w).groups.get? i = (w.madeGroup? i).getD (c.groups.get? i) := by
  cases w with
  | saveGroup g =>
    simp only [write, Table.get?_put, Write.madeGroup?]
    split <;> rfl
  | deleteGroup j =>
    simp only [write, Table.get?_erase, Write.madeGroup?]
    split <;> rfl
  | _ => rfl

lemma settlement_write (i : Id) (c : Contents) (w : Write) :
    (c.write w).settlements.get? i = (w.madeSettlement? i).getD (c.settlements.get? i) := by
  cases w with
  | saveSettlement s =>
    simp only [write, Table.get?_put, Write.madeSettlement?]
    split <;> rfl
  | _ => rfl

/-- Nobody's device is changed by a write. -/
@[simp] lemma devices_writeAll (c : Contents) (ws : List Write) :
    (c.writeAll ws).devices = c.devices := by
  induction ws generalizing c with
  | nil => rfl
  | cons w ws ih =>
    rw [writeAll_cons, ih]
    cases w <;> rfl

/-- Accounts and credentials stay as they are when every write is one that somebody is entitled to
in a call on a group. -/
lemma accounts_writeAll {before : Contents} {call : Option Command} {user group : Id}
    {ws : List Write} (h : ∀ w ∈ ws, w.Entitled before call user group) (c : Contents) :
    (c.writeAll ws).users = c.users ∧ (c.writeAll ws).credentials = c.credentials := by
  induction ws generalizing c with
  | nil => exact ⟨rfl, rfl⟩
  | cons w ws ih =>
    have rest := ih (fun x hx => h x (List.mem_cons_of_mem _ hx)) (c.write w)
    have first : (c.write w).users = c.users ∧ (c.write w).credentials = c.credentials := by
      cases h w List.mem_cons_self <;> exact ⟨rfl, rfl⟩
    rw [writeAll_cons]
    exact ⟨rest.1.trans first.1, rest.2.trans first.2⟩

end Memory.Contents

/-! ## What may become of what is stored -/

namespace Memory

/-- The members of a group, of which there are none unless it is stored. -/
def Contents.membersOf (c : Contents) (group : Id) : List Member :=
  ((c.groups.get? group).map (·.members)).getD []

/-- What may become of a group with an identifier when a user makes a call on a group. -/
inductive Fate (user group i : Id) : Option Group → Option Group → Prop
  | stays (g : Option Group) : Fate user group i g g
  | founded {g : Group} (target : i = group) (own : ∀ m ∈ g.members, m.id = user) :
      Fate user group i none (some g)
  | reshaped {g g' : Group} (target : i = group) (rest : g.SameBut user g') :
      Fate user group i (some g) (some g')
  | closed {g : Group} (target : i = group) (admin : g.isAdmin user = true) :
      Fate user group i (some g) none

/-- Only the group that the call is made on can change. -/
lemma Fate.eq_of_ne {user group i : Id} {before after : Option Group}
    (h : Fate user group i before after) (hi : i ≠ group) : after = before := by
  cases h with
  | stays => rfl
  | founded target own => exact absurd target hi
  | reshaped target rest => exact absurd target hi
  | closed target admin => exact absurd target hi

/-- What may become of what is stored in a call that a user makes on a group.

An expense that is changed or removed belongs to the group and was open, and the call settles the
group as its administrator, or it revises or removes that expense as a member who is the
administrator or the owner of the expense. An expense that is entered belongs to the group and to
the user, who is a member. Only the administrator can settle or remove the group. A member record
that is added or changed is the one of the user. -/
structure Confined (call : Option Command) (user group : Id) (before after : Contents) : Prop where
  changed : ∀ i e, before.expenses.get? i = some e → after.expenses.get? i ≠ some e →
    e.groupId = group ∧ e.settled = false ∧ ∃ g, before.groups.get? group = some g ∧
      ((call = some (.settle user group) ∧ g.isAdmin user = true) ∨
        (((∃ title amount, call = some (.updateExpense user group i title amount)) ∨
            call = some (.deleteExpense user group i)) ∧
          (g.member? user).isSome ∧ (g.isAdmin user = true ∨ e.memberId = user)))
  entered : ∀ i e, before.expenses.get? i = none → after.expenses.get? i = some e →
    e.groupId = group ∧ e.memberId = user ∧
      ∃ g, before.groups.get? group = some g ∧ (g.member? user).isSome
  concluded : ∀ i s, before.settlements.get? i = none → after.settlements.get? i = some s →
    s.groupId = group ∧ ∃ g, before.groups.get? group = some g ∧ g.isAdmin user = true
  settlements : ∀ i s, before.settlements.get? i = some s → after.settlements.get? i = some s
  closed : ∀ i g, before.groups.get? i = some g → after.groups.get? i = none →
    i = group ∧ g.isAdmin user = true
  otherGroups : ∀ i, i ≠ group → after.groups.get? i = before.groups.get? i
  reshaped : ∀ g g', before.groups.get? group = some g → after.groups.get? group = some g' →
    g.SameBut user g'
  members : ∀ m ∈ after.membersOf group, m ∈ before.membersOf group ∨ m.id = user
  users : after.users = before.users
  credentials : after.credentials = before.credentials
  devices : after.devices = before.devices

variable {call : Option Command} {user group : Id} {c : Contents}

/-- A call may change nothing at all. -/
lemma confined_refl (call : Option Command) (user group : Id) (c : Contents) :
    Confined call user group c c where
  changed _ _ he hne := absurd he hne
  entered _ _ hn he := absurd (hn.symm.trans he) (by simp)
  concluded _ _ hn hs := absurd (hn.symm.trans hs) (by simp)
  settlements _ _ hs := hs
  closed _ _ hg hn := absurd (hn.symm.trans hg) (by simp)
  otherGroups _ _ := rfl
  reshaped g g' hg hg' := by
    obtain rfl := Option.some.inj (hg.symm.trans hg')
    exact g.sameBut_refl user
  members _ hm := .inl hm
  users := rfl
  credentials := rfl
  devices := rfl

variable {ws : List Write} (h : ∀ w ∈ ws, w.Entitled c call user group)

include h

/-- What becomes of an expense: it stays, a write of an expense has put it there, or it is gone. -/
lemma expense_of_entitled (i : Id) :
    (c.writeAll ws).expenses.get? i = c.expenses.get? i ∨
      (∃ e, (Write.saveExpense e).Entitled c call user group ∧ e.id = i ∧
        (c.writeAll ws).expenses.get? i = some e) ∨
      ((Write.deleteExpense i).Entitled c call user group ∧
        (c.writeAll ws).expenses.get? i = none) := by
  rcases Contents.writeAll_cases (·.expenses.get? i)
    (Write.madeExpense? i) (Contents.expense_write i) c ws with same | ⟨w, hw, made⟩
  · exact .inl same
  have entitled := h w hw
  cases w with
  | saveExpense e =>
    rw [Write.madeExpense?, Option.ite_none_right_eq_some] at made
    exact .inr (.inl ⟨e, entitled, made.1, (Option.some.inj made.2).symm⟩)
  | deleteExpense j =>
    rw [Write.madeExpense?, Option.ite_none_right_eq_some] at made
    exact .inr (.inr ⟨made.1 ▸ entitled, (Option.some.inj made.2).symm⟩)
  | _ => cases made

/-- What becomes of the group with an identifier: it stays as it is, or it is the one that the call
is made on, and it is founded, reshaped or closed. -/
lemma fate_of_entitled (i : Id) :
    Fate user group i (c.groups.get? i) ((c.writeAll ws).groups.get? i) := by
  rcases Contents.writeAll_cases (·.groups.get? i)
    (Write.madeGroup? i) (Contents.group_write i) c ws with same | ⟨w, hw, made⟩
  · rw [same]
    exact .stays _
  have entitled := h w hw
  cases w with
  | saveGroup g' =>
    rw [Write.madeGroup?, Option.ite_none_right_eq_some] at made
    obtain ⟨rfl, made⟩ := made
    rw [← Option.some.inj made]
    cases entitled with
    | found id new own =>
      rw [id, new]
      exact .founded rfl own
    | reshape stored id rest =>
      rw [id, stored]
      exact .reshaped rfl rest
  | deleteGroup j =>
    rw [Write.madeGroup?, Option.ite_none_right_eq_some] at made
    obtain ⟨rfl, made⟩ := made
    rw [← Option.some.inj made]
    cases entitled with
    | close stored admin =>
      rw [stored]
      exact .closed rfl admin
  | _ => cases made

/-- What becomes of a settlement: it stays, or it is new and the administrator has settled the
group. -/
lemma settlement_of_entitled (i : Id) :
    (c.writeAll ws).settlements.get? i = c.settlements.get? i ∨
      ∃ s g, (c.writeAll ws).settlements.get? i = some s ∧ c.settlements.get? i = none ∧
        s.groupId = group ∧ c.groups.get? group = some g ∧ g.isAdmin user = true := by
  rcases Contents.writeAll_cases (·.settlements.get? i)
    (Write.madeSettlement? i) (Contents.settlement_write i) c ws with same | ⟨w, hw, made⟩
  · exact .inl same
  have entitled := h w hw
  cases w with
  | saveSettlement s =>
    rw [Write.madeSettlement?, Option.ite_none_right_eq_some] at made
    obtain ⟨rfl, made⟩ := made
    cases entitled with
    | conclude stored admin new group_ =>
      exact .inr ⟨s, _, (Option.some.inj made).symm, new, group_, stored, admin⟩
  | _ => cases made

/-- **Writes that a user is entitled to change nothing else.** -/
theorem confined_of_entitled : Confined call user group c (c.writeAll ws) where
  changed i e he hne := by
    rcases expense_of_entitled h i with same | ⟨e', entitled, id, -⟩ | ⟨entitled, -⟩
    · exact absurd (same.trans he) hne
    · cases entitled with
      | enter stored member new group_ owner =>
        rw [id, he] at new
        cases new
      | revise stored found id' editable own target =>
        obtain rfl := id'.symm.trans id
        obtain rfl := Option.some.inj (found.symm.trans he)
        exact ⟨editable.group.trans own, editable.unsettled, _, stored,
          .inr ⟨.inl ⟨_, _, target⟩, editable.member, editable.owner⟩⟩
      | settle stored found id' admin group_ isOpen target =>
        obtain rfl := id'.symm.trans id
        obtain rfl := Option.some.inj (found.symm.trans he)
        exact ⟨group_, isOpen, _, stored, .inl ⟨target, admin⟩⟩
    · cases entitled with
      | remove stored found editable own target =>
        obtain rfl := Option.some.inj (found.symm.trans he)
        exact ⟨editable.group.trans own, editable.unsettled, _, stored,
          .inr ⟨.inr target, editable.member, editable.owner⟩⟩
  entered i e hn he := by
    rcases expense_of_entitled h i with same | ⟨e', entitled, id, is⟩ | ⟨-, gone⟩
    · cases hn.symm.trans (same.symm.trans he)
    · obtain rfl := Option.some.inj (is.symm.trans he)
      cases entitled with
      | enter stored member new group_ owner => exact ⟨group_, owner, _, stored, member⟩
      | revise stored found id' editable own target =>
        cases (id'.symm.trans id ▸ found).symm.trans hn
      | settle stored found id' admin group_ isOpen target =>
        cases (id'.symm.trans id ▸ found).symm.trans hn
    · cases gone.symm.trans he
  concluded i s hn hs := by
    rcases settlement_of_entitled h i with same | ⟨s', g, is, -, group_, stored, admin⟩
    · cases hn.symm.trans (same.symm.trans hs)
    · obtain rfl := Option.some.inj (is.symm.trans hs)
      exact ⟨group_, g, stored, admin⟩
  settlements i s hs := by
    rcases settlement_of_entitled h i with same | ⟨s', g, -, new, -⟩
    · exact same.trans hs
    · cases new.symm.trans hs
  closed i g hg hn := by
    have fate := fate_of_entitled h i
    rw [hg, hn] at fate
    cases fate with
    | closed target admin => exact ⟨target, admin⟩
  otherGroups i hi := (fate_of_entitled h i).eq_of_ne hi
  reshaped g g' hg hg' := by
    have fate := fate_of_entitled h group
    rw [hg, hg'] at fate
    cases fate with
    | stays => exact g.sameBut_refl user
    | reshaped target rest => exact rest
  members m hm := by
    have fate := fate_of_entitled h group
    unfold Contents.membersOf at *
    generalize (c.writeAll ws).groups.get? group = after at fate hm
    generalize c.groups.get? group = before at fate
    cases fate with
    | stays => exact .inl hm
    | founded target own => exact .inr (own m hm)
    | reshaped target rest => exact (rest.mem hm).symm
    | closed target admin => cases hm
  users := (Contents.accounts_writeAll h c).1
  credentials := (Contents.accounts_writeAll h c).2
  devices := Contents.devices_writeAll c ws

end Memory

end Store

/-! ## Calls -/

/-- No device is forgotten in a call on a group. -/
lemma Command.Planned.forget_eq_none {v : View} {o : Occasion} {c : Command} {p : Plan}
    (h : Command.Planned v o c p) {user group : Id} (acts : c.ActsOn o user group) :
    p.forget = none := by
  cases h with
  | logout found => exact acts.elim
  | deleteUser found => exact acts.elim
  | _ => rfl

namespace World

/-- The contents that an accepted plan leaves behind when there is no device to forget. -/
lemma contents_move_of_forget_eq_none {w : World Memory} {o : Occasion} {c : Command} {p : Plan}
    (h : w.store.accepted? o c = some p) (hf : p.forget = none) :
    (w.move (.call o c)).store.contents = { w.store.contents.writeAll p.writes with
      events := withEvents w.store.contents.events p.events } := by
  have left := store_perform c { w with occasion := o }
  simp only [h, hf] at left
  rw [move, left]
  exact Contents.applyAll_changesOf ..

/-- **A call on a group changes only what its user is entitled to change.** The store may be in any
state that it comes to, the arguments of the call may be anything, and the call may fail; nothing is
stored under the identifiers that it draws.

**Proof sketch.** A call that commits nothing leaves everything as it is. What a command commits are
writes that the user is entitled to (`Command.Planned.entitled`), and what these do to a single
entity is seen from the last one that concerns it (`confined_of_entitled`). -/
theorem confined_move {w : World Memory} (reachable : w.store.Reachable) {user group : Id}
    {m : Move} (acts : m.ActsOn user group) (fresh : w.FreshAt m) :
    Confined m.command? user group w.store.contents (w.move m).store.contents := by
  cases m with
  | switch r off => exact acts.elim
  | ask o q =>
    rw [contents_ask]
    exact confined_refl ..
  | call o c =>
    cases h : w.store.accepted? o c with
    | none =>
      rw [contents_move_of_not_accepted h]
      exact confined_refl ..
    | some p =>
      obtain ⟨planned, -⟩ := (Memory.accepted?_eq_some_iff ..).mp h
      have entitled := planned.entitled reachable.orderly acts (fresh p h)
      rw [contents_move_of_forget_eq_none h (planned.forget_eq_none acts)]
      exact { confined_of_entitled entitled with }

/-- The world after the first four calls of `sampleMoves`: there are two open expenses. -/
def sampleOpen : World Memory := (sampleWorld.withStore (.empty [])).run (sampleMoves.take 4)

lemma reachable_sampleOpen : sampleOpen.store.Reachable := by
  refine reachable_run (.empty []) fun o c hc => ?_
  simp only [sampleMoves, sampleCall, List.take_succ_cons, List.take_zero, List.mem_cons,
    Move.call.injEq, List.not_mem_nil, or_false] at hc
  rcases hc with ⟨rfl, -⟩ | ⟨rfl, -⟩ | ⟨rfl, -⟩ | ⟨rfl, -⟩ <;> rfl

/-- The call that follows in `sampleMoves`: the administrator settles the group. -/
def sampleSettle : Move := sampleCall 5 (.settle (.ofNat 16) (.ofNat 32))

/-- The settlement of the two expenses is confined in this way. -/
theorem confined_sampleSettle :
    sampleOpen.store.Reachable ∧ sampleSettle.ActsOn (.ofNat 16) (.ofNat 32) ∧
      sampleOpen.FreshAt sampleSettle ∧
      Confined sampleSettle.command? (.ofNat 16) (.ofNat 32) sampleOpen.store.contents
        (sampleOpen.move sampleSettle).store.contents := by
  have acts : sampleSettle.ActsOn (.ofNat 16) (.ofNat 32) := ⟨rfl, rfl⟩
  have fresh : sampleOpen.FreshAt sampleSettle := by decide
  exact ⟨reachable_sampleOpen, acts, fresh, confined_move reachable_sampleOpen acts fresh⟩

/-- Both expenses are settled by that call. -/
example : (sampleOpen.move sampleSettle).store.contents.expenses.rows.map
    (fun r => (r.1, r.2.settled)) = [(.ofNat 48, true), (.ofNat 64, true)] := by
  decide

end World

end CommonPurse
