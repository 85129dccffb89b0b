import CommonPurse.Command
import CommonPurse.Proofs.Entry.Amount
import CommonPurse.Proofs.Fallible
import CommonPurse.Proofs.Group.Roster
import CommonPurse.Proofs.Group.WellFormed

/-!
# What a change to a group leaves behind

An accepted change records one event, which tells of the values before and after it. A refused one
leaves the group as it was, and also the expenses that it was handed, with two exceptions. When an
expense gets a new title and a new amount, the title is set before the amount is looked at, and
stays when the amount is refused. And the event of such a change is only made when the expense has
been changed; it has no place for an amount that is not finite, which the expense may have had.

## Main definitions

* `CommonPurse.OpenGroup.Request` — a change that somebody asks for.
* `CommonPurse.OpenGroup.Request.Tells` — what an event tells of a change.
* `CommonPurse.OpenGroup.LeavesNoTrace` — what a change owes.
* `CommonPurse.OpenGroup.Request.Halfway` — a change that is refused halfway.

## Main results

* `CommonPurse.OpenGroup.perform_accepted` — the event of an accepted change.
* `CommonPurse.OpenGroup.perform_refused` — what a refused change leaves behind.
* `CommonPurse.OpenGroup.leavesNoTrace_iff` — which changes leave no trace when they are refused.
-/

namespace CommonPurse.OpenGroup

/-! ## Requests -/

/-- A change that somebody asks for, with what is handed over for it. -/
inductive Request where
  | addMember (user : User) (color : Color)
  | changeColor (user : Id) (color : Color)
  | addExpense (user : Id) (title amount : String)
  | updateExpense (user : Id) (expense : Option Expense) (title amount : String)
  | deleteExpense (user : Id) (expense : Option Expense)
  | settle (user : Id) (expenses : List Expense) (last : Option Settlement)
  | delete (user : Id)

namespace Request

/-- Who asks for the change. -/
def actor : Request → Id
  | addMember user _ => user.id
  | changeColor user _ | addExpense user _ _ | updateExpense user _ _ _ | deleteExpense user _
  | settle user _ _ | delete user => user

/-- The expenses that are handed over. -/
def expenses : Request → List Expense
  | updateExpense _ expense _ _ | deleteExpense _ expense => expense.toList
  | settle _ expenses _ => expenses
  | _ => []

/-- What the event of an accepted change tells of the values before and after it. -/
def Tells (before after : Group) (left : List Expense) (p : Product) (action : GroupAction) :
    Request → Prop
  | addMember user color => ∃ m, m.id = user.id ∧ m.color = color ∧
      after = before.withMember m ∧ p = .member m ∧ action = .joined m.color
  | changeColor user color => ∃ old new, before.member? user = some old ∧
      after.member? user = some new ∧ new.color = color ∧ p = .member new ∧
      action = .colorChanged old.color new.color
  | addExpense user _ _ => ∃ e, e.memberId = user ∧ after = before ∧ p = .expense e ∧
      action = .expenseCreated e.id e.title e.amount e.createdAt
  | updateExpense _ expense _ _ => ∃ old new, expense = some old ∧ left = [new] ∧
      after = before ∧ p = .expense new ∧
      action = .expenseModified old.id old.title new.title old.amount new.amount
  | deleteExpense _ expense => ∃ e, expense = some e ∧ left = [e] ∧ after = before ∧
      p = .expense e ∧ action = .expenseDeleted e.id
  | settle _ expenses _ => ∃ s, left = expenses.map (·.settle) ∧ after = before ∧
      p = .settlement s ∧ action = .settled s.id s.start s.finish s.transfers
  | delete _ => after = before ∧ p = .done ∧ action = .deleted

/-- A change is refused halfway when the new title of an expense is accepted and is another one than
before, and the new amount is refused; or when both are accepted, and the amount that the expense
had is not finite. -/
inductive Halfway (w : OpenGroup) : Request → Prop
  | amount {user : Id} {e : Expense} {title amount t : String} {f : Entry.Refusal}
      (editable : w.Editable user e) (titled : Entry.name (some title) "title" = .ok t)
      (other : t ≠ e.title) (priced : Entry.amount amount = .error f) :
      Halfway w (.updateExpense user (some e) title amount)
  | event {user : Id} {e : Expense} {title amount t : String} {a : Decimal}
      (editable : w.Editable user e) (titled : Entry.name (some title) "title" = .ok t)
      (priced : Entry.amount amount = .ok a) (endless : e.amount.isFinite = false) :
      Halfway w (.updateExpense user (some e) title amount)

end Request

variable (w : OpenGroup) (o : Occasion)

/-- Make a change: the answer, the group afterwards, and the expenses that were handed over as they
are afterwards. -/
def perform : Request → Except Refusal Product × OpenGroup × List Expense
  | .addMember user color =>
    let (a, w') := w.addMember o user color
    (a.map .member, w', [])
  | .changeColor user color =>
    let (a, w') := w.changeColor o user color
    (a.map .member, w', [])
  | .addExpense user title amount =>
    let (a, w') := w.addExpense o user title amount
    (a.map .expense, w', [])
  | .updateExpense user expense title amount =>
    let (a, w', left) := w.updateExpense o user expense title amount
    (a.map .expense, w', left.toList)
  | .deleteExpense user expense =>
    let (a, w') := w.deleteExpense o user expense
    (a.map .expense, w', expense.toList)
  | .settle user expenses last =>
    let (a, w', left) := w.settle o user expenses last
    (a.map .settlement, w', left)
  | .delete user =>
    let (a, w') := w.delete o user
    (a.map fun _ => .done, w', [])

/-- **What a change owes.** When it is refused, the group and the expenses that were handed over are
as before. When it is accepted, one event is recorded, which says who has made the change, and which
values there were before and after it. -/
structure LeavesNoTrace (r : Request) : Prop where
  refused : ∀ f, (w.perform o r).1 = .error f → (w.perform o r).2 = (w, r.expenses)
  accepted : ∀ p, (w.perform o r).1 = .ok p → ∃ i action,
    (w.perform o r).2.1.pending = w.pending ++ [w.eventOf i o.now r.actor action] ∧
      r.Tells w.group (w.perform o r).2.1.group (w.perform o r).2.2 p action

variable {w o}

/-! ## Accepted changes -/

/-- **The event of an accepted change.** -/
theorem perform_accepted {r : Request} {p : Product} (h : (w.perform o r).1 = .ok p) :
    ∃ i action, (w.perform o r).2.1.pending = w.pending ++ [w.eventOf i o.now r.actor action] ∧
      r.Tells w.group (w.perform o r).2.1.group (w.perform o r).2.2 p action := by
  cases r with
  | addMember user color =>
    obtain ⟨m, accepted, rfl⟩ := (map_eq_ok_iff ..).mp h
    obtain ⟨-, rfl, changed⟩ := (addMember_eq_ok_iff ..).mp (Prod.ext accepted rfl)
    exact ⟨o.ids 0, .joined color, (congrArg pending changed :),
      _, rfl, rfl, (congrArg group changed :), rfl, rfl⟩
  | changeColor user color =>
    obtain ⟨m, accepted, rfl⟩ := (map_eq_ok_iff ..).mp h
    obtain ⟨old, before, rfl, changed⟩ := (changeColor_eq_ok_iff ..).mp (Prod.ext accepted rfl)
    refine ⟨o.ids 0, .colorChanged old.color color, (congrArg pending changed :),
      old, _, before, ?_, rfl, rfl, rfl⟩
    calc (w.changeColor o user color).2.group.member? user
        = (w.group.withColor user color).member? user :=
          congrArg (fun x => x.group.member? user) changed
      _ = (w.group.member? user).map fun m => { m with color := color } :=
          Group.find?_setColor user color w.group.members
      _ = some { old with color := color } := by rw [before, Option.map_some]
  | addExpense user title amount =>
    obtain ⟨e, accepted, rfl⟩ := (map_eq_ok_iff ..).mp h
    obtain ⟨-, created, changed⟩ := (addExpense_eq_ok_iff ..).mp (Prod.ext accepted rfl)
    obtain ⟨t, a, -, -, rfl⟩ := (Expense.create_eq_ok_iff ..).mp created
    exact ⟨o.ids 1, .expenseCreated (o.ids 0) t a o.now, (congrArg pending changed :),
      _, rfl, (congrArg group changed :), rfl, rfl⟩
  | updateExpense user expense title amount =>
    obtain ⟨e, accepted, rfl⟩ := (map_eq_ok_iff ..).mp h
    obtain ⟨old, t, a, rfl, -, -, -, -, rfl, left, changed⟩ :=
      (updateExpense_eq_ok_iff ..).mp (Prod.ext accepted rfl)
    exact ⟨o.ids 0, .expenseModified old.id old.title t old.amount a, (congrArg pending changed :),
      old, _, rfl, congrArg Option.toList left, (congrArg group changed :), rfl, rfl⟩
  | deleteExpense user expense =>
    obtain ⟨e, accepted, rfl⟩ := (map_eq_ok_iff ..).mp h
    obtain ⟨rfl, -, changed⟩ := (deleteExpense_eq_ok_iff ..).mp (Prod.ext accepted rfl)
    exact ⟨o.ids 0, .expenseDeleted e.id, (congrArg pending changed :),
      e, rfl, rfl, (congrArg group changed :), rfl, rfl⟩
  | settle user expenses last =>
    obtain ⟨s, accepted, rfl⟩ := (map_eq_ok_iff ..).mp h
    obtain ⟨-, ts, -, rfl, left, changed⟩ := (settle_eq_ok_iff ..).mp (Prod.ext accepted rfl)
    exact ⟨o.ids 1, _, (congrArg pending changed :), _, left, (congrArg group changed :), rfl, rfl⟩
  | delete user =>
    obtain ⟨u, accepted, rfl⟩ := (map_eq_ok_iff ..).mp h
    have ran : w.delete o user = (.ok u, _) := Prod.ext accepted rfl
    obtain ⟨-, changed⟩ := (delete_eq_ok_iff ..).mp ran
    exact ⟨o.ids 0, .deleted, (congrArg pending changed :), (congrArg group changed :), rfl, rfl⟩

/-! ## Refused changes -/

section Refused

variable {user : Id} {expense : Option Expense} {title amount : String} {f : Refusal}

lemma addMember_refused {user : User} {color : Color}
    (h : (w.addMember o user color).1 = .error f) : (w.addMember o user color).2 = w := by
  unfold addMember at h ⊢
  split at h
  · next member => rw [if_pos member]
  · cases h

lemma changeColor_refused {color : Color} (h : (w.changeColor o user color).1 = .error f) :
    (w.changeColor o user color).2 = w := by
  unfold changeColor at h ⊢
  cases found : w.group.requireMember user with
  | error p => rfl
  | ok m =>
    rw [found] at h
    cases h

lemma addExpense_refused (h : (w.addExpense o user title amount).1 = .error f) :
    (w.addExpense o user title amount).2 = w := by
  unfold addExpense at h ⊢
  cases found : w.group.requireMember user with
  | error p => rfl
  | ok m =>
    rw [found] at h
    dsimp only at h ⊢
    cases created : Expense.create (o.ids 0) w.group.id user o.now title amount with
    | error p => rfl
    | ok e =>
      rw [created] at h
      cases h

/-- A refused change of an expense leaves it as it was, or has got as far as the new title, or has
been made when its event is refused. -/
lemma updateExpense_refused (h : (w.updateExpense o user expense title amount).1 = .error f) :
    (w.updateExpense o user expense title amount).2 = (w, expense) ∨
      ∃ e t, expense = some e ∧ w.Editable user e ∧ Entry.name (some title) "title" = .ok t ∧
        ((∃ r, Entry.amount amount = .error r ∧
            (w.updateExpense o user expense title amount).2 = (w, some { e with title := t })) ∨
          ∃ a, Entry.amount amount = .ok a ∧ e.amount.isFinite = false) := by
  unfold updateExpense at h ⊢
  cases allowed : w.editable user expense with
  | error p => exact .inl rfl
  | ok e =>
    obtain ⟨rfl, editable⟩ := (editable_eq_ok_iff ..).mp allowed
    unfold Expense.revise at h ⊢
    cases titled : Entry.name (some title) "title" with
    | error p => exact .inl rfl
    | ok t =>
      cases priced : Entry.amount amount with
      | error r => exact .inr ⟨e, t, rfl, editable, rfl, .inl ⟨r, rfl, rfl⟩⟩
      | ok a =>
        have endless : e.amount.isFinite = false := by
          refine Bool.eq_false_iff.mpr fun finite => ?_
          simp [allowed, titled, priced, finite] at h
        exact .inr ⟨e, t, rfl, editable, rfl, .inr ⟨a, rfl, endless⟩⟩

lemma deleteExpense_refused (h : (w.deleteExpense o user expense).1 = .error f) :
    (w.deleteExpense o user expense).2 = w := by
  unfold deleteExpense at h ⊢
  cases allowed : w.editable user expense with
  | error p => rfl
  | ok e =>
    rw [allowed] at h
    cases h

lemma settle_refused {expenses : List Expense} {last : Option Settlement}
    (h : (w.settle o user expenses last).1 = .error f) :
    (w.settle o user expenses last).2 = (w, expenses) := by
  unfold settle at h ⊢
  cases allowed : w.requireAdmin user with
  | error p => rfl
  | ok u =>
    rw [allowed] at h
    dsimp only at h ⊢
    cases made : Settlement.create (o.ids 0) w.group.id (last.map (·.finish)) o.now expenses
        (w.group.members.map (·.id)) with
    | error p => rfl
    | ok s =>
      rw [made] at h
      cases h

lemma delete_refused (h : (w.delete o user).1 = .error f) : (w.delete o user).2 = w := by
  unfold delete at h ⊢
  cases allowed : w.requireAdmin user with
  | error p => rfl
  | ok u =>
    rw [allowed] at h
    cases h

end Refused

/-- **What a refused change leaves behind**: nothing, unless it was refused halfway. -/
theorem perform_refused {r : Request} (whole : ¬r.Halfway w) {f : Refusal}
    (h : (w.perform o r).1 = .error f) : (w.perform o r).2 = (w, r.expenses) := by
  cases r with
  | addMember user color =>
    exact Prod.ext (addMember_refused ((map_eq_error_iff ..).mp h)) rfl
  | changeColor user color =>
    exact Prod.ext (changeColor_refused ((map_eq_error_iff ..).mp h)) rfl
  | addExpense user title amount =>
    exact Prod.ext (addExpense_refused ((map_eq_error_iff ..).mp h)) rfl
  | updateExpense user expense title amount =>
    rcases updateExpense_refused ((map_eq_error_iff ..).mp h) with
      same | ⟨e, t, rfl, editable, titled, ⟨r, priced, left⟩ | ⟨a, priced, endless⟩⟩
    · exact congrArg (Prod.map id Option.toList) same
    · -- the title is the only thing that may have changed, and it is not another one
      have title : t = e.title := by
        by_contra other
        exact whole (.amount editable titled other priced)
      subst title
      exact congrArg (Prod.map id Option.toList) left
    · exact absurd (.event editable titled priced endless) whole
  | deleteExpense user expense =>
    exact Prod.ext (deleteExpense_refused ((map_eq_error_iff ..).mp h)) rfl
  | settle user expenses last =>
    exact settle_refused ((map_eq_error_iff ..).mp h)
  | delete user =>
    exact Prod.ext (delete_refused ((map_eq_error_iff ..).mp h)) rfl

/-- The expense of a change that is refused halfway is not as it was before. -/
lemma Request.Halfway.leaves {r : Request} (h : r.Halfway w) :
    ∃ f, (w.perform o r).1 = .error f ∧ (w.perform o r).2.2 ≠ r.expenses := by
  cases h with
  | @amount user e title amount t f editable titled other priced =>
    have allowed := (editable_eq_ok_iff ..).mpr ⟨rfl, editable⟩
    have ran : w.perform o (.updateExpense user (some e) title amount) =
        (.error (.ofEntry f), w, [{ e with title := t }]) := by
      simp [perform, OpenGroup.updateExpense, allowed, Expense.revise, titled, priced, Except.map]
    refine ⟨.ofEntry f, congrArg Prod.fst ran, fun same => ?_⟩
    rw [ran] at same
    exact other (congrArg Expense.title (List.head_eq_of_cons_eq same))
  | @event user e title amount t a editable titled priced endless =>
    have allowed := (editable_eq_ok_iff ..).mpr ⟨rfl, editable⟩
    have ran : w.perform o (.updateExpense user (some e) title amount) =
        (.error .unrecordable, w,
          [{ e with title := t, amount := a, modifiedAt := some o.now }]) := by
      simp [perform, OpenGroup.updateExpense, allowed, Expense.revise, titled, priced, endless,
        Except.map]
    refine ⟨.unrecordable, congrArg Prod.fst ran, fun same => ?_⟩
    rw [ran] at same
    -- the new amount is finite, as every amount that is accepted
    obtain ⟨k, rfl⟩ := Entry.hundredths_of_amount priced
    rw [← congrArg Expense.amount (List.head_eq_of_cons_eq same)] at endless
    cases endless

/-- **Which changes leave no trace**: all that are not refused halfway. -/
theorem leavesNoTrace_iff (w : OpenGroup) (o : Occasion) (r : Request) :
    w.LeavesNoTrace o r ↔ ¬r.Halfway w := by
  constructor
  · intro h halfway
    obtain ⟨f, refused, other⟩ := halfway.leaves (o := o)
    exact other (congrArg Prod.snd (h.refused f refused))
  · exact fun whole => ⟨fun _ => perform_refused whole, fun _ => perform_accepted⟩

/-- A group of one. -/
def sampleTrip : Group :=
  ⟨.ofNat 64, "Trip", .ofNat 16, .utc 1767225600000000, [.ofUser (.ofNat 64)
    ⟨.ofNat 16, "Ada", "ada@mail.org", .utc 1767225600000000⟩ true .usual
    (.utc 1767225600000000)]⟩

/-- An expense of its only member. -/
def sampleTaxi : Expense :=
  ⟨.ofNat 112, .ofNat 64, .ofNat 16, "Taxi", .finite false 1200 (-2), .utc 1767225600000000, none,
    false⟩

/-- **A change that is refused halfway leaves a trace**: the expense keeps the title of a change
whose amount was refused. -/
theorem refusedAmount_leaves_title : sampleTrip.WellFormed ∧
    ¬(ofGroup sampleTrip).LeavesNoTrace ⟨.utc 1767225660000000, .ofNat⟩
      (.updateExpense (.ofNat 16) (some sampleTaxi) "Ferry" "0") := by
  refine ⟨by decide, fun h => ?_⟩
  have left := h.refused _ rfl
  revert left
  decide

end CommonPurse.OpenGroup
