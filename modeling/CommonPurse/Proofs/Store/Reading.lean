import CommonPurse.Proofs.Store.Table
import CommonPurse.Store.Memory
import Mathlib.Data.List.Perm.Basic

/-!
# Reading the store in memory

What a read that is answered says about the contents, and that lists which are put in the order of
their times keep their items.

## Main results

* `CommonPurse.Store.Memory.view_user_eq_ok_iff`, `view_group_eq_ok_iff`, `view_expense_eq_ok_iff`
  — what single entities are.
* `CommonPurse.Store.Memory.mem_of_view_unsettled` — the open expenses of a group.
* `CommonPurse.Store.Memory.sortByTime_perm` — sorting keeps the items.
-/

namespace CommonPurse.Store.Memory

/-! ## Single entities -/

lemma reading_eq_ok_iff {α : Type} (m : Memory) (r : Repository) (a b : α) :
    m.reading r a = .ok b ↔ m.isCrashed r = false ∧ a = b := by
  unfold reading
  cases m.isCrashed r <;> simp

lemma view_user_eq_ok_iff (m : Memory) (i : Id) (u : Option User) :
    m.view.user i = .ok u ↔ m.isCrashed .users = false ∧ m.contents.users.get? i = u :=
  reading_eq_ok_iff ..

lemma view_group_eq_ok_iff (m : Memory) (i : Id) (g : Option Group) :
    m.view.group i = .ok g ↔ m.isCrashed .groups = false ∧ m.contents.groups.get? i = g :=
  reading_eq_ok_iff ..

lemma view_expense_eq_ok_iff (m : Memory) (i : Id) (e : Option Expense) :
    m.view.expense i = .ok e ↔ m.isCrashed .expenses = false ∧ m.contents.expenses.get? i = e :=
  reading_eq_ok_iff ..

/-! ## Lists in the order of their times -/

lemma insertByTime_perm {α : Type} (time : α → Timestamp) (a : α) (l : List α) :
    (insertByTime time a l).Perm (a :: l) := by
  induction l with
  | nil => exact .refl _
  | cons b rest ih =>
    unfold insertByTime
    split
    · exact .refl _
    · exact (ih.cons b).trans (.swap a b rest)

/-- A list that is put in the order of its times keeps its items. -/
lemma sortByTime_perm {α : Type} (time : α → Timestamp) (l : List α) :
    (sortByTime time l).Perm l := by
  suffices ∀ sorted, (l.foldl (fun s a => insertByTime time a s) sorted).Perm (l ++ sorted) by
    simpa [sortByTime] using this []
  induction l with
  | nil => exact fun _ => .refl _
  | cons a rest ih =>
    intro sorted
    have hstep := (ih (insertByTime time a sorted)).trans
      ((insertByTime_perm time a sorted).append_left rest)
    exact hstep.trans List.perm_middle

lemma view_unsettled_eq_ok_iff (m : Memory) (group : Id) (es : List Expense) :
    m.view.unsettled group = .ok (some es) ↔
      m.isCrashed .expenses = false ∧
        comparable ((openExpenses m.contents group).map (·.createdAt)) = true ∧
        es = sortByTime (·.createdAt) (openExpenses m.contents group) := by
  simp only [view, reading_eq_ok_iff, Option.ite_none_right_eq_some, Option.some.injEq]
  constructor
  · rintro ⟨hc, ho, rfl⟩
    exact ⟨hc, ho, rfl⟩
  · rintro ⟨hc, ho, rfl⟩
    exact ⟨hc, ho, rfl⟩

lemma mem_openExpenses (c : Contents) (group : Id) (e : Expense) :
    e ∈ openExpenses c group ↔
      e ∈ c.expenses.values ∧ e.groupId = group ∧ e.settled = false := by
  simp [openExpenses]

/-- The expenses that are read as open are the ones of the group that are not settled. -/
lemma mem_of_view_unsettled {m : Memory} {group : Id} {es : List Expense}
    (h : m.view.unsettled group = .ok (some es)) (e : Expense) :
    e ∈ es ↔ e ∈ m.contents.expenses.values ∧ e.groupId = group ∧ e.settled = false := by
  obtain ⟨-, -, rfl⟩ := (view_unsettled_eq_ok_iff ..).mp h
  rw [(sortByTime_perm _ _).mem_iff, mem_openExpenses]

lemma foldl_later_mem {α : Type} (time : α → Timestamp) (rest : List α) (best : α) :
    rest.foldl (fun best x => if (time best).instant < (time x).instant then x else best) best ∈
      best :: rest := by
  induction rest generalizing best with
  | nil => exact List.mem_singleton_self best
  | cons x rest ih =>
    rw [List.foldl_cons]
    split
    · exact List.mem_cons_of_mem _ (ih x)
    · rcases List.mem_cons.mp (ih best) with h | h
      · rw [h]
        exact List.mem_cons_self
      · exact List.mem_cons_of_mem _ (List.mem_cons_of_mem _ h)

/-- The latest item of a list is one of its items. -/
lemma mem_of_latest {α : Type} {time : α → Timestamp} {l : List α} {a : α}
    (h : latest time l = some a) : a ∈ l := by
  cases l with
  | nil => cases h
  | cons b rest =>
    rw [latest] at h
    rw [← Option.some.inj h]
    exact foldl_later_mem time rest b

/-- The settlement that is read as the last one is stored. -/
lemma mem_of_view_lastSettlement {m : Memory} {group : Id} {s : Settlement}
    (h : m.view.lastSettlement group = .ok (some (some s))) :
    s ∈ m.contents.settlements.values := by
  have read := ((reading_eq_ok_iff ..).mp h).2
  rw [Option.ite_none_right_eq_some] at read
  have mem := mem_of_latest (Option.some.inj read.2)
  exact (List.mem_filter.mp mem).1

end CommonPurse.Store.Memory
