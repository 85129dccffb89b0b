import CommonPurse.Proofs.Balance.Faultless
import CommonPurse.Proofs.Entry.Amount
import CommonPurse.Proofs.History.Reachable

/-!
# Amounts and times in the store

Amounts are stored in hundredths and without a sign, and times are stored with the offset zero. So
the expenses and the settlements of a group can always be put in order, and no arithmetic fails in
settling expenses that come to at most the largest amount.

## Main definitions

* `CommonPurse.Store.Memory.Contents.Regular` — amounts and times as commands write them.

## Main results

* `CommonPurse.Command.Planned.regular_writes` — commands write no others.
* `CommonPurse.Store.Memory.Reachable.regular` — there are no others in any state that the store
  comes to.
* `CommonPurse.Store.Memory.Contents.Regular.transfers_faultless` — no arithmetic fails.
-/

namespace CommonPurse

open CommonPurse.Store

/-! ## Stored amounts and times -/

/-- An expense as commands write it: its amount is a number of hundredths, and its time has the
offset zero. -/
structure Expense.Regular (e : Expense) : Prop where
  amount : ∃ k, e.amount = .finite false k (-2)
  createdAt : e.createdAt.offset = some 0

/-- An expense as commands write it. -/
lemma Expense.Regular.hundredths {e : Expense} (h : e.Regular) :
    Decimal.Hundredths (Balance.cents e.amount) e.amount := by
  obtain ⟨k, hk⟩ := h.amount
  rw [hk]
  exact .inl rfl

namespace Store

/-- A write of amounts and times as commands write them. -/
def Write.Regular : Write → Prop
  | .saveExpense e => e.Regular
  | .saveSettlement s => s.finish.offset = some 0
  | _ => True

namespace Memory.Contents

/-- The amounts and the times in the store are as commands write them. -/
structure Regular (c : Contents) : Prop where
  expenses : ∀ r ∈ c.expenses.rows, r.2.Regular
  finishes : ∀ r ∈ c.settlements.rows, r.2.finish.offset = some 0

variable {c : Contents}

lemma regular_empty : Contents.empty.Regular := by
  constructor <;> exact fun _ h => nomatch h

lemma Regular.write (h : c.Regular) {w : Write} (hw : w.Regular) : (c.write w).Regular := by
  cases w with
  | saveExpense e => exact { h with expenses := forall_rows_put h.expenses hw }
  | deleteExpense i => exact { h with expenses := forall_rows_erase h.expenses i }
  | saveSettlement s => exact { h with finishes := forall_rows_put h.finishes hw }
  | _ => exact { h with }

lemma Regular.writeAll (h : c.Regular) {ws : List Write} (hws : ∀ w ∈ ws, w.Regular) :
    (c.writeAll ws).Regular := by
  induction ws generalizing c with
  | nil => exact h
  | cons w ws ih =>
    rw [writeAll_cons]
    exact ih (h.write (hws w List.mem_cons_self)) fun x hx => hws x (List.mem_cons_of_mem _ hx)

lemma Regular.expense (h : c.Regular) {e : Expense} (he : e ∈ c.expenses.values) : e.Regular := by
  obtain ⟨r, hr, rfl⟩ := List.mem_map.mp he
  exact h.expenses r hr

lemma Regular.finish (h : c.Regular) {s : Settlement} (hs : s ∈ c.settlements.values) :
    s.finish.offset = some 0 := by
  obtain ⟨r, hr, rfl⟩ := List.mem_map.mp hs
  exact h.finishes r hr

end Memory.Contents

end Store

/-! ## What commands write -/

/-- **Commands write amounts in hundredths, and times with the offset zero.** -/
theorem Command.Planned.regular_writes {m : Memory} {o : Occasion} {c : Command} {p : Plan}
    (h : Planned m.view o c p) (hm : m.contents.Regular) (clock : o.now.offset = some 0) :
    ∀ w ∈ p.writes, w.Regular := by
  cases h with
  | createExpense loaded member created =>
    obtain ⟨t, a, -, ha, rfl⟩ := (Expense.create_eq_ok_iff ..).mp created
    intro w hw
    obtain rfl := List.mem_singleton.mp hw
    exact ⟨Entry.hundredths_of_amount ha, clock⟩
  | updateExpense loaded found editable titled priced =>
    have stored := ((Memory.view_expense_eq_ok_iff ..).mp found).2
    have old := hm.expenses _ (Table.mem_of_get? stored)
    intro w hw
    obtain rfl := List.mem_singleton.mp hw
    exact ⟨Entry.hundredths_of_amount priced, old.createdAt⟩
  | settle loaded opened latest admin balanced =>
    intro w hw
    rcases List.mem_cons.mp hw with rfl | hw
    · exact clock
    · obtain ⟨e', he', rfl⟩ := List.mem_map.mp hw
      obtain ⟨e, he, rfl⟩ := List.mem_map.mp he'
      have old := hm.expense ((Memory.mem_of_view_unsettled opened e).mp he).1
      exact ⟨old.amount, old.createdAt⟩
  | @register name email hash u created new =>
    rcases credentialWrites_cases u.email hash with h | ⟨x, h⟩ <;> simp [h, Write.Regular]
  | _ => simp [Write.Regular]

namespace Store.Memory

/-- **Amounts and times are regular in every state that the store comes to.** -/
theorem Reachable.regular {m : Memory} (h : m.Reachable) : m.contents.Regular :=
  h.invariant Contents.regular_empty (fun _ _ _ hr => { hr with })
    fun hm hseen clock planned => hm.writeAll (planned.regular_writes hseen clock)

namespace Contents.Regular

variable {m : Memory} (h : m.contents.Regular) {group : Id}

/-- Times with an offset can be put in order. -/
lemma comparable_of_isSome {times : List Timestamp} (h : ∀ t ∈ times, t.offset.isSome = true) :
    comparable times = true := by
  rw [comparable, Bool.or_eq_true, List.all_eq_true]
  exact .inl h

include h

/-- The open expenses of a group can be put in order. -/
lemma unsettled_ne_none : m.view.unsettled group ≠ .ok none := by
  have order : comparable ((openExpenses m.contents group).map (·.createdAt)) = true := by
    refine comparable_of_isSome fun t ht => ?_
    obtain ⟨e, he, rfl⟩ := List.mem_map.mp ht
    rw [(h.expense (List.mem_filter.mp he).1).createdAt]
    rfl
  simp only [view, order, if_true, reading]
  split <;> simp

/-- So can its settlements. -/
lemma lastSettlement_ne_none : m.view.lastSettlement group ≠ .ok none := by
  have order : comparable ((settlementsOf m.contents group).map (·.finish)) = true := by
    refine comparable_of_isSome fun t ht => ?_
    obtain ⟨s, hs, rfl⟩ := List.mem_map.mp ht
    rw [h.finish (List.mem_filter.mp hs).1]
    rfl
  simp only [view, order, if_true, reading]
  split <;> simp

/-- The amounts of expenses are finite. -/
lemma isFinite_of_view {i : Id} {e : Expense} (found : m.view.expense i = .ok (some e)) :
    e.amount.isFinite = true := by
  have stored := ((Memory.view_expense_eq_ok_iff ..).mp found).2
  obtain ⟨k, cents⟩ := (h.expenses _ (Table.mem_of_get? stored)).amount
  rw [cents]
  rfl

/-- **No arithmetic fails in settling the open expenses of a group**, as long as these come to at
most the largest amount. -/
theorem transfers_faultless {es : List Expense} (opened : m.view.unsettled group = .ok (some es))
    (small : Balance.totalCents (es.map Settlement.paymentOf) < 10 ^ 28) (members : List Id)
    (f : Decimal.Fault) :
    Balance.transfers (es.map Settlement.paymentOf) members ≠ .error (.arithmetic f) := by
  refine Balance.transfers_faultless members (fun p hp => ?_) small f
  obtain ⟨e, he, rfl⟩ := List.mem_map.mp hp
  exact (h.expense ((Memory.mem_of_view_unsettled opened e).mp he).1).hundredths

end Contents.Regular

end Store.Memory

end CommonPurse
