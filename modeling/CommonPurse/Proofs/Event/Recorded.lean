import CommonPurse.Proofs.Entry.Amount
import CommonPurse.Proofs.Event.RoundTrip
import CommonPurse.Proofs.Store.Orderly

/-!
# The events that commands record

Commands record events that can be read back. The amounts in them are in hundredths and have at
most 28 digits; the times are those of the commands, and of what was stored before.

## Main definitions

* `CommonPurse.Store.Memory.Contents.Sound` — amounts and times in the store that a text can name.

## Main results

* `CommonPurse.Decimal.sound_of_toCents` — amounts in hundredths can be named.
* `CommonPurse.Balance.sound_of_transfers` — so can what is transferred.
* `CommonPurse.Command.Planned.sound_events`, `sound_writes` — so can everything that commands
  record and write.
-/

namespace CommonPurse

open CommonPurse.Store

/-! ## Amounts -/

namespace Decimal

/-- Hundredths with at most 28 digits can be named. -/
lemma sound_hundredths (n : Bool) {k : Nat} (short : k < 10 ^ 28) : (finite n k (-2)).Sound := by
  have digits := (digitCount_le_iff (c := k) (n := 28) (by decide)).mpr short
  have low : textMinExponent ≤ -2 := by decide
  have high : (-2 : Int) ≤ textMaxExponent := by decide
  have first : adjusted k (-2) ≤ textMaxExponent := by
    have : textMaxExponent = 999999999999999999 := rfl
    unfold adjusted
    omega
  show withinText k (-2) = true
  unfold withinText
  split
  · simp [low, high]
  · simp [low, first]

/-- **An amount in hundredths can be named**, unless it is no number. -/
lemma sound_of_toCents {a d : Decimal} (h : a.toCents = .ok d) (hd : d.isPositive = true) :
    d.Sound := by
  cases a with
  | nan n s p =>
    cases s with
    | true => simp [toCents, quiet] at h
    | false =>
      simp only [toCents, quiet, Bool.false_eq_true, if_false, Except.ok.injEq] at h
      rw [← h] at hd
      exact absurd hd (by simp [isPositive])
  | infinite n => simp [toCents] at h
  | finite n c e =>
    obtain ⟨q, rfl, short, -, -⟩ := toCents_spec h
    exact sound_hundredths n short

end Decimal

/-- An amount that is accepted can be named. -/
lemma Entry.sound_of_amount {value : String} {a : Decimal} (h : Entry.amount value = .ok a) :
    a.Sound := by
  obtain ⟨k, -, short, rfl⟩ := exists_of_amount h
  exact Decimal.sound_hundredths false short

/-! ## Transfers -/

namespace Balance

lemma sound_of_round {debtor creditor : Id × Decimal} {r : Round}
    (h : round debtor creditor = .ok r) : ∀ t ∈ r.transfer, t.amount.Sound := by
  unfold round at h
  cases ho : debtor.2.abs with
  | error f => simp [ho] at h
  | ok owed =>
    cases hs : smaller owed creditor.2 with
    | error f => simp [ho, hs] at h
    | ok share =>
      cases hc : share.toCents with
      | error f => simp [ho, hs, hc] at h
      | ok cents =>
        simp only [ho, hs, hc] at h
        split at h
        · cases h
        · cases h
        · rw [← Except.ok.inj h]
          intro t ht
          dsimp only at ht
          split at ht
          next positive =>
            rw [Option.mem_some_iff] at ht
            rw [← ht]
            exact Decimal.sound_of_toCents hc positive
          · cases ht

/-- The transfers of all rounds can be named.

**Proof sketch.** Induction on the iterations that are left: a round yields at most one transfer,
and the rest are those of the shorter queue. -/
lemma sound_of_pairing {fuel : Nat} {queue left : Balances} {ts : List Transfer}
    (h : pairing fuel queue = .ok (ts, left)) : ∀ t ∈ ts, t.amount.Sound := by
  induction fuel generalizing queue ts left with
  | zero =>
    simp only [pairing, Except.ok.injEq, Prod.mk.injEq] at h
    simp [← h.1]
  | succ fuel ih =>
    match queue with
    | [] =>
      simp only [pairing, Except.ok.injEq, Prod.mk.injEq] at h
      simp [← h.1]
    | [p] =>
      simp only [pairing, Except.ok.injEq, Prod.mk.injEq] at h
      simp [← h.1]
    | first :: second :: rest =>
      simp only [pairing] at h
      split at h
      · cases h
      next r hr =>
      split at h
      · cases h
      · cases h
      next front back _ _ =>
      cases hp : pairing fuel (front ++ (second :: rest).dropLast ++ back) with
      | error f =>
        rw [hp] at h
        cases h
      | ok q =>
        rw [hp] at h
        obtain ⟨rfl, -⟩ := Prod.mk.inj (Except.ok.inj h)
        intro t ht
        rcases List.mem_append.mp ht with ht | ht
        · exact sound_of_round hr t (Option.mem_toList.mp ht)
        · exact ih hp t ht

/-- **What is transferred can be named**, whatever the payments are. -/
theorem sound_of_transfers {payments : List Payment} {members : List Id} {ts : List Transfer}
    (h : transfers payments members = .ok ts) : ∀ t ∈ ts, t.amount.Sound := by
  unfold transfers at h
  cases hd : deltas payments members with
  | error f => simp [hd] at h
  | ok ds =>
    simp only [hd, transfersOf] at h
    split at h
    · rw [← Except.ok.inj h]
      simp
    · split at h
      · cases h
      split at h
      · cases h
      · cases h
      split at h
      · cases h
      next queue hp =>
      split at h
      · cases h
      · rw [← Except.ok.inj h]
        exact sound_of_pairing hp

end Balance

/-! ## Stored amounts and times -/

namespace Store

/-- A write of amounts and times that a text can name. -/
def Write.Sound : Write → Prop
  | .saveExpense e => e.amount.Sound
  | .saveSettlement s => s.finish.Sound
  | _ => True

namespace Memory.Contents

/-- The amounts of expenses and the times of settlements are among those that a text can name. -/
structure Sound (c : Contents) : Prop where
  amounts : ∀ r ∈ c.expenses.rows, r.2.amount.Sound
  finishes : ∀ r ∈ c.settlements.rows, r.2.finish.Sound

variable {c : Contents}

lemma sound_empty : Contents.empty.Sound := by
  constructor <;> exact fun _ h => nomatch h

lemma Sound.write (h : c.Sound) {w : Write} (hw : w.Sound) : (c.write w).Sound := by
  cases w with
  | saveExpense e => exact { h with amounts := forall_rows_put h.amounts hw }
  | deleteExpense i => exact { h with amounts := forall_rows_erase h.amounts i }
  | saveSettlement s => exact { h with finishes := forall_rows_put h.finishes hw }
  | _ => exact { h with }

lemma Sound.writeAll (h : c.Sound) {ws : List Write} (hws : ∀ w ∈ ws, w.Sound) :
    (c.writeAll ws).Sound := by
  induction ws generalizing c with
  | nil => exact h
  | cons w ws ih =>
    rw [writeAll_cons]
    exact ih (h.write (hws w List.mem_cons_self)) fun x hx => hws x (List.mem_cons_of_mem _ hx)

/-- A stored expense has an amount that can be named. -/
lemma Sound.amount (h : c.Sound) {e : Expense} (he : e ∈ c.expenses.values) : e.amount.Sound := by
  obtain ⟨r, hr, rfl⟩ := List.mem_map.mp he
  exact h.amounts r hr

/-- A stored settlement has a time that can be named. -/
lemma Sound.finish (h : c.Sound) {s : Settlement} (hs : s ∈ c.settlements.values) :
    s.finish.Sound := by
  obtain ⟨r, hr, rfl⟩ := List.mem_map.mp hs
  exact h.finishes r hr

end Memory.Contents

end Store

/-! ## What commands write and record -/

namespace Command.Planned

variable {m : Memory} {o : Occasion} {c : Command} {p : Plan}

/-- Nothing about a hash has an amount or a time. -/
lemma sound_credentialWrites (email : String) (hash : Option String) :
    ∀ w ∈ credentialWrites email hash, w.Sound := by
  rcases credentialWrites_cases email hash with h | ⟨x, h⟩ <;> simp [h, Write.Sound]

/-- **What commands write can be named.** -/
theorem sound_writes (h : Planned m.view o c p) (hm : m.contents.Sound) (ho : o.now.Sound) :
    ∀ w ∈ p.writes, w.Sound := by
  cases h with
  | createExpense loaded member created =>
    obtain ⟨t, a, -, ha, rfl⟩ := (Expense.create_eq_ok_iff ..).mp created
    intro w hw
    obtain rfl := List.mem_singleton.mp hw
    exact Entry.sound_of_amount ha
  | updateExpense loaded found editable titled priced =>
    intro w hw
    obtain rfl := List.mem_singleton.mp hw
    exact Entry.sound_of_amount priced
  | settle loaded opened latest admin balanced =>
    intro w hw
    rcases List.mem_cons.mp hw with rfl | hw
    · exact ho
    · obtain ⟨e', he', rfl⟩ := List.mem_map.mp hw
      obtain ⟨e, he, rfl⟩ := List.mem_map.mp he'
      have amount := hm.amount ((Memory.mem_of_view_unsettled opened e).mp he).1
      exact amount
  | register created new =>
    intro w hw
    rcases List.mem_cons.mp hw with rfl | hw
    · trivial
    · exact sound_credentialWrites _ _ w hw
  | _ => simp [Write.Sound]

/-- **The events that commands record can be read back.** -/
theorem sound_events (h : Planned m.view o c p) (hm : m.contents.Sound) (ho : o.now.Sound) :
    ∀ e ∈ p.events, e.Sound := by
  cases h with
  | createExpense loaded member created =>
    obtain ⟨t, a, -, ha, rfl⟩ := (Expense.create_eq_ok_iff ..).mp created
    intro e he
    obtain rfl := List.mem_singleton.mp he
    exact ⟨ho, Entry.sound_of_amount ha, ho⟩
  | updateExpense loaded found editable titled priced =>
    have stored := ((Memory.view_expense_eq_ok_iff ..).mp found).2
    intro e he
    obtain rfl := List.mem_singleton.mp he
    exact ⟨ho, hm.amounts _ (Table.mem_of_get? stored), Entry.sound_of_amount priced⟩
  | @settle user group g es last ts loaded opened latest admin balanced =>
    have start : ∀ t ∈ last.map (·.finish), t.Sound := by
      intro t ht
      obtain ⟨s, rfl, rfl⟩ := Option.map_eq_some_iff.mp ht
      exact hm.finish (Memory.mem_of_view_lastSettlement latest)
    intro e he
    obtain rfl := List.mem_singleton.mp he
    exact ⟨ho, start, ho, Balance.sound_of_transfers balanced⟩
  | _ =>
    intro e he
    obtain rfl := List.mem_singleton.mp he
    exact ⟨ho, trivial⟩

end Command.Planned

end CommonPurse
