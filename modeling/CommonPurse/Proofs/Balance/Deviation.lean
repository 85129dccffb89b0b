import CommonPurse.Proofs.Balance.Deltas
import Mathlib.Algebra.BigOperators.Group.Multiset.Basic

/-!
# How far off people are in the end

What somebody has paid less the average, together with what is transferred, comes to the balance
that pairing leaves, and to everything that a transfer moves differently from the balance: a
transfer is rounded to hundredths, while the balance moves by the share. Whether somebody ends
up within a hundredth of the average is therefore a matter of how these differences add up.

## Main definitions

* `CommonPurse.Balance.paidBy`, `receivedBy` — what somebody pays and is paid in transfers.
* `CommonPurse.Balance.WithinCent` — everybody ends up within a hundredth of the average.
* `CommonPurse.Balance.Turn.transferred`, `Turn.booked` — what a turn moves for somebody, by the
  transfer and by the balance.
* `CommonPurse.Balance.balanceAfter` — what balance somebody has after some turns.

## Main results

* `CommonPurse.Balance.Course.balanceAfter_eq` — balances are kept from turn to turn.
* `CommonPurse.Balance.withinCent_iff` — when everybody ends up within a hundredth.
* `CommonPurse.Balance.not_withinCent_sampleTickets` — not everybody always does.
-/

namespace CommonPurse.Balance

open Decimal

/-! ## What changes hands -/

/-- What somebody pays in transfers. -/
def paidBy (i : Id) (ts : List Transfer) : ℚ :=
  ((ts.filter fun t => t.payer = i).map fun t => t.amount.value).sum

/-- What somebody is paid in transfers. -/
def receivedBy (i : Id) (ts : List Transfer) : ℚ :=
  ((ts.filter fun t => t.payee = i).map fun t => t.amount.value).sum

/-- With the transfers, everybody has paid the average up to a hundredth. -/
def WithinCent (ds : Balances) (ts : List Transfer) : Prop :=
  ∀ p ∈ ds, |p.2.value + paidBy p.1 ts - receivedBy p.1 ts| ≤ 1 / 100

namespace Turn

/-- What is transferred in a turn. -/
def amount (t : Turn) : ℚ := (t.round.transfer.map fun x => x.amount.value).getD 0

/-- What the transfer of a turn moves for somebody: up for who pays, down for who is paid. -/
def transferred (i : Id) (t : Turn) : ℚ :=
  (if t.debtor.1 = i then t.amount else 0) - (if t.creditor.1 = i then t.amount else 0)

/-- What the balance of somebody moves by in a turn. -/
def booked (i : Id) (t : Turn) : ℚ :=
  (if t.debtor.1 = i then t.round.debtor.value - t.debtor.2.value else 0) +
    (if t.creditor.1 = i then t.round.creditor.value - t.creditor.2.value else 0)

end Turn

/-- The balance of somebody after some turns. -/
def balanceAfter (i : Id) (before : ℚ) (ts : List Turn) : ℚ :=
  ts.foldl (fun a t =>
    if t.debtor.1 = i then t.round.debtor.value
    else if t.creditor.1 = i then t.round.creditor.value
    else a) before

variable {queue next left : Balances} {t : Turn} {ts : List Turn}

/-! ## Transfers -/

lemma paidBy_append (i : Id) (xs ys : List Transfer) :
    paidBy i (xs ++ ys) = paidBy i xs + paidBy i ys := by
  simp [paidBy]

lemma receivedBy_append (i : Id) (xs ys : List Transfer) :
    receivedBy i (xs ++ ys) = receivedBy i xs + receivedBy i ys := by
  simp [receivedBy]

/-- The transfer of a turn is between the two who take part in it. -/
lemma Turn.Plays.transferred_eq (h : t.Plays queue next) (i : Id) :
    paidBy i t.round.transfer.toList - receivedBy i t.round.transfer.toList = t.transferred i := by
  cases made : t.round.transfer with
  | none => simp [paidBy, receivedBy, Turn.transferred, Turn.amount, made]
  | some x =>
    obtain ⟨payer, payee, -⟩ := h.settles.transfer x made
    rw [Turn.transferred, Turn.amount, made, ← payer, ← payee]
    by_cases pays : x.payer = i <;> by_cases paid : x.payee = i <;>
      simp [paidBy, receivedBy, pays, paid]

/-- What somebody pays and is paid in the course of pairing. -/
lemma Course.transferred_eq {fuel : Nat} (h : Course fuel queue ts left) (i : Id) :
    paidBy i (made ts) - receivedBy i (made ts) = (ts.map (Turn.transferred i)).sum := by
  induction h with
  | exhausted => simp [made, paidBy, receivedBy]
  | ended => simp [made, paidBy, receivedBy]
  | @turn fuel queue next left t ts plays _ ih =>
    have split : made (t :: ts) = t.round.transfer.toList ++ made ts := rfl
    rw [split, paidBy_append, receivedBy_append, List.map_cons, List.sum_cons, ← ih,
      ← plays.transferred_eq i]
    ring

/-! ## Balances -/

/-- Where everybody is in the queue once, a turn changes the balances of two people. -/
lemma Turn.Plays.mem_iff (h : t.Plays queue next) (distinct : (queue.map (·.1)).Nodup)
    {p : Id × Decimal} : p ∈ next ↔
      p ∈ remaining t.debtor.1 t.round.debtor ∨ p ∈ remaining t.creditor.1 t.round.creditor ∨
        p ∈ queue ∧ p.1 ≠ t.debtor.1 ∧ p.1 ≠ t.creditor.1 := by
  obtain ⟨between, rfl, rfl⟩ := h.exists_between
  rw [List.map_cons, List.map_append, List.nodup_cons, List.nodup_append'] at distinct
  obtain ⟨fresh, -, -, apart⟩ := distinct
  simp only [List.mem_append]
  constructor
  · rintro ((hp | hp) | hp)
    · exact .inl hp
    · have there : p.1 ∈ between.map (·.1) := List.mem_map_of_mem hp
      refine .inr (.inr ⟨by simp [hp], fun same => fresh ?_, fun same => apart there ?_⟩)
      · exact List.mem_append_left _ (same ▸ there)
      · simp [same]
    · exact .inr (.inl hp)
  · rintro (hp | hp | ⟨hp, other, other'⟩)
    · exact .inl (.inl hp)
    · exact .inr hp
    · simp only [List.mem_cons, List.mem_append, List.not_mem_nil, or_false] at hp
      rcases hp with rfl | hp | rfl
      · exact absurd rfl other
      · exact .inl (.inr hp)
      · exact absurd rfl other'

/-- The balance of somebody after one turn. -/
def Turn.leaves (i : Id) (before : ℚ) (t : Turn) : ℚ :=
  if t.debtor.1 = i then t.round.debtor.value
  else if t.creditor.1 = i then t.round.creditor.value
  else before

lemma balanceAfter_cons (i : Id) (a : ℚ) (t : Turn) (ts : List Turn) :
    balanceAfter i a (t :: ts) = balanceAfter i (t.leaves i a) ts := rfl

/-- What a turn leaves of a balance is what the balance was before and what it has moved by. -/
lemma Turn.leaves_eq {i : Id} {a : ℚ} (apart : t.debtor.1 ≠ t.creditor.1)
    (first : t.debtor.1 = i → t.debtor.2.value = a)
    (last : t.creditor.1 = i → t.creditor.2.value = a) : t.leaves i a = a + t.booked i := by
  unfold leaves booked
  by_cases pays : t.debtor.1 = i
  · have other : t.creditor.1 ≠ i := fun same => apart (pays.trans same.symm)
    rw [if_pos pays, if_pos pays, if_neg other, first pays]
    ring
  · rw [if_neg pays, if_neg pays]
    by_cases paid : t.creditor.1 = i
    · rw [if_pos paid, if_pos paid, last paid]
      ring
    · rw [if_neg paid, if_neg paid]
      ring

/-- Whoever is in the queue after a turn has the balance that the turn leaves. -/
lemma Turn.Plays.leaves_eq (h : t.Plays queue next) (distinct : (queue.map (·.1)).Nodup)
    (apart : t.debtor.1 ≠ t.creditor.1) {i : Id} {a : ℚ}
    (known : ∀ p ∈ queue, p.1 = i → p.2.value = a) {p : Id × Decimal} (hp : p ∈ next)
    (same : p.1 = i) : p.2.value = t.leaves i a := by
  subst same
  unfold leaves
  rcases (h.mem_iff distinct).mp hp with hp | hp | ⟨old, other, other'⟩
  · rw [mem_remaining hp, if_pos rfl]
  · rw [mem_remaining hp, if_neg apart, if_pos rfl]
  · rw [if_neg other.symm, if_neg other'.symm, known p old rfl]

/-- **Balances are kept from turn to turn**: what somebody has after some turns is what the balance
was before them and what it has moved by in each of them. -/
theorem Course.balanceAfter_eq {fuel : Nat} (h : Course fuel queue ts left)
    (distinct : (queue.map (·.1)).Nodup) {i : Id} {a : ℚ}
    (known : ∀ p ∈ queue, p.1 = i → p.2.value = a) :
    balanceAfter i a ts = a + (ts.map (Turn.booked i)).sum := by
  induction h generalizing a with
  | exhausted => simp [balanceAfter]
  | ended => simp [balanceAfter]
  | @turn fuel queue next left t ts plays rest ih =>
    have apart := (Course.turn plays rest).debtor_ne_creditor distinct List.mem_cons_self
      List.mem_cons_self
    have moved := Turn.leaves_eq apart (known _ plays.debtor_mem) (known _ plays.creditor_mem)
    have kept := ih (distinct.sublist plays.sublist) fun p hp same =>
      plays.leaves_eq distinct apart known hp same
    rw [balanceAfter_cons, kept, moved, List.map_cons, List.sum_cons, add_assoc]

/-! ## In the end -/

/-- **When everybody ends up within a hundredth of the average**: exactly when for everybody the
balance in the end, and what transfers move differently from balances, come to at most a
hundredth. -/
theorem withinCent_iff {payments : List Payment} {members : List Id} {ds : Balances}
    {ts : List Transfer} (entered : Entered payments) (hds : deltas payments members = .ok ds)
    (hts : transfers payments members = .ok ts) :
    WithinCent ds ts ↔ ∀ p ∈ ds, |balanceAfter p.1 p.2.value (turnsOf ds) +
      ((turnsOf ds).map fun t => t.transferred p.1 - t.booked p.1).sum| ≤ 1 / 100 := by
  have ledger := ledger_deltas entered hds
  rw [transfers, hds] at hts
  obtain ⟨left, course, -, rfl⟩ := ledger.exists_course hts
  refine forall₂_congr fun p hp => ?_
  have known : ∀ q ∈ ds.mergeSort orderByAmount, q.1 = p.1 → q.2.value = p.2.value := by
    intro q hq same
    rw [← amountOf_eq ledger.distinct hp, ← same,
      amountOf_eq ledger.distinct (List.mem_mergeSort.mp hq)]
  have kept := course.balanceAfter_eq ledger.nodup_mergeSort known
  have differences : ((turnsOf ds).map fun t => t.transferred p.1 - t.booked p.1).sum =
      ((turnsOf ds).map (Turn.transferred p.1)).sum - ((turnsOf ds).map (Turn.booked p.1)).sum :=
    Multiset.sum_map_sub (m := (turnsOf ds : Multiset Turn))
  rw [add_sub_assoc, course.transferred_eq p.1, kept, differences, add_assoc, add_sub_cancel]

/-- On the trip everybody ends up within a hundredth of the average. -/
theorem withinCent_sampleTrip :
    Entered sampleTrip ∧ deltas sampleTrip sampleTravellers = .ok sampleTripDeltas ∧
      transfers sampleTrip sampleTravellers = .ok (made sampleTripTurns) ∧
      WithinCent sampleTripDeltas (made sampleTripTurns) := by
  refine ⟨entered_sampleTrip, deltas_sampleTrip, transfers_sampleTrip, ?_⟩
  refine (withinCent_iff entered_sampleTrip deltas_sampleTrip transfers_sampleTrip).mpr ?_
  rw [turnsOf_sampleTripDeltas]
  decide +kernel

/-! ## Who is not given anything back -/

/-- One of four people has paid two hundredths. -/
def sampleTickets : List Payment := [⟨.ofNat 4, .finite false 2 (-2)⟩]

/-- The four people. -/
def sampleVisitors : List Id := [.ofNat 1, .ofNat 2, .ofNat 3, .ofNat 4]

/-- Three of them owe half a hundredth each. -/
def sampleTicketDeltas : Balances :=
  [(.ofNat 1, .finite true 5 (-3)), (.ofNat 2, .finite true 5 (-3)),
    (.ofNat 3, .finite true 5 (-3)), (.ofNat 4, .finite false 15 (-3))]

/-- **Somebody may end up further than a hundredth from the average.** Each of three turns settles
half a hundredth, which rounding to hundredths makes nothing of, so nothing is transferred. -/
theorem not_withinCent_sampleTickets :
    Entered sampleTickets ∧ deltas sampleTickets sampleVisitors = .ok sampleTicketDeltas ∧
      transfers sampleTickets sampleVisitors = .ok [] ∧ ¬ WithinCent sampleTicketDeltas [] := by
  have found : deltas sampleTickets sampleVisitors = .ok sampleTicketDeltas := by rfl
  have sorted : sampleTicketDeltas.mergeSort orderByAmount = sampleTicketDeltas :=
    List.mergeSort_of_pairwise (by decide)
  refine ⟨fun p hp => ?_, found, ?_, fun within => ?_⟩
  · obtain rfl := List.mem_singleton.mp hp
    exact ⟨"0.02", rfl⟩
  · simp only [transfers, found, transfersOf, sorted]
    rfl
  · have far := within (.ofNat 4, .finite false 15 (-3)) (by decide)
    have value : (Decimal.finite false 15 (-3)).value = 15 / 1000 := by
      norm_num [Decimal.value, size]
    rw [value] at far
    norm_num [paidBy, receivedBy] at far

end CommonPurse.Balance
