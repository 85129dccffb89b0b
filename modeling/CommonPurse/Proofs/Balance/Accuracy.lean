import CommonPurse.Proofs.Balance.Convergence
import CommonPurse.Proofs.Balance.Deviation

/-!
# How far off people can end up

Every turn that somebody takes part in may cost half a hundredth, because transfers are rounded to
hundredths. Beside that, balances within the margin are dropped, a thousandth at most for everybody,
and all that is dropped may be missing in the balance of the last who is left. When everybody who is
left owes something, nobody is paid any more, and nobody is owed more than has been dropped.

## Main definitions

* `CommonPurse.Balance.turnsWith` — how many turns somebody takes part in.

## Main results

* `CommonPurse.Balance.Course.deviation_le` — how far off people are after a course of pairing.
* `CommonPurse.Balance.deviation_le` — how far off people end up.
* `CommonPurse.Balance.withinCent_of_two` — two people end up within a hundredth.
-/

namespace CommonPurse.Balance

open Decimal

/-- How many turns somebody takes part in. -/
def turnsWith (i : Id) (ts : List Turn) : ℕ :=
  ts.countP fun t => t.debtor.1 = i ∨ t.creditor.1 = i

variable {delta : Id → ℚ} {queue next left : Balances} {t : Turn} {ts : List Turn}

/-! ## One turn -/

namespace Round.Settles

variable (h : t.round.Settles t.debtor t.creditor)

include h

/-- Nothing is transferred when there is nothing to share. -/
lemma amount_eq_zero (none : share t.debtor t.creditor ≤ 0) : t.amount = 0 := by
  have empty : t.round.transfer = .none := by
    rw [← Option.not_isSome_iff_eq_none, h.transfer_isSome]
    linarith
  rw [Turn.amount, empty]
  rfl

/-- The share is transferred, up to half a hundredth. -/
lemma abs_amount_sub_le (nonneg : 0 ≤ share t.debtor t.creditor) :
    |t.amount - share t.debtor t.creditor| ≤ 1 / 200 := by
  cases made : t.round.transfer with
  | none =>
    have small : ¬ 1 / 200 < share t.debtor t.creditor := by
      rw [← h.transfer_isSome, made]
      simp
    have zero : t.amount = 0 := by rw [Turn.amount, made]; rfl
    rw [zero, zero_sub, abs_neg, abs_of_nonneg nonneg]
    exact not_lt.mp small
  | some x =>
    have same : t.amount = x.amount.value := by rw [Turn.amount, made]; rfl
    rw [same]
    exact h.transfer_near x made

end Round.Settles

/-- Dropping a balance costs a thousandth at most. -/
lemma abs_net_remaining_sub_le (i : Id) (a : Decimal) :
    |net (remaining i a) - a.value| ≤ (1 - ((remaining i a).length : ℚ)) / 1000 := by
  rcases remaining_cases i a with ⟨same, small⟩ | ⟨same, -⟩
  · simpa [same] using small
  · simp [same]

namespace Turn.Plays

variable (h : t.Plays queue next)

include h

/-- What everybody has together changes by what is dropped, up to rounding. -/
lemma abs_net_sub_le : |net next - net queue| ≤
    (2 - (t.staying : ℚ)) / 1000 + unitError * (|t.debtor.2.value| + |t.creditor.2.value|) := by
  have front := abs_net_remaining_sub_le t.debtor.1 t.round.debtor
  have back := abs_net_remaining_sub_le t.creditor.1 t.round.creditor
  have kept := h.settles.abs_net_sub_le
  rw [h.sums.2.2, staying]
  rw [abs_le] at front back kept ⊢
  push_cast
  constructor <;> linarith

/-- What the transfer moves is what the balance moves, up to half a hundredth. -/
lemma abs_transferred_sub_le (apart : t.debtor.1 ≠ t.creditor.1)
    (nonneg : 0 ≤ share t.debtor t.creditor) (i : Id) :
    |t.transferred i - t.booked i| ≤ (turnsWith i [t] : ℚ) *
      (1 / 200 + unitError * (|t.debtor.2.value| + |t.creditor.2.value|)) := by
  have off := h.settles.abs_amount_sub_le nonneg
  have most := mul_le_mul_of_nonneg_left (abs_share_le t.debtor t.creditor) unitError_pos.le
  rw [mul_add] at most
  have unit := unitError_pos.le
  unfold turnsWith transferred booked
  by_cases pays : t.debtor.1 = i
  · have other : t.creditor.1 ≠ i := fun same => apart (pays.trans same.symm)
    have near : |t.round.debtor.value - (t.debtor.2.value + share t.debtor t.creditor)| ≤
      unitError * |t.debtor.2.value + share t.debtor t.creditor| := h.settles.near_debtor
    have rest := mul_nonneg unit (abs_nonneg (t.creditor.2.value - share t.debtor t.creditor))
    simp only [pays, other, if_true, if_false, List.countP_singleton, true_or, decide_true]
    rw [abs_le] at off near ⊢
    norm_num
    constructor <;> linarith
  · by_cases paid : t.creditor.1 = i
    · have near : |t.round.creditor.value - (t.creditor.2.value - share t.debtor t.creditor)| ≤
        unitError * |t.creditor.2.value - share t.debtor t.creditor| := h.settles.near_creditor
      have rest := mul_nonneg unit (abs_nonneg (t.debtor.2.value + share t.debtor t.creditor))
      simp only [pays, paid, if_true, if_false, List.countP_singleton, or_true, decide_true]
      rw [abs_le] at off near ⊢
      norm_num
      constructor <;> linarith
    · simp [pays, paid]

/-- Who is in the queue before a turn is in it afterwards, or has been settled. -/
lemma stays_or_settled (distinct : (queue.map (·.1)).Nodup) (apart : t.debtor.1 ≠ t.creditor.1)
    {p : Id × Decimal} (hp : p ∈ queue) :
    (∃ x, (p.1, x) ∈ next ∧ x.value = t.leaves p.1 p.2.value) ∨
      |t.leaves p.1 p.2.value| ≤ 1 / 1000 ∧ p.1 ∉ next.map (·.1) := by
  unfold leaves
  by_cases pays : t.debtor.1 = p.1
  · rw [if_pos pays]
    rcases remaining_cases t.debtor.1 t.round.debtor with ⟨gone, small⟩ | ⟨stays, -⟩
    · refine .inr ⟨small, fun there => ?_⟩
      obtain ⟨q, hq, same⟩ := List.mem_map.mp there
      rcases (h.mem_iff distinct).mp hq with hq | hq | ⟨-, other, -⟩
      · simp [gone] at hq
      · exact apart (by rw [pays, ← same, mem_remaining hq])
      · exact other (same.trans pays.symm)
    · have kept : (p.1, t.round.debtor) ∈ remaining t.debtor.1 t.round.debtor := by
        rw [stays, pays]
        exact List.mem_singleton_self _
      exact .inl ⟨_, (h.mem_iff distinct).mpr (.inl kept), rfl⟩
  rw [if_neg pays]
  by_cases paid : t.creditor.1 = p.1
  · rw [if_pos paid]
    rcases remaining_cases t.creditor.1 t.round.creditor with ⟨gone, small⟩ | ⟨stays, -⟩
    · refine .inr ⟨small, fun there => ?_⟩
      obtain ⟨q, hq, same⟩ := List.mem_map.mp there
      rcases (h.mem_iff distinct).mp hq with hq | hq | ⟨-, -, other⟩
      · exact apart (by rw [paid, ← same, mem_remaining hq])
      · simp [gone] at hq
      · exact other (same.trans paid.symm)
    · have kept : (p.1, t.round.creditor) ∈ remaining t.creditor.1 t.round.creditor := by
        rw [stays, paid]
        exact List.mem_singleton_self _
      exact .inl ⟨_, (h.mem_iff distinct).mpr (.inr (.inl kept)), rfl⟩
  · rw [if_neg paid]
    have kept := (h.mem_iff distinct).mpr (.inr (.inr ⟨hp, Ne.symm pays, Ne.symm paid⟩))
    exact .inl ⟨p.2, kept, rfl⟩

end Turn.Plays

/-! ## Who has no part in what follows -/

/-- Nothing is transferred to or from somebody who is not in the queue. -/
lemma Course.transferred_eq_zero {fuel : ℕ} (h : Course fuel queue ts left) {i : Id}
    (gone : i ∉ queue.map (·.1)) : (ts.map (Turn.transferred i)).sum = 0 := by
  refine List.sum_eq_zero fun x hx => ?_
  obtain ⟨t, ht, rfl⟩ := List.mem_map.mp hx
  obtain ⟨front, back⟩ := h.mem_ends ht
  have first : t.debtor.1 ≠ i := fun same => gone (same ▸ List.mem_of_mem_dropLast front)
  have last : t.creditor.1 ≠ i := fun same => gone (same ▸ List.mem_of_mem_tail back)
  rw [Turn.transferred, if_neg first, if_neg last, sub_zero]

/-- Nothing is transferred any more when nobody is owed anything. -/
lemma Course.amount_eq_zero {fuel : ℕ} (h : Course fuel queue ts left)
    (nonpos : ∀ p ∈ queue, p.2.value ≤ 0) : ∀ t ∈ ts, t.amount = 0 := by
  induction h with
  | exhausted => simp
  | ended => simp
  | @turn fuel queue next left t ts plays _ ih =>
    have first := nonpos _ plays.debtor_mem
    have last := nonpos _ plays.creditor_mem
    have later : ∀ p ∈ next, p.2.value ≤ 0 := by
      intro p hp
      rcases plays.mem_cases hp with rfl | rfl | hp
      · exact plays.settles.debtor_nonpos first
      · exact (plays.settles.creditor_eq_zero (last.trans (abs_nonneg _))).le
      · exact nonpos p hp
    refine List.forall_mem_cons.mpr ⟨?_, ih later⟩
    exact plays.settles.amount_eq_zero ((min_le_right _ _).trans last)

/-- Those who are owed nothing do not owe less together than one of them. -/
lemma net_le_of_nonpos {b : Balances} (nonpos : ∀ p ∈ b, p.2.value ≤ 0) :
    net b ≤ 0 ∧ ∀ p ∈ b, net b ≤ p.2.value := by
  induction b with
  | nil => simp
  | cons q rest ih =>
    obtain ⟨first, others⟩ := List.forall_mem_cons.mp nonpos
    obtain ⟨sum, each⟩ := ih others
    rw [net_cons]
    refine ⟨by linarith, List.forall_mem_cons.mpr ⟨by linarith, fun p hp => ?_⟩⟩
    linarith [each p hp]

/-- Nobody is further off than all together when nobody is owed anything. -/
lemma Course.abs_le_of_nonpos {fuel : ℕ} (h : Course fuel queue ts left)
    (nonpos : ∀ p ∈ queue, p.2.value ≤ 0) {bound : ℚ} (off : |net queue| ≤ bound)
    {p : Id × Decimal} (hp : p ∈ queue) :
    |p.2.value + (ts.map (Turn.transferred p.1)).sum| ≤ bound := by
  have none : (ts.map (Turn.transferred p.1)).sum = 0 := by
    refine List.sum_eq_zero fun x hx => ?_
    obtain ⟨t, ht, rfl⟩ := List.mem_map.mp hx
    simp [Turn.transferred, h.amount_eq_zero nonpos t ht]
  have least := (net_le_of_nonpos nonpos).2 p hp
  rw [none, add_zero, abs_of_nonpos (nonpos p hp)]
  linarith [neg_abs_le (net queue)]

/-- Where the last owes something, everybody does. -/
lemma Sides.nonpos_of_neg (h : Sides delta queue) (plays : t.Plays queue next)
    (hg : t.creditor.2.value < 0) : ∀ p ∈ queue, p.2.value ≤ 0 := by
  have less : delta t.creditor.1 < 0 := by
    by_contra more
    exact hg.not_ge (h.nonneg _ plays.creditor_mem (not_lt.mp more))
  exact fun p hp => h.nonpos p hp ((h.le_delta plays hp).trans less.le)

/-! ## A course of pairing -/

lemma turnsWith_cons (i : Id) (t : Turn) (ts : List Turn) :
    turnsWith i (t :: ts) = turnsWith i [t] + turnsWith i ts := by
  rw [← List.singleton_append]
  exact List.countP_append

/-- Whoever is left alone has what is left of everything. -/
lemma abs_value_le_of_short (short : queue.length ≤ 1) {bound : ℚ} (off : |net queue| ≤ bound)
    {p : Id × Decimal} (hp : p ∈ queue) :
    |p.2.value| ≤ bound + ((queue.length : ℚ) - 1) / 1000 := by
  match queue with
  | [] => cases hp
  | [q] =>
    obtain rfl := List.mem_singleton.mp hp
    simpa using off
  | _ :: _ :: _ => simp at short

/-- **How far off people are after a course of pairing.** What the balances come to in the
beginning may be missing in the end, and a thousandth for everybody else; each turn of theirs costs
half a hundredth; and what rounding takes is small. -/
theorem Course.deviation_le {fuel : ℕ} (h : Course fuel queue ts left) (sides : Sides delta queue)
    (distinct : (queue.map (·.1)).Nodup) (short : left.length ≤ 1) {unit bound : ℚ}
    (nonneg : 0 ≤ unit) (room : unitError * (gross queue + ts.length * unit) ≤ unit)
    (off : |net queue| ≤ bound) {p : Id × Decimal} (hp : p ∈ queue) :
    |p.2.value + (ts.map (Turn.transferred p.1)).sum| ≤
      bound + ((queue.length : ℚ) - 1) / 1000 + (turnsWith p.1 ts : ℚ) / 200 +
        2 * ts.length * unit := by
  induction h generalizing bound p with
  | exhausted => simpa [turnsWith] using abs_value_le_of_short short off hp
  | ended few => simpa [turnsWith] using abs_value_le_of_short few off hp
  | @turn fuel queue next left t ts plays rest ih =>
    have apart := (Course.turn plays rest).debtor_ne_creditor distinct List.mem_cons_self
      List.mem_cons_self
    have two : (2 : ℚ) ≤ queue.length := by exact_mod_cast plays.two_le_length
    have count : (next.length : ℚ) + 2 = queue.length + t.staying := by
      exact_mod_cast plays.sums.1
    have bound_nonneg := (abs_nonneg _).trans off
    have later_nonneg : 0 ≤ 2 * (ts.length : ℚ) * unit := by positivity
    have with_nonneg : 0 ≤ (turnsWith p.1 ts : ℚ) := Nat.cast_nonneg _
    have with_nonneg' : 0 ≤ (turnsWith p.1 [t] : ℚ) := Nat.cast_nonneg _
    rw [List.length_cons] at room ⊢
    rw [turnsWith_cons]
    push_cast at room ⊢
    rcases lt_or_ge t.creditor.2.value 0 with hg | hg
    · -- Everybody owes something: nobody is paid any more.
      have close := (Course.turn plays rest).abs_le_of_nonpos (sides.nonpos_of_neg plays hg) off hp
      linarith
    have unit_pos := unitError_pos
    have error : unitError * (|t.debtor.2.value| + |t.creditor.2.value|) ≤ unit := by
      refine le_trans (mul_le_mul_of_nonneg_left ?_ unit_pos.le) room
      have turns_nonneg : 0 ≤ ((ts.length : ℚ) + 1) * unit := by positivity
      linarith [plays.pair_le_gross]
    have off' : |net next| ≤ bound + unit + (2 - (t.staying : ℚ)) / 1000 := by
      have split := abs_add_le (net next - net queue) (net queue)
      rw [sub_add_cancel] at split
      linarith [plays.abs_net_sub_le]
    have room' : unitError * (gross next + ts.length * unit) ≤ unit := by
      refine le_trans (mul_le_mul_of_nonneg_left ?_ unit_pos.le) room
      linarith [plays.sums.2.1, plays.settles.gross_le]
    have moved : |t.transferred p.1 - t.booked p.1| ≤ (turnsWith p.1 [t] : ℚ) / 200 + unit := by
      have one : (turnsWith p.1 [t] : ℚ) ≤ 1 := by
        exact_mod_cast (List.countP_le_length : _ ≤ [t].length)
      have costs := plays.abs_transferred_sub_le apart (le_min (abs_nonneg _) hg) p.1
      refine costs.trans ?_
      rw [mul_add]
      exact add_le_add (by linarith)
        ((mul_le_of_le_one_left (mul_nonneg unit_pos.le (by positivity)) one).trans error)
    have same {q : Id × Decimal} (hq : q ∈ queue) (id : q.1 = p.1) : q.2.value = p.2.value := by
      rw [List.inj_on_of_nodup_map distinct hq hp id]
    have leaves := Turn.leaves_eq apart (same plays.debtor_mem) (same plays.creditor_mem)
    rw [List.map_cons, List.sum_cons]
    rcases plays.stays_or_settled distinct apart hp with ⟨x, there, kept⟩ | ⟨small, gone⟩
    · have later := ih (sides.plays plays) (distinct.sublist plays.sublist) short room' off' there
      rw [kept, leaves] at later
      have split := abs_add_le (p.2.value + t.booked p.1 + (ts.map (Turn.transferred p.1)).sum)
        (t.transferred p.1 - t.booked p.1)
      rw [show p.2.value + t.booked p.1 + (ts.map (Turn.transferred p.1)).sum +
        (t.transferred p.1 - t.booked p.1) =
        p.2.value + (t.transferred p.1 + (ts.map (Turn.transferred p.1)).sum) by ring] at split
      linarith
    · rw [rest.transferred_eq_zero gone, add_zero]
      rw [leaves] at small
      have split := abs_add_le (p.2.value + t.booked p.1) (t.transferred p.1 - t.booked p.1)
      rw [add_add_sub_cancel] at split
      linarith

/-! ## In the end -/

section End

variable {payments : List Payment} {members : List Id} {ds : Balances} {xs : List Transfer}
  (entered : Entered payments)
  (few : ((people payments members).length : ℚ) * totalPaid payments ≤ 10 ^ 20)
  (hds : deltas payments members = .ok ds) (hts : transfers payments members = .ok xs)

include entered few hds hts

/-- **How far off people end up**: a thousandth for each of them, and half a hundredth for each turn
that they take part in. -/
theorem deviation_le : ∀ p ∈ ds, |p.2.value + paidBy p.1 xs - receivedBy p.1 xs| ≤
    (ds.length : ℚ) / 1000 + (turnsWith p.1 (turnsOf ds) : ℚ) / 200 := by
  intro p hp
  have ledger := ledger_deltas entered hds
  rw [transfers, hds] at hts
  obtain ⟨left, course, short, made_eq⟩ := ledger.exists_course hts
  obtain ⟨gross_le, net_le⟩ := gross_deltas_le entered few hds
  have allowance := allowance_of_few entered few ledger.length_eq
  set unit := 8 * unitError * totalPaid payments with unit_eq
  have nonneg := allowance.nonneg
  have sum_le : |net ds| ≤ unit := by
    rw [unit_eq] at nonneg ⊢
    linarith
  have rounds : ((turnsOf ds).length : ℚ) + 1 ≤ ds.length := by
    exact_mod_cast length_turnsOf entered few hds hts (List.ne_nil_of_mem hp)
  have perm := List.mergeSort_perm ds orderByAmount
  have room : unitError * (gross (ds.mergeSort orderByAmount) + (turnsOf ds).length * unit) ≤
      unit := by
    have same : gross (ds.mergeSort orderByAmount) = gross ds := (perm.map _).sum_eq
    refine le_trans (mul_le_mul_of_nonneg_left ?_ unitError_pos.le) allowance.covers
    rw [same]
    linarith [mul_le_mul_of_nonneg_right rounds nonneg]
  have off : |net (ds.mergeSort orderByAmount)| ≤ unit := by
    have same : net (ds.mergeSort orderByAmount) = net ds := (perm.map _).sum_eq
    rwa [same]
  have all := course.deviation_le ledger.sides ledger.nodup_mergeSort short nonneg room off
    (List.mem_mergeSort.mpr hp)
  rw [made_eq, add_sub_assoc, course.transferred_eq p.1]
  rw [perm.length_eq] at all
  linarith [allowance.small, mul_le_mul_of_nonneg_right rounds nonneg]

/-- **Two people end up within a hundredth of the average.** -/
theorem withinCent_of_two (two : (people payments members).length ≤ 2) : WithinCent ds xs := by
  intro p hp
  have off := deviation_le entered few hds hts p hp
  have length := (ledger_deltas entered hds).length_eq
  rw [transfers, hds] at hts
  have rounds := length_turnsOf entered few hds hts (List.ne_nil_of_mem hp)
  have most : turnsWith p.1 (turnsOf ds) ≤ (turnsOf ds).length := List.countP_le_length
  have people' : (ds.length : ℚ) ≤ 2 := by exact_mod_cast length ▸ two
  have once : (turnsWith p.1 (turnsOf ds) : ℚ) ≤ 1 := by exact_mod_cast (by omega)
  linarith

end End

end CommonPurse.Balance
