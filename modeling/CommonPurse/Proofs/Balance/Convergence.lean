import CommonPurse.Proofs.Balance.Deltas
import CommonPurse.Proofs.Balance.Faultless

/-!
# Pairing converges

At least one of two people is settled in most turns, but not in all of them: when both are owed
something, the balance of the first doubles, and both may stay. That happens only once the deltas do
not come to zero any more, since a balance within the margin has been dropped in a turn that settled
both people. The balances of those who are left come to no more than what has been dropped that way;
the first of them has a thousandth more after every turn in which nobody is settled, and the last
has more than a thousandth. So such turns are fewer than the turns that settle two people.

## Main definitions

* `CommonPurse.Balance.net`, `gross` — balances added up with and without their signs.
* `CommonPurse.Balance.Progress` — the turns so far, those that settle two people and those that
  settle nobody, and what they have done to the balances.

## Main results

* `CommonPurse.Balance.Progress.plays` — what one turn does.
* `CommonPurse.Balance.Progress.converges` — what a whole course does.
* `CommonPurse.Balance.transfers_converge` — there are transfers, fewer than people.
-/

namespace CommonPurse.Balance

open Decimal

/-! ## Balances added up -/

/-- What balances come to. -/
def net (b : Balances) : ℚ := (b.map fun p => p.2.value).sum

/-- What balances come to without their signs. -/
def gross (b : Balances) : ℚ := (b.map fun p => |p.2.value|).sum

lemma gross_nonneg (b : Balances) : 0 ≤ gross b := by
  refine List.sum_nonneg fun x hx => ?_
  obtain ⟨p, -, rfl⟩ := List.mem_map.mp hx
  exact abs_nonneg _

@[simp] lemma net_append (b c : Balances) : net (b ++ c) = net b + net c := by simp [net]

@[simp] lemma gross_append (b c : Balances) : gross (b ++ c) = gross b + gross c := by simp [gross]

@[simp] lemma net_cons (p : Id × Decimal) (b : Balances) : net (p :: b) = p.2.value + net b := by
  simp [net]

@[simp] lemma gross_cons (p : Id × Decimal) (b : Balances) :
    gross (p :: b) = |p.2.value| + gross b := by
  simp [gross]

@[simp] lemma net_nil : net [] = 0 := rfl

@[simp] lemma gross_nil : gross [] = 0 := rfl

lemma net_nonneg {b : Balances} (h : ∀ p ∈ b, 0 ≤ p.2.value) : 0 ≤ net b := by
  refine List.sum_nonneg fun x hx => ?_
  obtain ⟨p, hp, rfl⟩ := List.mem_map.mp hx
  exact h p hp

/-! ## What a round does to sums -/

/-- A share is not more than what either has. -/
lemma abs_share_le (debtor creditor : Id × Decimal) :
    |debtor.2.value + share debtor creditor| + |creditor.2.value - share debtor creditor| ≤
      |debtor.2.value| + |creditor.2.value| := by
  unfold share
  rcases le_total creditor.2.value |debtor.2.value| with less | more
  · rw [min_eq_right less, sub_self, abs_zero, add_zero]
    exact abs_add_le _ _
  · rw [min_eq_left more, abs_of_nonneg (sub_nonneg.mpr more),
      abs_of_nonneg (by linarith [neg_abs_le debtor.2.value])]
    linarith [le_abs_self debtor.2.value, le_abs_self creditor.2.value]

namespace Round.Settles

variable {r : Round} {debtor creditor : Id × Decimal} (h : r.Settles debtor creditor)

include h

/-- A round does not make the balances larger, up to rounding. -/
lemma gross_le : |r.debtor.value| + |r.creditor.value| ≤
    |debtor.2.value| + |creditor.2.value| +
      unitError * (|debtor.2.value| + |creditor.2.value|) := by
  have most := abs_share_le debtor creditor
  have scaled := mul_le_mul_of_nonneg_left most unitError_pos.le
  rw [mul_add] at scaled
  linarith [h.near_debtor.abs_le, h.near_creditor.abs_le]

/-- A round does not change what two people have together, up to rounding. -/
lemma abs_net_sub_le :
    |r.debtor.value + r.creditor.value - (debtor.2.value + creditor.2.value)| ≤
      unitError * (|debtor.2.value| + |creditor.2.value|) := by
  have most := abs_share_le debtor creditor
  have scaled := mul_le_mul_of_nonneg_left most unitError_pos.le
  rw [mul_add] at scaled
  obtain ⟨lower, upper⟩ := h.near_debtor.bounds
  obtain ⟨lower', upper'⟩ := h.near_creditor.bounds
  exact abs_sub_le_iff.mpr ⟨by linarith, by linarith⟩

/-- Where the first owes something, or nothing, one of two people is settled exactly. -/
lemma eq_zero_cases (hf : debtor.2.value ≤ 0) :
    r.debtor.value = 0 ∧ 0 ≤ r.creditor.value ∨ r.creditor.value = 0 ∧ r.debtor.value ≤ 0 := by
  rcases le_total creditor.2.value |debtor.2.value| with less | more
  · exact .inr ⟨h.creditor_eq_zero less, h.debtor_nonpos hf⟩
  · refine .inl ⟨?_, h.creditor_nonneg⟩
    have near := h.near_debtor
    rw [share, min_eq_left more, abs_of_nonpos hf, add_neg_cancel] at near
    exact near.eq_zero

/-- Where the first is owed something, the second is settled exactly, or the balance of the first
doubles. -/
lemma doubles (hf : 0 < debtor.2.value) : r.creditor.value = 0 ∨
    debtor.2.value ≤ creditor.2.value ∧
      2 * debtor.2.value - unitError * (2 * debtor.2.value) ≤ r.debtor.value := by
  rcases le_total creditor.2.value |debtor.2.value| with less | more
  · exact .inl (h.creditor_eq_zero less)
  · have near := h.near_debtor
    rw [share, min_eq_left more, abs_of_pos hf, ← two_mul] at near
    rw [abs_of_pos hf] at more
    have lower := near.bounds.1
    rw [abs_of_pos (by linarith)] at lower
    exact .inr ⟨more, lower⟩

end Round.Settles

/-! ## Who leaves -/

/-- How many of the two who take part in a turn stay in the queue. -/
def Turn.staying (t : Turn) : ℕ :=
  (remaining t.debtor.1 t.round.debtor).length + (remaining t.creditor.1 t.round.creditor).length

lemma ne_zero_of_large {a : ℚ} (h : 1 / 1000 < |a|) : a ≠ 0 :=
  abs_pos.mp (lt_trans (by norm_num) h)

lemma gross_remaining_le (i : Id) (a : Decimal) : gross (remaining i a) ≤ |a.value| := by
  rcases remaining_cases i a with ⟨same, -⟩ | ⟨same, -⟩ <;> simp [same]

namespace Turn

variable {delta : Id → ℚ} {queue next : Balances} {t : Turn}

lemma staying_le (t : Turn) : t.staying ≤ 2 := by
  unfold staying
  rcases remaining_eq t.debtor.1 t.round.debtor with same | same <;>
    rcases remaining_eq t.creditor.1 t.round.creditor with same' | same' <;> simp [same, same']

/-- When both stay, both have more than a thousandth, and nothing is dropped. -/
lemma large_of_staying (both : t.staying = 2) :
    1 / 1000 < |t.round.debtor.value| ∧ 1 / 1000 < |t.round.creditor.value| ∧
      net (remaining t.debtor.1 t.round.debtor) + net (remaining t.creditor.1 t.round.creditor) =
        t.round.debtor.value + t.round.creditor.value := by
  unfold staying at both
  rcases remaining_cases t.debtor.1 t.round.debtor with ⟨same, -⟩ | ⟨same, large⟩ <;>
    rcases remaining_cases t.creditor.1 t.round.creditor with ⟨same', -⟩ | ⟨same', large'⟩ <;>
    simp [same, same'] at both
  exact ⟨large, large', by simp [same, same']⟩

/-- What is dropped with people who leave. When only one of them leaves, or what is dropped is not
negative, this does not make the balances larger. -/
lemma net_remaining_le
    (signs : 0 ≤ t.round.debtor.value ∧ 0 ≤ t.round.creditor.value ∨
      t.round.creditor.value = 0 ∧ t.round.debtor.value ≤ 0) :
    net (remaining t.debtor.1 t.round.debtor) + net (remaining t.creditor.1 t.round.creditor) ≤
      t.round.debtor.value + t.round.creditor.value + ((1 - t.staying : ℕ) : ℚ) / 1000 := by
  unfold staying
  rcases remaining_cases t.debtor.1 t.round.debtor with ⟨same, small⟩ | ⟨same, large⟩ <;>
    rcases remaining_cases t.creditor.1 t.round.creditor with ⟨same', small'⟩ | ⟨same', large'⟩ <;>
    simp only [same, same', net_nil, net_cons, List.length_nil, List.length_cons] <;>
    norm_num
  · rcases signs with ⟨hf, hg⟩ | ⟨hg, -⟩
    · linarith
    · linarith [(abs_le.mp small).1]
  · rcases signs with ⟨hf, -⟩ | ⟨hg, -⟩
    · exact hf
    · exact absurd hg (ne_zero_of_large large')
  · rcases signs with ⟨-, hg⟩ | ⟨hg, -⟩
    · exact hg
    · exact hg.ge

namespace Plays

variable (h : t.Plays queue next)

include h

/-- The sums after a turn. -/
lemma sums : next.length + 2 = queue.length + t.staying ∧
    gross next ≤ gross queue - (|t.debtor.2.value| + |t.creditor.2.value|) +
      (|t.round.debtor.value| + |t.round.creditor.value|) ∧
    net next = net queue - (t.debtor.2.value + t.creditor.2.value) +
      (net (remaining t.debtor.1 t.round.debtor) +
        net (remaining t.creditor.1 t.round.creditor)) := by
  obtain ⟨between, rfl, rfl⟩ := h.exists_between
  have first := gross_remaining_le t.debtor.1 t.round.debtor
  have last := gross_remaining_le t.creditor.1 t.round.creditor
  simp only [staying, List.length_append, List.length_cons, List.length_nil, gross_append,
    gross_cons, gross_nil, net_append, net_cons, net_nil]
  refine ⟨by omega, by linarith, by ring⟩

/-- Two people do not have more than all together. -/
lemma pair_le_gross : |t.debtor.2.value| + |t.creditor.2.value| ≤ gross queue := by
  obtain ⟨between, rfl, -⟩ := h.exists_between
  have others := gross_nonneg between
  simp only [gross_cons, gross_append, gross_nil]
  linarith

lemma two_le_length : 2 ≤ queue.length := by
  obtain ⟨between, rfl, -⟩ := h.exists_between
  simp

/-- Who stands first and stays, stands first again. -/
lemma head?_eq (stays : 1 / 1000 < |t.round.debtor.value|) :
    next.head? = some (t.debtor.1, t.round.debtor) := by
  obtain ⟨between, -, rfl⟩ := h.exists_between
  rcases remaining_cases t.debtor.1 t.round.debtor with ⟨-, small⟩ | ⟨same, -⟩
  · exact absurd stays small.not_gt
  · rw [same]
    rfl

/-- Two of those who are owed something are not owed more than all of them. -/
lemma le_net (nonneg : ∀ p ∈ queue, 0 ≤ p.2.value) :
    t.debtor.2.value + t.creditor.2.value ≤ net queue := by
  obtain ⟨between, rfl, -⟩ := h.exists_between
  have others : 0 ≤ net between := net_nonneg fun p hp => nonneg p (by simp [hp])
  simp only [net_cons, net_append, net_nil]
  linarith

lemma head?_queue : queue.head? = some t.debtor := by
  obtain ⟨between, rfl, -⟩ := h.exists_between
  rfl

end Plays

end Turn

/-- Where the first is owed something, everybody is, or has nothing. -/
lemma Sides.nonneg_of_pos {delta : Id → ℚ} {queue next : Balances} {t : Turn}
    (h : Sides delta queue) (plays : t.Plays queue next) (hf : 0 < t.debtor.2.value) :
    ∀ p ∈ queue, 0 ≤ p.2.value := by
  have some : 0 < delta t.debtor.1 := by
    by_contra none
    exact hf.not_ge (h.nonpos _ plays.debtor_mem (not_lt.mp none))
  exact fun p hp => h.nonneg p hp (some.le.trans (h.delta_le plays hp))

/-! ## Progress -/

/-- What rounding may take in one turn: one part in `10 ^ 27` of everything, which is not enough in
all turns together to be taken for a balance. -/
structure Allowance (people : ℕ) (start unit : ℚ) : Prop where
  nonneg : 0 ≤ unit
  covers : unitError * (start + people * unit) ≤ unit
  small : (2 * people + 1) * unit < 1 / 1000

/-- How far pairing has come in a number of rounds: so many of them have settled two people at once,
and so many have settled nobody. -/
structure Progress (delta : Id → ℚ) (people : ℕ) (start unit : ℚ) (rounds pairs idle : ℕ)
    (queue : Balances) : Prop where
  sides : Sides delta queue
  count : rounds + queue.length + pairs = people + idle
  /-- Rounds in which nobody is settled are fewer than those in which two people are. -/
  few : idle = 0 ∨ idle + 1 ≤ pairs
  /-- The last two to leave have left together. -/
  together : queue = [] → idle + 1 ≤ pairs
  gross_le : gross queue ≤ start + rounds * unit
  /-- Nothing is dropped but in rounds that settle two people. -/
  net_le : net queue ≤ pairs / 1000 + (rounds + 1) * unit
  /-- After a round in which nobody is settled the first is owed something, and more each time. -/
  ahead : 0 < idle → ∀ p ∈ queue.head?,
    1 / 1000 < p.2.value ∧ idle / 1000 - rounds * unit ≤ p.2.value

namespace Progress

variable {delta : Id → ℚ} {people rounds pairs idle : ℕ} {start unit : ℚ}
  {queue next left : Balances} {t : Turn} {ts : List Turn}

section Step

variable (h : Progress delta people start unit rounds pairs idle queue)
  (allowance : Allowance people start unit) (plays : t.Plays queue next)

include h plays

lemma lt_people : rounds + 2 ≤ people := by
  have two := plays.two_le_length
  have count := h.count
  have few := h.few
  omega

/-- Where nobody has left the first is owed something. -/
lemma debtor_pos (some : 0 < idle ∨ t.staying = 2) : 0 < t.debtor.2.value := by
  rcases some with some | both
  · exact lt_trans (by norm_num) (h.ahead some _ plays.head?_queue).1
  · by_contra none
    obtain ⟨large, large', -⟩ := Turn.large_of_staying both
    rcases plays.settles.eq_zero_cases (not_lt.mp none) with ⟨zero, -⟩ | ⟨zero, -⟩
    · exact ne_zero_of_large large zero
    · exact ne_zero_of_large large' zero

include allowance

/-- What rounding takes in a turn. -/
lemma error_le : unitError * (|t.debtor.2.value| + |t.creditor.2.value|) ≤ unit := by
  have early := h.lt_people plays
  have all := h.gross_le
  have rounds_le : (rounds : ℚ) * unit ≤ people * unit :=
    mul_le_mul_of_nonneg_right (by exact_mod_cast (by omega : rounds ≤ people)) allowance.nonneg
  refine le_trans (mul_le_mul_of_nonneg_left ?_ unitError_pos.le) allowance.covers
  linarith [plays.pair_le_gross]

lemma gross_plays : gross next ≤ start + (rounds + 1) * unit := by
  linarith [plays.sums.2.1, plays.settles.gross_le, h.gross_le, h.error_le allowance plays]

/-- Whoever leaves in a turn that settles only one of two has nothing left to drop. -/
lemma net_plays :
    net next ≤ ((pairs + (1 - t.staying) : ℕ) : ℚ) / 1000 + (rounds + 1 + 1) * unit := by
  have signs : 0 ≤ t.round.debtor.value ∧ 0 ≤ t.round.creditor.value ∨
      t.round.creditor.value = 0 ∧ t.round.debtor.value ≤ 0 := by
    rcases le_or_gt t.debtor.2.value 0 with hf | hf
    · exact (plays.settles.eq_zero_cases hf).imp_left fun ⟨zero, nonneg⟩ => ⟨zero.ge, nonneg⟩
    · have all := h.sides.nonneg_of_pos plays hf
      exact .inl ⟨hf.le.trans (plays.settles.grows hf.le (all _ plays.creditor_mem)),
        plays.settles.creditor_nonneg⟩
  have dropped := Turn.net_remaining_le signs
  push_cast
  rw [plays.sums.2.2]
  have kept := (abs_sub_le_iff.mp plays.settles.abs_net_sub_le).1
  linarith [h.net_le, h.error_le allowance plays]

/-- The first is still ahead after a turn, and further when nobody has left. -/
lemma ahead_plays (some : 0 < idle + (t.staying - 1)) :
    next.head? = .some (t.debtor.1, t.round.debtor) ∧ 1 / 1000 < t.round.debtor.value ∧
      ((idle + (t.staying - 1) : ℕ) : ℚ) / 1000 - (rounds + 1) * unit ≤ t.round.debtor.value := by
  have most := t.staying_le
  have hf : 0 < t.debtor.2.value := h.debtor_pos plays (by omega)
  have all := h.sides.nonneg_of_pos plays hf
  have grows := plays.settles.grows hf.le (all _ plays.creditor_mem)
  have nonneg := allowance.nonneg
  have positive : |t.round.debtor.value| = t.round.debtor.value := abs_of_pos (hf.trans_le grows)
  rcases (by omega : t.staying - 1 = 0 ∨ t.staying = 2) with less | both
  · obtain ⟨more, bound⟩ := h.ahead (by omega) _ plays.head?_queue
    refine ⟨plays.head?_eq ?_, more.trans_le grows, ?_⟩
    · rw [positive]
      exact more.trans_le grows
    · rw [less, Nat.add_zero]
      linarith
  · obtain ⟨large, large', -⟩ := Turn.large_of_staying both
    refine ⟨plays.head?_eq large, positive ▸ large, ?_⟩
    obtain ⟨le, doubled⟩ := (plays.settles.doubles hf).resolve_left (ne_zero_of_large large')
    have error := h.error_le allowance plays
    have error' : unitError * (2 * t.debtor.2.value) ≤ unit := by
      refine le_trans (mul_le_mul_of_nonneg_left ?_ unitError_pos.le) error
      linarith [le_abs_self t.debtor.2.value, le_abs_self t.creditor.2.value]
    rw [both]
    push_cast
    rcases Nat.eq_zero_or_pos idle with rfl | before
    · rw [positive] at large
      have error : 0 ≤ (rounds + 1) * unit := by positivity
      norm_num
      linarith
    · obtain ⟨more, bound⟩ := h.ahead before _ plays.head?_queue
      norm_num
      linarith

/-- Only when more has been dropped than the first is ahead can a turn settle nobody. -/
lemma few_plays (both : t.staying = 2) : idle + 2 ≤ pairs := by
  have hf : 0 < t.debtor.2.value := h.debtor_pos plays (.inr both)
  obtain ⟨-, -, bound⟩ := h.ahead_plays allowance plays (by omega)
  have most := h.net_plays allowance plays
  obtain ⟨-, large, kept⟩ := Turn.large_of_staying both
  rw [abs_of_nonneg plays.settles.creditor_nonneg] at large
  have sum : t.round.debtor.value + t.round.creditor.value ≤ net next := by
    rw [plays.sums.2.2, kept]
    linarith [plays.le_net (h.sides.nonneg_of_pos plays hf)]
  have early := h.lt_people plays
  rw [both] at bound most
  have unit_le : (2 * rounds + 3) * unit ≤ (2 * people + 1) * unit :=
    mul_le_mul_of_nonneg_right (by exact_mod_cast (by omega)) allowance.nonneg
  have small := allowance.small
  push_cast at bound most
  have less : ((idle + 2 : ℕ) : ℚ) < (pairs + 1 : ℕ) := by
    push_cast
    norm_num at bound most
    linarith
  have less' : idle + 2 < pairs + 1 := by exact_mod_cast less
  omega

end Step

/-- **What one turn does**: it settles one of the two who take part, or both, or, less often,
nobody. -/
theorem plays (h : Progress delta people start unit rounds pairs idle queue)
    (allowance : Allowance people start unit) (plays : t.Plays queue next) :
    ∃ pairs' idle', Progress delta people start unit (rounds + 1) pairs' idle' next := by
  have length := plays.sums.1
  have most := t.staying_le
  have count := h.count
  have few := h.few
  have gross_le := h.gross_plays allowance plays
  have net_le := h.net_plays allowance plays
  refine ⟨pairs + (1 - t.staying), idle + (t.staying - 1), h.sides.plays plays, by omega, ?few,
    ?together, by exact_mod_cast gross_le, by exact_mod_cast net_le, ?ahead⟩
  case few =>
    rcases (by omega : t.staying - 1 = 0 ∨ t.staying = 2) with less | both
    · omega
    · have enough := h.few_plays allowance plays both
      omega
  case together =>
    have two := plays.two_le_length
    rintro rfl
    rw [List.length_nil] at length
    omega
  case ahead =>
    intro some p hp
    obtain ⟨first, large, bound⟩ := h.ahead_plays allowance plays some
    obtain rfl := Option.some.inj (first.symm.trans hp)
    exact ⟨large, by exact_mod_cast bound⟩

/-- There are fewer rounds than people as long as nobody or somebody is left. -/
lemma rounds_lt (h : Progress delta people start unit rounds pairs idle queue) :
    rounds + 1 ≤ people := by
  have count := h.count
  have few := h.few
  rcases queue with _ | ⟨p, rest⟩
  · have together := h.together rfl
    rw [List.length_nil] at count
    omega
  · rw [List.length_cons] at count
    omega

/-- **What a whole course does**: pairing comes to an end before there have been as many rounds as
there are people, given that so many iterations are left. -/
theorem converges {fuel : ℕ} (course : Course fuel queue ts left)
    (h : Progress delta people start unit rounds pairs idle queue)
    (allowance : Allowance people start unit) (enough : people ≤ rounds + fuel) :
    left.length ≤ 1 ∧ rounds + ts.length + 1 ≤ people := by
  induction course generalizing rounds pairs idle with
  | exhausted => exact absurd h.rounds_lt (by omega)
  | ended short => exact ⟨short, h.rounds_lt⟩
  | turn plays _ ih =>
    obtain ⟨pairs', idle', next⟩ := h.plays allowance plays
    obtain ⟨short, fewer⟩ := ih next (by omega)
    refine ⟨short, ?_⟩
    rw [List.length_cons]
    omega

end Progress

/-! ## How far off deltas are -/

/-- What everybody has paid together. -/
def totalPaid (payments : List Payment) : ℚ := (payments.map fun p => p.amount.value).sum

lemma value_of_hundredths {k : ℕ} {d : Decimal} (h : Hundredths k d) : d.value = k / 100 := by
  rcases h with rfl | ⟨rfl, rfl⟩
  · exact Decimal.size_hundredths k
  · simp [Decimal.zero, Decimal.ofNat, Decimal.value]

lemma hundredths_of_entered {payments : List Payment} (entered : Entered payments) :
    ∀ p ∈ payments, Hundredths (cents p.amount) p.amount := by
  intro p hp
  obtain ⟨text, accepted⟩ := entered p hp
  obtain ⟨k, -, -, same⟩ := Entry.exists_of_amount accepted
  rw [same]
  exact .inl rfl

lemma totalPaid_eq {payments : List Payment} (entered : Entered payments) :
    totalPaid payments = totalCents payments / 100 := by
  have exactly := hundredths_of_entered entered
  clear entered
  induction payments with
  | nil => simp [totalPaid, totalCents]
  | cons p rest ih =>
    have front : totalCents (p :: rest) = cents p.amount + totalCents rest := rfl
    have front' : totalPaid (p :: rest) = p.amount.value + totalPaid rest := by simp [totalPaid]
    rw [front, front', ih fun q hq => exactly q (List.mem_cons_of_mem _ hq),
      value_of_hundredths (exactly p List.mem_cons_self)]
    push_cast
    ring

lemma totalPaid_nonneg {payments : List Payment} (entered : Entered payments) :
    0 ≤ totalPaid payments := by
  rw [totalPaid_eq entered]
  positivity

lemma net_of_exact {b : Balances} (h : Exact b) : net b = sumCents b / 100 ∧ gross b = net b := by
  induction b with
  | nil => simp [sumCents]
  | cons p rest ih =>
    obtain ⟨sum, same⟩ := ih fun q hq => h q (List.mem_cons_of_mem _ hq)
    have front : sumCents (p :: rest) = cents p.2 + sumCents rest := rfl
    have value := value_of_hundredths (h p List.mem_cons_self)
    have nonneg : 0 ≤ p.2.value := by rw [value]; positivity
    rw [net_cons, gross_cons, front, same, abs_of_nonneg nonneg, sum, value]
    refine ⟨?_, rfl⟩
    push_cast
    ring

/-- Deltas come to what the balances come to less the average, up to rounding. -/
lemma net_of_deltas {average : Decimal} (ha : average.IsResult) {b ds : Balances}
    (results : Results b) (each : List.Forall₂ (IsDelta average) b ds) :
    |net ds - (net b - b.length * average.value)| ≤
        unitError * (gross b + b.length * |average.value|) ∧
      gross ds ≤ (1 + unitError) * (gross b + b.length * |average.value|) := by
  induction each with
  | nil => simp
  | @cons p d b ds first _ ih =>
    obtain ⟨net_le, gross_le⟩ := ih fun q hq => results q (List.mem_cons_of_mem _ hq)
    have near := (near_sub (results p List.mem_cons_self) ha first.2).2
    have size := abs_sub p.2.value average.value
    have scaled := mul_le_mul_of_nonneg_left size unitError_pos.le
    have off : |d.2.value - (p.2.value - average.value)| ≤
      unitError * (|p.2.value| + |average.value|) := le_trans near scaled
    have together := abs_add_le (d.2.value - (p.2.value - average.value))
      (net ds - (net b - b.length * average.value))
    simp only [net_cons, gross_cons, List.length_cons]
    push_cast
    constructor
    · refine le_trans (le_of_eq_of_le (congrArg _ ?_) (together.trans (add_le_add off net_le)))
        (le_of_eq ?_) <;> ring
    · linarith [near.abs_le]

/-- The average, up to rounding. -/
lemma near_average {k n : ℕ} {total average : Decimal} (hn : 0 < n) (few : k = 0 ∨ n < 10 ^ 28)
    (h : Hundredths k total) (divided : total.divNat n = .ok average) :
    average.IsResult ∧ Near average.value (k / 100 / n) := by
  rcases h with rfl | ⟨rfl, rfl⟩
  · have wide : k = 0 ∨ minExponent + digitCount n + 29 ≤ (-2 : ℤ) := few.imp_right fun less => by
      have digits := (digitCount_le_iff (c := n) (n := 28) (by decide)).mpr less
      have bottom : minExponent = -1000026 := rfl
      omega
    have near := near_divNat hn (by decide) wide divided
    have value : size k (-2) = (k : ℚ) / 100 := value_of_hundredths (.inl rfl)
    rwa [value] at near
  · have near := near_divNat hn (by decide) (.inl rfl) divided
    rw [size_zero] at near
    simpa using near

/-- Shares of a number come to the number, up to rounding. -/
lemma near_mul {n : ℕ} {share total : ℚ} (hn : 0 < n) (nonneg : 0 ≤ total)
    (near : Near share (total / n)) :
    total - unitError * total ≤ n * share ∧ n * share ≤ total + unitError * total := by
  have some : (0 : ℚ) < n := by exact_mod_cast hn
  obtain ⟨lower, upper⟩ := near.bounds
  rw [abs_of_nonneg (by positivity)] at lower upper
  have whole : total = n * (total / n) := by field_simp
  have error : unitError * total = n * (unitError * (total / n)) := by
    rw [mul_left_comm, ← whole]
  constructor
  · calc total - unitError * total = n * (total / n - unitError * (total / n)) := by
          rw [error, mul_sub, ← whole]
      _ ≤ n * share := mul_le_mul_of_nonneg_left lower some.le
  · calc n * share ≤ n * (total / n + unitError * (total / n)) :=
          mul_le_mul_of_nonneg_left upper some.le
      _ = total + unitError * total := by rw [error, mul_add, ← whole]

section Few

variable {payments : List Payment} {members : List Id} (entered : Entered payments)
  (few : ((people payments members).length : ℚ) * totalPaid payments ≤ 10 ^ 20)

include entered few

/-- Where something has been paid there are not too many people, and they have not paid too much. -/
lemma totalCents_cases : totalCents payments = 0 ∨ 0 < (people payments members).length ∧
    (people payments members).length ≤ 10 ^ 22 ∧ totalCents payments ≤ 10 ^ 22 := by
  refine (Nat.eq_zero_or_pos _).imp_right fun pos => ?_
  have some : 0 < (people payments members).length := by
    cases payments with
    | nil => exact absurd pos (lt_irrefl 0)
    | cons p rest =>
      refine List.length_pos_of_mem (a := p.payer) ?_
      rw [people, List.mem_dedup]
      simp
  have product : (people payments members).length * totalCents payments ≤ 10 ^ 22 := by
    rw [totalPaid_eq entered, ← mul_div_assoc, div_le_iff₀ (by norm_num)] at few
    have hundred : (10 : ℚ) ^ 20 * 100 = 10 ^ 22 := by norm_num
    rw [hundred] at few
    exact_mod_cast few
  exact ⟨some, (Nat.le_mul_of_pos_right _ pos).trans product,
    (Nat.le_mul_of_pos_left _ some).trans product⟩

/-- **Deltas come to nearly nothing**, and without their signs to at most four times what has been
paid. -/
theorem gross_deltas_le {ds : Balances} (hds : deltas payments members = .ok ds) :
    gross ds ≤ 4 * totalPaid payments ∧ |net ds| ≤ 4 * unitError * totalPaid payments := by
  have cases' := totalCents_cases entered few
  have total_eq := totalPaid_eq entered
  have nonneg := totalPaid_nonneg entered
  have unit := unitError_pos
  obtain ⟨b, counted, cases⟩ := deltas_cases hds
  obtain ⟨b', counted', exactly, sum⟩ :=
    exists_paid members (hundredths_of_entered entered) (by omega)
  obtain rfl := Except.ok.inj (counted.symm.trans counted')
  rcases cases with ⟨-, rfl⟩ | ⟨total, average, some, added, divided, each⟩
  · simp only [gross_nil, net_nil, abs_zero]
    exact ⟨by positivity, by positivity⟩
  have length := (ledger_paid entered counted).length_eq
  have pos : 0 < b.length := List.length_pos_of_ne_nil some
  obtain ⟨total', added', hundredths⟩ := exists_sum exactly (by omega)
  obtain rfl := Except.ok.inj (added.symm.trans added')
  rw [sum] at hundredths
  obtain ⟨isResult, near⟩ := near_average pos (by omega) hundredths divided
  obtain ⟨net_le, gross_le⟩ := net_of_deltas isResult (ledger_paid entered counted).results each
  obtain ⟨net_eq, gross_eq⟩ := net_of_exact exactly
  rw [← total_eq] at near
  rw [sum, ← total_eq] at net_eq
  rw [gross_eq, net_eq, abs_of_nonneg (near.nonneg (by positivity))] at gross_le net_le
  -- All averages together come to what has been paid.
  obtain ⟨lower, upper⟩ := near_mul pos nonneg near
  set all := b.length * average.value
  have most : totalPaid payments + all ≤
      2 * totalPaid payments + unitError * totalPaid payments := by
    linarith
  have scaled := mul_le_mul_of_nonneg_left most unit.le
  have small : unitError * totalPaid payments ≤ 1 / 4 * totalPaid payments :=
    mul_le_mul_of_nonneg_right (by norm_num [unitError]) nonneg
  have smaller := mul_le_mul_of_nonneg_left small unit.le
  constructor
  · linarith
  · have split := abs_add_le (net ds - (totalPaid payments - all)) (totalPaid payments - all)
    rw [sub_add_cancel] at split
    have off : |totalPaid payments - all| ≤ unitError * totalPaid payments :=
      abs_sub_le_iff.mpr ⟨by linarith, by linarith⟩
    linarith

/-- Rounding is small, beside what has been paid and by itself. -/
lemma unitError_le {n : ℕ} (length : n = (people payments members).length) :
    unitError * (n * totalPaid payments) ≤ totalPaid payments / 10 ∧
      unitError * (n * totalPaid payments) ≤ 1 / 10 ^ 7 ∧
      unitError * totalPaid payments ≤ 1 / 10 ^ 7 := by
  have value : unitError * 10 ^ 20 = 1 / 10 ^ 7 := by norm_num [unitError]
  have bound : unitError * (n * totalPaid payments) ≤ 1 / 10 ^ 7 := by
    rw [← value, length]
    exact mul_le_mul_of_nonneg_left few unitError_pos.le
  have total_eq := totalPaid_eq entered
  rcases Nat.eq_zero_or_pos (totalCents payments) with zero | pos
  · rw [zero, Nat.cast_zero, zero_div] at total_eq
    simp [total_eq]
  · obtain ⟨some, -⟩ := (totalCents_cases entered few).resolve_left pos.ne'
    have one : (1 : ℚ) ≤ n := by exact_mod_cast length ▸ some
    have cent : (1 : ℚ) ≤ totalCents payments := by exact_mod_cast pos
    have single := mul_le_mul_of_nonneg_left
      (le_mul_of_one_le_left (totalPaid_nonneg entered) one) unitError_pos.le
    refine ⟨bound.trans ?_, bound, single.trans bound⟩
    rw [total_eq]
    norm_num
    linarith

end Few

/-! ## In the end -/

lemma allowance_of_few {payments : List Payment} {members : List Id} (entered : Entered payments)
    (few : ((people payments members).length : ℚ) * totalPaid payments ≤ 10 ^ 20) {n : ℕ}
    (length : n = (people payments members).length) :
    Allowance n (4 * totalPaid payments) (8 * unitError * totalPaid payments) := by
  obtain ⟨small, tiny, single⟩ := unitError_le entered few length
  have nonneg := totalPaid_nonneg entered
  have unit := unitError_pos
  refine ⟨by positivity, ?_, ?_⟩
  · have scaled := mul_le_mul_of_nonneg_left small unit.le
    linarith [mul_nonneg unit.le nonneg]
  · norm_num at tiny single ⊢
    linarith

/-- Where pairing begins. -/
lemma progress_mergeSort {payments : List Payment} {members : List Id} {ds : Balances}
    (ledger : Ledger (· ∈ people payments members) ds) (some : ds ≠ []) {start unit : ℚ}
    (hg : gross ds ≤ start) (hn : net ds ≤ unit) :
    Progress (deltaOf ds) ds.length start unit 0 0 0 (ds.mergeSort orderByAmount) where
  sides := ledger.sides
  count := by simp
  few := .inl rfl
  together none := by
    have length : (ds.mergeSort orderByAmount).length = ds.length := List.length_mergeSort ds
    rw [none] at length
    exact absurd (List.length_eq_zero_iff.mp length.symm) some
  gross_le := by
    rw [gross, ((List.mergeSort_perm ds orderByAmount).map _).sum_eq]
    simpa [gross] using hg
  net_le := by
    rw [net, ((List.mergeSort_perm ds orderByAmount).map _).sum_eq]
    simpa [net] using hn
  ahead := by simp

/-- Pairing begins with deltas that come to nearly nothing. -/
lemma progress_deltas {payments : List Payment} {members : List Id} {ds : Balances}
    (entered : Entered payments)
    (few : ((people payments members).length : ℚ) * totalPaid payments ≤ 10 ^ 20)
    (hds : deltas payments members = .ok ds) (some : ds ≠ []) :
    Progress (deltaOf ds) ds.length (4 * totalPaid payments) (8 * unitError * totalPaid payments)
      0 0 0 (ds.mergeSort orderByAmount) := by
  obtain ⟨gross_le, net_le⟩ := gross_deltas_le entered few hds
  have unit : 0 ≤ unitError * totalPaid payments :=
    mul_nonneg unitError_pos.le (totalPaid_nonneg entered)
  refine progress_mergeSort (ledger_deltas entered hds) some gross_le ?_
  linarith [le_abs_self (net ds)]

/-- There are fewer turns than people. -/
lemma length_turnsOf {payments : List Payment} {members : List Id} {ds : Balances}
    {ts : List Transfer} (entered : Entered payments)
    (few : ((people payments members).length : ℚ) * totalPaid payments ≤ 10 ^ 20)
    (hds : deltas payments members = .ok ds) (hts : transfersOf ds = .ok ts) (some : ds ≠ []) :
    (turnsOf ds).length + 1 ≤ ds.length := by
  have ledger := ledger_deltas entered hds
  obtain ⟨left, course, -, -⟩ := ledger.exists_course hts
  have allowance := allowance_of_few entered few ledger.length_eq
  have rounds := ((progress_deltas entered few hds some).converges course allowance (by omega)).2
  omega

/-- Deltas are taken to come to zero. -/
lemma compare_ne_gt {payments : List Payment} {members : List Id} (entered : Entered payments)
    (few : ((people payments members).length : ℚ) * totalPaid payments ≤ 10 ^ 20) {ds : Balances}
    (hds : deltas payments members = .ok ds) {sum off : Decimal}
    (added : Decimal.sum (ds.map (·.2)) = .ok sum) (hoff : sum.abs = .ok off) :
    compare? off margin ≠ .ok .gt := by
  have ledger := ledger_deltas entered hds
  obtain ⟨gross_le, net_le⟩ := gross_deltas_le entered few hds
  obtain ⟨small, tiny, single⟩ := unitError_le entered few ledger.length_eq
  have nonneg := totalPaid_nonneg entered
  have sizes : ((ds.map (·.2)).map fun d => |d.value|).sum ≤ 4 * totalPaid payments := by
    simpa [gross, Function.comp_def] using gross_le
  have results : ∀ d ∈ ds.map (·.2), d.IsResult := List.forall_mem_map.mpr ledger.results
  have isResult := isResult_sum results added
  have error := sum_error results sizes (by rw [List.length_map]; linarith) added
  have same : ((ds.map (·.2)).map value).sum = net ds := by simp [net, Function.comp_def]
  rw [same, List.length_map] at error
  have split := abs_add_le (sum.value - net ds) (net ds)
  rw [sub_add_cancel] at split
  have less : |sum.value| < 1 / 1000 := by
    norm_num at tiny single
    linarith
  rw [compare_margin isResult hoff, compare_lt_iff_lt.mpr less]
  simp

/-- **There are always transfers, and they are fewer than the people**, as long as people times
payments do not come to more than `10 ^ 20`. Each of them is worth a hundredth or more and is
between two different people who have a delta. -/
theorem transfers_converge {payments : List Payment} {members : List Id}
    (entered : Entered payments)
    (few : ((people payments members).length : ℚ) * totalPaid payments ≤ 10 ^ 20) :
    ∃ ds ts, deltas payments members = .ok ds ∧ transfers payments members = .ok ts ∧
      ds.length = (people payments members).length ∧
      ts.length ≤ (people payments members).length - 1 ∧
      ∀ t ∈ ts, (∃ k, 0 < k ∧ t.amount = .finite false k (-2)) ∧ t.payer ≠ t.payee ∧
        t.payer ∈ ds.map (·.1) ∧ t.payee ∈ ds.map (·.1) := by
  have paid := totalCents_cases entered few
  obtain ⟨ds, hds, -⟩ := exists_deltas members (hundredths_of_entered entered) (by omega)
  have ledger := ledger_deltas entered hds
  have length := ledger.length_eq
  rcases eq_or_ne ds [] with rfl | some
  · refine ⟨[], [], hds, by rw [transfers, hds]; rfl, length, Nat.zero_le _, fun t ht => nomatch ht⟩
  cases found : transfersOf ds with
  | error f =>
    exfalso
    rcases transfersOf_error found with ⟨g, rfl⟩ | ⟨sum, off, added, hoff, more⟩ |
      ⟨ts, left, done, many⟩
    · exact transfers_faultless members (hundredths_of_entered entered) (by omega) g
        (by rw [transfers, hds]; exact found)
    · exact compare_ne_gt entered few hds added hoff more
    · have course := course_of_turns ledger.sides.results done
      have short := ((progress_deltas entered few hds some).converges course
        (allowance_of_few entered few length) (by omega)).1
      omega
  | ok ts =>
    obtain ⟨left, course, -, rfl⟩ := ledger.exists_course found
    have perm := (List.mergeSort_perm ds orderByAmount).map (·.1)
    refine ⟨ds, _, hds, by rw [transfers, hds]; exact found, length, ?fewer, fun x hx => ?each⟩
    case fewer =>
      have rounds := length_turnsOf entered few hds found some
      have least := length_made_le (turnsOf ds)
      omega
    case each =>
      obtain ⟨t, ht, q, q', plays, -, hx⟩ := course.exists_turn ledger.sides hx
      obtain ⟨payer, payee, amount⟩ := plays.settles.transfer x hx
      obtain ⟨first, last⟩ := course.mem_ends ht
      rw [payer, payee]
      exact ⟨amount, course.debtor_ne_creditor ledger.nodup_mergeSort ht ht,
        perm.mem_iff.mp (List.mem_of_mem_dropLast first),
        perm.mem_iff.mp (List.mem_of_mem_tail last)⟩

/-- For the trip of three there are transfers. -/
theorem transfers_converge_sampleTrip :
    ((people sampleTrip sampleTravellers).length : ℚ) * totalPaid sampleTrip ≤ 10 ^ 20 ∧
      ∃ ds ts, deltas sampleTrip sampleTravellers = .ok ds ∧
        transfers sampleTrip sampleTravellers = .ok ts ∧ ts.length ≤ 2 := by
  have few :
      ((people sampleTrip sampleTravellers).length : ℚ) * totalPaid sampleTrip ≤ 10 ^ 20 := by
    decide +kernel
  obtain ⟨ds, ts, hds, hts, -, fewer, -⟩ := transfers_converge entered_sampleTrip few
  exact ⟨few, ds, ts, hds, hts, fewer.trans (by decide +kernel)⟩

end CommonPurse.Balance
