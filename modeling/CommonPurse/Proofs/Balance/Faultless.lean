import CommonPurse.Balance
import CommonPurse.Proofs.Number.Rounding

/-!
# Balancing without faults

As long as everything that has been paid comes to at most the largest amount, no operation in the
course of balancing goes wrong: what has been paid is added up exactly, no delta is larger than the
largest amount, and pairing transfers no more than somebody is due. Only the balance of the first in
the queue can grow, and what it grows by is lost in rounding before it gets out of range.

## Main definitions

* `CommonPurse.Decimal.Hundredths` — a sum of amounts, with two places.
* `CommonPurse.Balance.cents`, `totalCents` — what has been paid, in hundredths.

## Main results

* `CommonPurse.Balance.exists_deltas` — there are deltas, and none is too large.
* `CommonPurse.Balance.exists_pairing` — pairing comes to an end or runs out of iterations.
* `CommonPurse.Balance.transfers_faultless` — no arithmetic fails.
-/

namespace CommonPurse

namespace Decimal

/-! ## Exact sums -/

/-- A number of hundredths as sums have it: with two places, or zero without any. -/
def Hundredths (k : Nat) (d : Decimal) : Prop := d = .finite false k (-2) ∨ k = 0 ∧ d = zero

lemma hundredths_zero : Hundredths 0 zero := .inr ⟨rfl, rfl⟩

/-- Hundredths with at most 28 digits are not rounded. -/
lemma fit_hundredths {k : Nat} (h : k < 10 ^ 28) :
    fit false k (-2) = .ok (.finite false k (-2)) := by
  have digits := (digitCount_le_iff (c := k) (n := 28) (by decide)).mpr h
  have precise : precision = 28 := rfl
  have whole : max (digitCount k - precision) (minExponent - -2).toNat = 0 := by
    have low : (minExponent - -2).toNat = 0 := by decide
    omega
  unfold fit
  split
  next zero =>
    rw [zero]
    rfl
  next =>
    split
    next high =>
      have top : maxAdjusted = 999999 := rfl
      unfold adjusted at high
      omega
    next => simp only [whole, if_true]

/-- Sums of hundredths are exact as long as 28 digits are enough. -/
lemma add_hundredths {j k : Nat} {x y : Decimal} (hx : Hundredths j x) (hy : Hundredths k y)
    (h : j + k < 10 ^ 28) : ∃ z, add x y = .ok z ∧ Hundredths (j + k) z := by
  have done : ∀ {r : Except Fault Decimal}, r = fit false (j + k) (-2) →
      ∃ z, r = .ok z ∧ Hundredths (j + k) z :=
    fun hr => ⟨_, hr.trans (fit_hundredths h), .inl rfl⟩
  rcases hx with rfl | ⟨rfl, rfl⟩ <;> rcases hy with rfl | ⟨rfl, rfl⟩
  · refine done ?_
    have near : nearBy j (-2) k (-2) = (k, -2) := by
      have precise : precision = 28 := rfl
      have count := (digitCount_le_iff (c := j) (n := 28) (by decide)).mpr (by omega)
      have pos := digitCount_pos k
      unfold nearBy
      dsimp only
      refine if_neg fun far => ?_
      have less := far.2
      unfold adjusted at less
      rw [if_neg (by omega)] at less
      omega
    have one : tenTo 0 = 1 := rfl
    simp only [add_finite, le_refl, if_true, addAligned, near, sub_self, Int.toNat_zero, one,
      mul_one]
    congr 2
    split <;> omega
  · exact done (congrArg (fit false · (-2)) (Nat.add_comm 0 j))
  · exact done rfl
  · exact ⟨zero, rfl, hundredths_zero⟩

end Decimal

namespace Balance

open Decimal

/-! ## What has been paid -/

/-- The hundredths of an amount. -/
def cents : Decimal → Nat
  | .finite _ c _ => c
  | .infinite _ => 0
  | .nan .. => 0

/-- The hundredths of all payments together. -/
def totalCents (payments : List Payment) : Nat := (payments.map fun p => cents p.amount).sum

/-- The hundredths of all balances together. -/
def sumCents (b : Balances) : Nat := (b.map fun p => cents p.2).sum

lemma cents_of_hundredths {k : Nat} {d : Decimal} (h : Hundredths k d) : cents d = k := by
  rcases h with rfl | ⟨rfl, rfl⟩ <;> rfl

/-- Every balance is a number of hundredths. -/
def Exact (b : Balances) : Prop := ∀ p ∈ b, Hundredths (cents p.2) p.2

lemma Exact.amountOf {b : Balances} (h : Exact b) (i : Id) :
    Hundredths (cents (amountOf i b)) (amountOf i b) := by
  unfold Balance.amountOf
  split
  next p found => exact h p (List.mem_of_find?_eq_some found)
  next => exact hundredths_zero

lemma Exact.setAmount {b : Balances} (h : Exact b) (i : Id) {a : Decimal}
    (ha : Hundredths (cents a) a) : Exact (setAmount i a b) := by
  induction b with
  | nil =>
    intro p hp
    obtain rfl := List.mem_singleton.mp hp
    exact ha
  | cons q rest ih =>
    obtain ⟨k, x⟩ := q
    have tail : Exact rest := fun p hp => h p (List.mem_cons_of_mem _ hp)
    unfold Balance.setAmount
    intro p hp
    split at hp
    · rcases List.mem_cons.mp hp with rfl | hp
      · exact ha
      · exact tail p hp
    · rcases List.mem_cons.mp hp with rfl | hp
      · exact h _ List.mem_cons_self
      · exact ih tail p hp

/-- To set an amount changes the sum by what it changes. -/
lemma sumCents_setAmount (b : Balances) (i : Id) (a : Decimal) :
    sumCents (setAmount i a b) + cents (amountOf i b) = sumCents b + cents a := by
  induction b with
  | nil => simp [setAmount, sumCents, amountOf, cents, Decimal.zero, Decimal.ofNat]
  | cons q rest ih =>
    obtain ⟨k, x⟩ := q
    by_cases hk : k = i
    · simp only [setAmount, if_pos hk, amountOf, List.find?_cons, decide_eq_true hk, sumCents,
        List.map_cons, List.sum_cons]
      omega
    · have other : amountOf i ((k, x) :: rest) = amountOf i rest := by
        simp only [amountOf, List.find?_cons, decide_eq_false hk]
      have front : ∀ l, sumCents ((k, x) :: l) = cents x + sumCents l := fun _ => rfl
      rw [other, setAmount, if_neg hk, front, front]
      omega

lemma exact_nothingPaid (members : List Id) :
    Exact (nothingPaid members) ∧ sumCents (nothingPaid members) = 0 := by
  suffices ∀ b : Balances, Exact b → sumCents b = 0 →
      Exact (members.foldl (fun b i => setAmount i Decimal.zero b) b) ∧
        sumCents (members.foldl (fun b i => setAmount i Decimal.zero b) b) = 0 from
    this [] (fun _ hp => nomatch hp) rfl
  induction members with
  | nil => exact fun b hb hs => ⟨hb, hs⟩
  | cons i rest ih =>
    intro b hb hs
    have changed := sumCents_setAmount b i Decimal.zero
    have none : cents Decimal.zero = 0 := rfl
    have still : sumCents (setAmount i Decimal.zero b) = 0 := by omega
    exact ih _ (hb.setAmount i hundredths_zero) still

/-- A payment is counted exactly. -/
lemma exists_count {b : Balances} (hb : Exact b) {p : Payment}
    (hp : Hundredths (cents p.amount) p.amount) (h : sumCents b + cents p.amount < 10 ^ 28) :
    ∃ b', count b p = .ok b' ∧ Exact b' ∧ sumCents b' = sumCents b + cents p.amount := by
  have before := sumCents_setAmount b p.payer Decimal.zero
  have none : cents Decimal.zero = 0 := rfl
  obtain ⟨z, sum, hz⟩ := add_hundredths (hb.amountOf p.payer) hp (by omega)
  have value := cents_of_hundredths hz
  refine ⟨setAmount p.payer z b, by rw [count, sum]; rfl, hb.setAmount _ (value ▸ hz), ?_⟩
  have after := sumCents_setAmount b p.payer z
  omega

/-- **What everybody has paid is added up exactly**, given that all of it has at most 28 digits. -/
lemma exists_paid {payments : List Payment} (members : List Id)
    (hp : ∀ p ∈ payments, Hundredths (cents p.amount) p.amount)
    (h : totalCents payments < 10 ^ 28) :
    ∃ b, paid payments members = .ok b ∧ Exact b ∧ sumCents b = totalCents payments := by
  suffices ∀ b : Balances, Exact b → sumCents b + totalCents payments < 10 ^ 28 →
      ∃ b', payments.foldlM count b = .ok b' ∧ Exact b' ∧
        sumCents b' = sumCents b + totalCents payments by
    obtain ⟨nothing, zero⟩ := exact_nothingPaid members
    obtain ⟨b, done, hb, sum⟩ := this _ nothing (by omega)
    exact ⟨b, done, hb, by omega⟩
  clear h
  induction payments with
  | nil => exact fun b hb _ => ⟨b, rfl, hb, rfl⟩
  | cons p rest ih =>
    intro b hb h
    have front : totalCents (p :: rest) = cents p.amount + totalCents rest := rfl
    obtain ⟨b', counted, hb', sum⟩ := exists_count hb (hp p List.mem_cons_self) (by omega)
    obtain ⟨b'', done, hb'', sum'⟩ :=
      ih (fun q hq => hp q (List.mem_cons_of_mem _ hq)) b' hb' (by omega)
    refine ⟨b'', ?_, hb'', by omega⟩
    rw [List.foldlM_cons, counted]
    exact done

/-! ## Deltas -/

/-- Every balance is at most some size. -/
def Bounded (bound : Mark) (b : Balances) : Prop := ∀ p ∈ b, p.2.Within bound.size

/-- Hundredths with at most 28 digits are not more than the largest amount. -/
lemma size_le_of_hundredths {k : Nat} {d : Decimal} (hd : Hundredths k d) (h : k < 10 ^ 28) :
    ∃ c e, d = .finite false c e ∧ size c e ≤ largest.size := by
  rcases hd with rfl | ⟨rfl, rfl⟩
  · exact ⟨_, _, rfl, size_mono (Nat.le_sub_one_of_lt h) _⟩
  · exact ⟨0, 0, rfl, by rw [size_zero]; exact size_nonneg _ _⟩

lemma cents_le_sumCents {b : Balances} {p : Id × Decimal} (hp : p ∈ b) :
    cents p.2 ≤ sumCents b :=
  List.le_sum_of_mem (List.mem_map.mpr ⟨p, hp, rfl⟩)

/-- The balances are added up exactly. -/
lemma exists_sum {b : Balances} (hb : Exact b) (h : sumCents b < 10 ^ 28) :
    ∃ d, Decimal.sum (b.map (·.2)) = .ok d ∧ Hundredths (sumCents b) d := by
  suffices ∀ k x, Hundredths k x → k + sumCents b < 10 ^ 28 →
      ∃ d, (b.map (·.2)).foldlM add x = .ok d ∧ Hundredths (k + sumCents b) d by
    obtain ⟨d, done, hd⟩ := this 0 Decimal.zero hundredths_zero (by omega)
    exact ⟨d, done, by rwa [Nat.zero_add] at hd⟩
  clear h
  induction b with
  | nil => exact fun k x hx _ => ⟨x, rfl, hx⟩
  | cons p rest ih =>
    intro k x hx h
    have front : sumCents (p :: rest) = cents p.2 + sumCents rest := rfl
    obtain ⟨y, sum, hy⟩ := add_hundredths hx (hb p List.mem_cons_self) (by omega)
    obtain ⟨d, done, hd⟩ :=
      ih (fun q hq => hb q (List.mem_cons_of_mem _ hq)) _ y hy (by omega)
    refine ⟨d, ?_, by rwa [front, ← Nat.add_assoc]⟩
    rw [List.map_cons, List.foldlM_cons, sum]
    exact done

/-- A function that has a good value for every item of a list has good ones for the list. -/
lemma exists_mapM {ε α β : Type} {f : α → Except ε β} {P : β → Prop} {l : List α}
    (h : ∀ a ∈ l, ∃ b, f a = .ok b ∧ P b) : ∃ bs, l.mapM f = .ok bs ∧ ∀ b ∈ bs, P b := by
  induction l with
  | nil => exact ⟨[], rfl, fun _ hb => nomatch hb⟩
  | cons a rest ih =>
    obtain ⟨b, hb, good⟩ := h a List.mem_cons_self
    obtain ⟨bs, hbs, all⟩ := ih fun x hx => h x (List.mem_cons_of_mem _ hx)
    refine ⟨b :: bs, by rw [List.mapM_cons, hb, hbs]; rfl, fun x hx => ?_⟩
    rcases List.mem_cons.mp hx with rfl | hx
    · exact good
    · exact all x hx

/-- **There are deltas, and none is larger than the largest amount.** -/
theorem exists_deltas {payments : List Payment} (members : List Id)
    (hp : ∀ p ∈ payments, Hundredths (cents p.amount) p.amount)
    (h : totalCents payments < 10 ^ 28) :
    ∃ ds, deltas payments members = .ok ds ∧ Bounded largest ds := by
  obtain ⟨b, counted, hb, total⟩ := exists_paid members hp h
  obtain ⟨sum, added, hsum⟩ := exists_sum hb (by omega)
  cases b with
  | nil => exact ⟨[], by rw [deltas, counted], fun _ hp => nomatch hp⟩
  | cons first rest =>
    obtain ⟨c, e, rfl, le⟩ := size_le_of_hundredths hsum (by omega)
    have many : 0 < (first :: rest).length := Nat.succ_pos _
    obtain ⟨average, divided, small⟩ := gives_divFinite largest false le many
    obtain ⟨a, x, rfl⟩ := sign_of_divFinite divided
    have quotient : (Decimal.finite false c e).divNat (first :: rest).length =
        .ok (.finite false a x) := by
      rw [divNat, if_neg many.ne', divided]
    simp only [deltas, counted, added, quotient]
    refine exists_mapM fun p hmem => ?_
    have less := cents_le_sumCents hmem
    obtain ⟨d, y, amount, fits⟩ := size_le_of_hundredths (hb p hmem) (by omega)
    obtain ⟨r, difference, within⟩ := gives_add_of_ne largest (n := false) (k := true)
      (.inl Bool.false_ne_true) fits small
    have minus : Decimal.sub p.2 (.finite false a x) = .ok r := by
      rw [amount]
      exact difference
    exact ⟨(p.1, r), by rw [minus]; rfl, within⟩

/-! ## Pairing -/

/-- What the first balance in the queue may grow to. It is so large that an amount added to it is
less than half a unit of its last digit. -/
def cap : Mark where
  coefficient := 10 ^ 27
  exponent := 33
  full := le_rfl
  short := by norm_num
  low := by decide
  high := by decide

lemma largest_lt : largest.size < 1 / 2 * 10 ^ cap.exponent := by
  have high := largest.size_lt_reach.trans_le largest.reach_le_pow
  have low : (10 : ℚ) ^ (28 + largest.exponent) ≤ 1 / 2 * 10 ^ cap.exponent := by
    show (10 : ℚ) ^ (28 + -2 : Int) ≤ 1 / 2 * 10 ^ (33 : Int)
    norm_num
  exact high.trans_le low

lemma largest_le_cap : largest.size ≤ cap.size := by
  have power : (10 : ℚ) ^ cap.exponent ≤ 10 ^ (27 + cap.exponent) :=
    zpow_le_zpow_right₀ (by norm_num) (by omega)
  have pos : (0 : ℚ) < 10 ^ cap.exponent := by positivity
  linarith [largest_lt, cap.pow_le_size]

/-- Somebody stays in the queue with the balance, or leaves it. -/
lemma exists_keep (i : Id) {a : Decimal} (h : a.Within cap.size) :
    ∃ q, keep i a = .ok q ∧ (q = [] ∨ q = [(i, a)]) := by
  obtain ⟨c, e, hm, -⟩ := gives_abs cap h
  have settled : isSettled a = .ok (compareFinite false c e false 1 (-3) != .gt) := by
    rw [isSettled, hm]
    rfl
  rw [keep, settled]
  cases compareFinite false c e false 1 (-3) != .gt
  · exact ⟨_, rfl, .inr rfl⟩
  · exact ⟨_, rfl, .inl rfl⟩

/-- The share of a round is not larger than what the creditor is due, and it can be taken off that
without making it larger. -/
lemma exists_share (c : Nat) (e : Int) {creditor : Decimal} (h : creditor.Within largest.size) :
    ∃ share, smaller (.finite false c e) creditor = .ok share ∧ share.Within largest.size ∧
      Gives largest (Decimal.sub creditor share) := by
  obtain ⟨k, d, f, rfl, due⟩ := h.finite
  rw [smaller, less?_finite]
  by_cases less : (Decimal.finite k d f).value < (Decimal.finite false c e).value
  · refine ⟨.finite k d f, by simp [Except.map, less], due, ?_⟩
    exact gives_add_of_ne largest (.inl (by simp)) due due
  · refine ⟨.finite false c e, by simp [Except.map, less], ?_⟩
    have owed_le : size c e ≤ (Decimal.finite k d f).value := not_lt.mp less
    cases k with
    | false =>
      have le : size c e ≤ size d f := owed_le
      exact ⟨le.trans due, gives_add_of_ne largest (.inl (by simp)) due (le.trans due)⟩
    | true =>
      -- A creditor who is due nothing, or less than nothing: then nothing is owed.
      have le : size c e ≤ -size d f := owed_le
      have due_nonneg := size_nonneg d f
      have none : c = 0 := by
        by_contra some
        linarith [size_pos some e]
      subst none
      have small : size 0 e ≤ largest.size := by
        rw [size_zero]
        linarith
      exact ⟨small, gives_add_of_ne largest (.inr (.inr rfl)) due small⟩

/-- **A round of pairing goes well**, and the balance of the creditor does not grow. -/
lemma exists_round {debtor creditor : Id × Decimal} (hd : debtor.2.Within cap.size)
    (hc : creditor.2.Within largest.size) :
    ∃ r, round debtor creditor = .ok r ∧ r.debtor.Within cap.size ∧
      r.creditor.Within largest.size := by
  obtain ⟨c, e, owed, -⟩ := gives_abs cap hd
  obtain ⟨share, shared, small, left, difference, fits⟩ := exists_share c e hc
  obtain ⟨whole, cents⟩ := exists_toCents small
  obtain ⟨grown, sum, within⟩ := gives_add_of_small cap hd small largest_lt
  have done : round debtor creditor =
      .ok ⟨if whole.isPositive then some ⟨debtor.1, creditor.1, whole⟩ else none, grown, left⟩ := by
    simp only [round, owed, shared, cents, sum, difference]
  exact ⟨_, done, within, fits⟩

/-- A queue of balances of which only the first may be larger than the largest amount. -/
structure Queue (queue : Balances) : Prop where
  all : Bounded cap queue
  others : Bounded largest queue.tail

lemma Bounded.queue {queue : Balances} (h : Bounded largest queue) : Queue queue where
  all p hp := (h p hp).mono largest_le_cap
  others p hp := h p (List.mem_of_mem_tail hp)

/-- What a round leaves is such a queue again. -/
lemma Queue.next {between front back : Balances} {i j : Id} {a c : Decimal}
    (between_ : Bounded largest between) (ha : a.Within cap.size) (hc : c.Within largest.size)
    (hf : front = [] ∨ front = [(i, a)]) (hb : back = [] ∨ back = [(j, c)]) :
    Queue (front ++ between ++ back) := by
  have behind : Bounded largest (between ++ back) := by
    intro p hp
    rcases List.mem_append.mp hp with hp | hp
    · exact between_ p hp
    · rcases hb with rfl | rfl
      · cases hp
      · obtain rfl := List.mem_singleton.mp hp
        exact hc
  rw [List.append_assoc]
  rcases hf with rfl | rfl
  · exact behind.queue
  · refine ⟨fun p hp => ?_, behind⟩
    rcases List.mem_cons.mp hp with rfl | hp
    · exact ha
    · exact (behind p hp).mono largest_le_cap

/-- **Pairing comes to an end or runs out of iterations**: no arithmetic fails in it. Induction on
the iterations that are left; a round leaves a queue of the same kind. -/
lemma exists_pairing (fuel : Nat) {queue : Balances} (h : Queue queue) :
    ∃ r, pairing fuel queue = .ok r := by
  induction fuel generalizing queue with
  | zero => exact ⟨_, rfl⟩
  | succ fuel ih =>
    match queue with
    | [] => exact ⟨_, rfl⟩
    | [p] => exact ⟨_, rfl⟩
    | first :: second :: rest =>
      have due := h.others _ (List.getLast_mem (List.cons_ne_nil second rest))
      obtain ⟨r, paired, debtor, creditor⟩ :=
        exists_round (h.all first List.mem_cons_self) due
      obtain ⟨front, kept, hf⟩ := exists_keep first.1 debtor
      obtain ⟨back, kept', hb⟩ := exists_keep ((second :: rest).getLast (by simp)).1
        (creditor.mono largest_le_cap)
      have between : Bounded largest (second :: rest).dropLast := fun p hp =>
        h.others p (List.mem_of_mem_dropLast hp)
      obtain ⟨left, done⟩ := ih (Queue.next between debtor creditor hf hb)
      exact ⟨(r.transfer.toList ++ left.1, left.2), by
        simp only [pairing, paired, kept, kept', done, Except.map]⟩

/-! ## Transfers -/

/-- The deltas can be added up: what is added to a sum that has reached the cap is lost. -/
lemma exists_sum_within {b : Balances} (h : Bounded largest b) :
    Gives cap (Decimal.sum (b.map (·.2))) := by
  suffices ∀ x : Decimal, x.Within cap.size → Gives cap ((b.map (·.2)).foldlM add x) by
    refine this Decimal.zero (show size 0 0 ≤ cap.size from ?_)
    rw [size_zero]
    exact size_nonneg _ _
  induction b with
  | nil => exact fun x hx => ⟨x, rfl, hx⟩
  | cons p rest ih =>
    intro x hx
    obtain ⟨y, sum, hy⟩ := gives_add_of_small cap hx (h p List.mem_cons_self) largest_lt
    rw [List.map_cons, List.foldlM_cons, sum]
    exact ih (fun q hq => h q (List.mem_cons_of_mem _ hq)) y hy

/-- **No arithmetic fails in finding the transfers for what has been paid**, as long as all of it
comes to at most the largest amount.

**Proof sketch.** The sums are exact, the average is at most the sum, and no delta is larger than
either (`exists_deltas`). In a round of pairing the share is at most what the creditor is due, so
the balance of the creditor does not grow; that of the debtor may grow, but not across the cap. -/
theorem transfers_faultless {payments : List Payment} (members : List Id)
    (hp : ∀ p ∈ payments, Hundredths (cents p.amount) p.amount)
    (h : totalCents payments < 10 ^ 28) (f : Decimal.Fault) :
    transfers payments members ≠ .error (.arithmetic f) := by
  obtain ⟨ds, hds, bounded⟩ := exists_deltas members hp h
  obtain ⟨sum, added, within⟩ := exists_sum_within bounded
  obtain ⟨c, e, off, -⟩ := gives_abs cap within
  have total : (Decimal.sum (ds.map (·.2))).bind Decimal.abs = .ok (.finite false c e) := by
    rw [added]
    exact off
  have compared :
      compare? (.finite false c e) margin = .ok (compareFinite false c e false 1 (-3)) := rfl
  have sorted : Queue (ds.mergeSort orderByAmount) :=
    Bounded.queue fun p hp => bounded p (List.mem_mergeSort.mp hp)
  obtain ⟨r, paired⟩ := exists_pairing (10 * ds.length) sorted
  simp only [transfers, hds, transfersOf, total, compared, paired]
  split
  · simp
  · split
    · cases ‹_›
    · simp
    · split <;> simp

end Balance

end CommonPurse
