import CommonPurse.Balance
import CommonPurse.Proofs.Number.Rounding

/-!
# Pairing, turn by turn

Pairing takes turns: in each of them the first and the last in the queue settle what they can, and
whoever is settled leaves. The deltas of those who wait are in order, and nobody's balance gets on
the other side of zero than the delta, so that those with something to pay stand in front of those
with something to get.

## Main definitions

* `CommonPurse.Balance.Turn` — a round of pairing together with the two who take part in it.
* `CommonPurse.Balance.turns` — the turns of pairing, and the queue that is left.
* `CommonPurse.Balance.share` — what is to change hands in a turn.
* `CommonPurse.Balance.Turn.Plays` — what a turn makes of a queue.
* `CommonPurse.Balance.Course` — a queue, turns that are taken in it, and the queue that is left.
* `CommonPurse.Balance.Sides` — every balance is on the side of its delta, and deltas are in order.

## Main results

* `CommonPurse.Balance.pairing_eq`, `turnsOf_spec` — transfers are those of the turns.
* `CommonPurse.Balance.settles_round` — what a round does to two balances.
* `CommonPurse.Balance.Sides.plays` — turns keep balances on their sides.
* `CommonPurse.Balance.Course.debtor_ne_creditor` — nobody is at both ends of the queue.
-/

namespace CommonPurse.Balance

open Decimal

/-! ## Turns -/

/-- A round of pairing together with the two who take part in it and what they have before. -/
structure Turn where
  debtor : Id × Decimal
  creditor : Id × Decimal
  round : Round
  deriving Repr

lemma behind_ne_nil (second : Id × Decimal) (rest : Balances) : second :: rest ≠ [] :=
  List.cons_ne_nil second rest

/-- The turns of pairing and the queue that is left. -/
def turns : Nat → Balances → Except Fault (List Turn × Balances)
  | 0, queue => .ok ([], queue)
  | fuel + 1, queue =>
    match queue with
    | [] => .ok ([], [])
    | [p] => .ok ([], [p])
    | first :: second :: rest =>
      let last := (second :: rest).getLast (behind_ne_nil second rest)
      let between := (second :: rest).dropLast
      match round first last with
      | .error f => .error f
      | .ok r =>
        match keep first.1 r.debtor, keep last.1 r.creditor with
        | .error f, _ => .error f
        | _, .error f => .error f
        | .ok front, .ok back =>
          (turns fuel (front ++ between ++ back)).map fun p => (⟨first, last, r⟩ :: p.1, p.2)

/-- The transfers that are made in turns. -/
def made (ts : List Turn) : List Transfer := ts.flatMap fun t => t.round.transfer.toList

/-- **The transfers of pairing are those that are made in its turns.** -/
theorem pairing_eq (fuel : Nat) (queue : Balances) :
    pairing fuel queue = (turns fuel queue).map fun p => (made p.1, p.2) := by
  induction fuel generalizing queue with
  | zero => rfl
  | succ fuel ih =>
    match queue with
    | [] => rfl
    | [p] => rfl
    | first :: second :: rest =>
      simp only [pairing, turns]
      cases round first ((second :: rest).getLast (by simp)) with
      | error f => rfl
      | ok r =>
        dsimp only
        cases keep first.1 r.debtor with
        | error f => rfl
        | ok front =>
          cases keep ((second :: rest).getLast (by simp)).1 r.creditor with
          | error f => rfl
          | ok back =>
            dsimp only
            rw [ih]
            cases turns fuel (front ++ (second :: rest).dropLast ++ back) <;> rfl

/-- The turns that lead to the transfers for given deltas. -/
def turnsOf (ds : Balances) : List Turn :=
  match turns (10 * ds.length) (ds.mergeSort orderByAmount) with
  | .ok (ts, _) => ts
  | .error _ => []

lemma turns_of_short (fuel : Nat) {queue : Balances} (h : queue.length ≤ 1) :
    turns fuel queue = .ok ([], queue) := by
  cases fuel with
  | zero => rfl
  | succ fuel =>
    match queue with
    | [] => rfl
    | [p] => rfl
    | _ :: _ :: _ => simp at h

/-- **Transfers are made in the turns that lead to them**, and at the end of these no two people are
left. -/
theorem turnsOf_spec {ds : Balances} {ts : List Transfer} (h : transfersOf ds = .ok ts) :
    ∃ left, turns (10 * ds.length) (ds.mergeSort orderByAmount) = .ok (turnsOf ds, left) ∧
      left.length ≤ 1 ∧ ts = made (turnsOf ds) := by
  suffices ∃ rs left, turns (10 * ds.length) (ds.mergeSort orderByAmount) = .ok (rs, left) ∧
      left.length ≤ 1 ∧ ts = made rs by
    obtain ⟨rs, left, done, short, rfl⟩ := this
    have same : turnsOf ds = rs := by rw [turnsOf, done]
    exact ⟨left, by rw [same, done], short, by rw [same]⟩
  unfold transfersOf at h
  split at h
  next few =>
    obtain rfl := Except.ok.inj h
    have short : (ds.mergeSort orderByAmount).length ≤ 1 := by rwa [List.length_mergeSort]
    exact ⟨[], _, turns_of_short _ short, short, rfl⟩
  next =>
    rw [pairing_eq] at h
    cases done : turns (10 * ds.length) (ds.mergeSort orderByAmount) with
    | error f =>
      rw [done] at h
      dsimp only [Except.map] at h
      split at h
      · cases h
      · split at h <;> cases h
    | ok p =>
      rw [done] at h
      dsimp only [Except.map] at h
      split at h
      · cases h
      · split at h
        · cases h
        · cases h
        · split at h
          · cases h
          next left =>
            obtain rfl := Except.ok.inj h
            exact ⟨p.1, p.2, rfl, by omega, rfl⟩

/-- Why no transfers are found for given deltas. -/
lemma transfersOf_error {ds : Balances} {f : Failure} (h : transfersOf ds = .error f) :
    (∃ g, f = .arithmetic g) ∨
      (∃ sum off, Decimal.sum (ds.map (·.2)) = .ok sum ∧ sum.abs = .ok off ∧
        compare? off margin = .ok .gt) ∨
      ∃ ts left, turns (10 * ds.length) (ds.mergeSort orderByAmount) = .ok (ts, left) ∧
        2 ≤ left.length := by
  unfold transfersOf at h
  split at h
  · cases h
  split at h
  · exact .inl ⟨_, (Except.error.inj h).symm⟩
  next off found =>
    cases added : Decimal.sum (ds.map (·.2)) with
    | error g =>
      rw [added] at found
      cases found
    | ok sum =>
      rw [added] at found
      split at h
      · exact .inl ⟨_, (Except.error.inj h).symm⟩
      next more => exact .inr (.inl ⟨sum, off, rfl, found, more⟩)
      next =>
        rw [pairing_eq] at h
        cases done : turns (10 * ds.length) (ds.mergeSort orderByAmount) with
        | error g =>
          rw [done] at h
          exact .inl ⟨g, (Except.error.inj h).symm⟩
        | ok p =>
          rw [done] at h
          dsimp only [Except.map] at h
          split at h
          next many => exact .inr (.inr ⟨p.1, p.2, rfl, many⟩)
          next => cases h

lemma mem_made {ts : List Turn} {x : Transfer} :
    x ∈ made ts ↔ ∃ t ∈ ts, x ∈ t.round.transfer := by
  simp [made]

lemma length_made_le (ts : List Turn) : (made ts).length ≤ ts.length := by
  induction ts with
  | nil => exact le_rfl
  | cons t rest ih =>
    have one : t.round.transfer.toList.length ≤ 1 := by cases t.round.transfer <;> simp
    have split : made (t :: rest) = t.round.transfer.toList ++ made rest := rfl
    rw [split, List.length_append, List.length_cons]
    omega

/-! ## What a round does -/

/-- What is to change hands between two people: what the first owes, but no more than the second is
due. -/
def share (debtor creditor : Id × Decimal) : ℚ := min |debtor.2.value| creditor.2.value

/-- What a round does to the balances of two people, as far as numbers go. -/
structure Round.Settles (r : Round) (debtor creditor : Id × Decimal) : Prop where
  isResult_debtor : r.debtor.IsResult
  isResult_creditor : r.creditor.IsResult
  near_debtor : Near r.debtor.value (debtor.2.value + share debtor creditor)
  near_creditor : Near r.creditor.value (creditor.2.value - share debtor creditor)
  /-- Whoever is due something and is given more does not have less in the end. -/
  grows : 0 ≤ debtor.2.value → 0 ≤ creditor.2.value → debtor.2.value ≤ r.debtor.value
  /-- Half a hundredth and less is not transferred. -/
  transfer_isSome : r.transfer.isSome ↔ 1 / 200 < share debtor creditor
  transfer : ∀ t ∈ r.transfer, t.payer = debtor.1 ∧ t.payee = creditor.1 ∧
    ∃ k, 0 < k ∧ t.amount = .finite false k (-2)
  transfer_near : ∀ t ∈ r.transfer, |t.amount.value - share debtor creditor| ≤ 1 / 200

lemma value_margin : margin.value = 1 / 1000 := by
  show size 1 (-3) = 1 / 1000
  norm_num [size]

/-- The smaller of two results. -/
lemma smaller_eq {a b d : Decimal} (ha : a.IsResult) (hb : b.IsResult) (h : smaller a b = .ok d) :
    d.IsResult ∧ d.value = min a.value b.value := by
  obtain ⟨n, c, e, rfl, -⟩ := ha.finite
  obtain ⟨k, q, f, rfl, -⟩ := hb.finite
  rw [smaller, less?_finite] at h
  obtain rfl := Except.ok.inj h
  by_cases less : (finite k q f).value < (finite n c e).value
  · simp only [less, decide_true, if_true]
    exact ⟨hb, (min_eq_right less.le).symm⟩
  · simp only [less, decide_false, Bool.false_eq_true, if_false]
    exact ⟨ha, (min_eq_left (not_lt.mp less)).symm⟩

/-- **A round brings the balances of two people closer to zero by the share**, up to rounding. -/
theorem settles_round {debtor creditor : Id × Decimal} {r : Round} (hd : debtor.2.IsResult)
    (hc : creditor.2.IsResult) (h : round debtor creditor = .ok r) :
    r.Settles debtor creditor := by
  obtain ⟨owed, hm, isResult_owed, value_owed⟩ := abs_of_isResult hd
  unfold round at h
  rw [hm] at h
  dsimp only at h
  split at h
  · cases h
  next part smallest =>
    obtain ⟨isResult_part, value_part⟩ := smaller_eq isResult_owed hc smallest
    rw [value_owed] at value_part
    have same : part.value = share debtor creditor := value_part
    split at h
    · cases h
    next cents whole =>
      split at h
      · cases h
      · cases h
      next d c added taken =>
        obtain rfl := Except.ok.inj h
        obtain ⟨isResult_d, near_d⟩ := near_add hd isResult_part added
        obtain ⟨isResult_c, near_c⟩ := near_sub hc isResult_part taken
        obtain ⟨off, some⟩ := value_toCents isResult_part whole
        rw [same] at near_d near_c off some
        refine ⟨isResult_d, isResult_c, near_d, near_c, fun hf hg => ?grows, ?isSome, ?transfer,
          ?near⟩
        case grows =>
          have nonneg : 0 ≤ part.value := value_part ▸ le_min (abs_nonneg _) hg
          exact le_add hd isResult_part hf nonneg added
        case isSome =>
          rw [← some]
          split <;> simp_all
        case transfer =>
          intro t ht
          split at ht
          next positive =>
            obtain rfl := Option.some.inj ht
            refine ⟨rfl, rfl, ?_⟩
            obtain ⟨n, q, f, rfl, -⟩ := isResult_part.finite
            obtain ⟨k, rfl, -, -, -⟩ := toCents_spec whole
            simp only [isPositive, Bool.and_eq_true, Bool.not_eq_true', bne_iff_ne] at positive
            obtain ⟨rfl, ne⟩ := positive
            exact ⟨k, Nat.pos_of_ne_zero ne, rfl⟩
          next => cases ht
        case near =>
          intro t ht
          split at ht
          next =>
            obtain rfl := Option.some.inj ht
            exact off
          next => cases ht

/-- How far a result is from zero, beside the margin. -/
lemma compare_margin {a m : Decimal} (ha : a.IsResult) (hm : a.abs = .ok m) :
    compare? m margin = .ok (compare |a.value| (1 / 1000)) := by
  obtain ⟨m', hm', isResult_m, value_m⟩ := abs_of_isResult ha
  obtain rfl := Except.ok.inj (hm.symm.trans hm')
  obtain ⟨n, c, e, rfl, -⟩ := isResult_m.finite
  rw [← value_m, ← value_margin]
  exact congrArg Except.ok (compareFinite_eq ..)

/-- Whether a result is settled. -/
lemma isSettled_eq {a : Decimal} (ha : a.IsResult) :
    isSettled a = .ok (decide (|a.value| ≤ 1 / 1000)) := by
  obtain ⟨m, hm, -⟩ := abs_of_isResult ha
  rw [isSettled, hm]
  dsimp only
  rw [compare_margin ha hm]
  refine congrArg Except.ok ?_
  rcases lt_trichotomy |a.value| (1 / 1000) with less | same | more
  · rw [compare_lt_iff_lt.mpr less, decide_eq_true less.le]
    rfl
  · rw [same, compare_eq_iff_eq.mpr rfl, decide_eq_true le_rfl]
    rfl
  · rw [compare_gt_iff_gt.mpr more, decide_eq_false more.not_ge]
    rfl

/-- What is left of somebody in the queue: nothing when the balance is settled. -/
def remaining (i : Id) (a : Decimal) : Balances := if |a.value| ≤ 1 / 1000 then [] else [(i, a)]

lemma keep_eq (i : Id) {a : Decimal} (ha : a.IsResult) : keep i a = .ok (remaining i a) := by
  rw [keep, isSettled_eq ha]
  refine congrArg Except.ok ?_
  unfold remaining
  split <;> simp_all

lemma remaining_cases (i : Id) (a : Decimal) :
    remaining i a = [] ∧ |a.value| ≤ 1 / 1000 ∨
      remaining i a = [(i, a)] ∧ 1 / 1000 < |a.value| := by
  unfold remaining
  split
  next small => exact .inl ⟨rfl, small⟩
  next large => exact .inr ⟨rfl, not_le.mp large⟩

lemma remaining_eq (i : Id) (a : Decimal) : remaining i a = [] ∨ remaining i a = [(i, a)] :=
  (remaining_cases i a).imp And.left And.left

lemma mem_remaining {i : Id} {a : Decimal} {p : Id × Decimal} (hp : p ∈ remaining i a) :
    p = (i, a) := by
  rcases remaining_eq i a with same | same <;> rw [same] at hp
  · cases hp
  · exact List.mem_singleton.mp hp

/-! ## The course of pairing -/

/-- A turn between the first and the last of a queue, and what it makes of the queue. -/
structure Turn.Plays (t : Turn) (queue next : Balances) : Prop where
  settles : t.round.Settles t.debtor t.creditor
  exists_between : ∃ between, queue = t.debtor :: (between ++ [t.creditor]) ∧
    next = remaining t.debtor.1 t.round.debtor ++ between ++
      remaining t.creditor.1 t.round.creditor

/-- Pairing with a number of iterations: the queue, the turns, and the queue that is left. -/
inductive Course : Nat → Balances → List Turn → Balances → Prop where
  | exhausted (queue : Balances) : Course 0 queue [] queue
  | ended {fuel : Nat} {queue : Balances} (short : queue.length ≤ 1) : Course fuel queue [] queue
  | turn {fuel : Nat} {queue next left : Balances} {t : Turn} {ts : List Turn}
      (plays : t.Plays queue next) (rest : Course fuel next ts left) :
      Course (fuel + 1) queue (t :: ts) left

/-- Every balance is a result. -/
def Results (b : Balances) : Prop := ∀ p ∈ b, p.2.IsResult

lemma Turn.Plays.mem_cases {t : Turn} {queue next : Balances} (h : t.Plays queue next)
    {p : Id × Decimal} (hp : p ∈ next) :
    p = (t.debtor.1, t.round.debtor) ∨ p = (t.creditor.1, t.round.creditor) ∨ p ∈ queue := by
  obtain ⟨between, rfl, rfl⟩ := h.exists_between
  simp only [List.mem_append] at hp
  rcases hp with (hp | hp) | hp
  · exact .inl (mem_remaining hp)
  · exact .inr (.inr (List.mem_cons_of_mem _ (List.mem_append_left _ hp)))
  · exact .inr (.inl (mem_remaining hp))

lemma Turn.Plays.results {t : Turn} {queue next : Balances} (h : t.Plays queue next)
    (results : Results queue) : Results next := by
  intro p hp
  rcases h.mem_cases hp with rfl | rfl | hp
  · exact h.settles.isResult_debtor
  · exact h.settles.isResult_creditor
  · exact results p hp

/-- Nobody comes into the queue, and its order stays. -/
lemma Turn.Plays.sublist {t : Turn} {queue next : Balances} (h : t.Plays queue next) :
    (next.map (·.1)).Sublist (queue.map (·.1)) := by
  obtain ⟨between, rfl, rfl⟩ := h.exists_between
  have shorter (i : Id) (a : Decimal) : ((remaining i a).map (·.1)).Sublist [i] := by
    rcases remaining_eq i a with same | same <;> simp [same]
  simp only [List.map_append, List.map_cons, List.map_nil]
  exact ((shorter _ _).append_right _).append (shorter _ _)

/-- **The turns of pairing are a course of it.** -/
theorem course_of_turns {fuel : Nat} {queue left : Balances} {ts : List Turn}
    (results : Results queue) (h : turns fuel queue = .ok (ts, left)) :
    Course fuel queue ts left := by
  induction fuel generalizing queue ts with
  | zero =>
    obtain ⟨rfl, rfl⟩ := Prod.mk.inj (Except.ok.inj h)
    exact .exhausted queue
  | succ fuel ih =>
    match queue with
    | [] =>
      obtain ⟨rfl, rfl⟩ := Prod.mk.inj (Except.ok.inj h)
      exact .ended (Nat.zero_le 1)
    | [p] =>
      obtain ⟨rfl, rfl⟩ := Prod.mk.inj (Except.ok.inj h)
      exact .ended le_rfl
    | first :: second :: rest =>
      have full : second :: rest ≠ [] := List.cons_ne_nil second rest
      have queue_eq := List.dropLast_append_getLast full
      have mem_last := List.getLast_mem full
      simp only [turns] at h
      split at h
      · cases h
      next r played =>
        have settles := settles_round (results first List.mem_cons_self)
          (results _ (List.mem_cons_of_mem _ mem_last)) played
        rw [keep_eq _ settles.isResult_debtor, keep_eq _ settles.isResult_creditor] at h
        dsimp only at h
        cases later : turns fuel (remaining first.1 r.debtor ++ (second :: rest).dropLast ++
            remaining ((second :: rest).getLast full).1 r.creditor) with
        | error f =>
          rw [later] at h
          cases h
        | ok p =>
          rw [later] at h
          obtain ⟨rfl, rfl⟩ := Prod.mk.inj (Except.ok.inj h)
          have plays : (Turn.mk first ((second :: rest).getLast full) r).Plays
              (first :: second :: rest) (remaining first.1 r.debtor ++ (second :: rest).dropLast ++
                remaining ((second :: rest).getLast full).1 r.creditor) :=
            ⟨settles, (second :: rest).dropLast, by rw [queue_eq], rfl⟩
          exact .turn plays (ih (plays.results results) later)

/-! ## Both sides of zero -/

/-- Everybody in the queue has a balance on the side of the delta, and the deltas are in order. -/
structure Sides (delta : Id → ℚ) (queue : Balances) : Prop where
  results : Results queue
  ordered : (queue.map (·.1)).Pairwise fun i j => delta i ≤ delta j
  nonpos : ∀ p ∈ queue, delta p.1 ≤ 0 → p.2.value ≤ 0
  nonneg : ∀ p ∈ queue, 0 ≤ delta p.1 → 0 ≤ p.2.value

variable {delta : Id → ℚ} {queue next left : Balances} {t u : Turn} {ts : List Turn}

lemma Turn.Plays.debtor_mem (h : t.Plays queue next) : t.debtor ∈ queue := by
  obtain ⟨between, rfl, -⟩ := h.exists_between
  exact List.mem_cons_self

lemma Turn.Plays.creditor_mem (h : t.Plays queue next) : t.creditor ∈ queue := by
  obtain ⟨between, rfl, -⟩ := h.exists_between
  exact List.mem_cons_of_mem _ (List.mem_append_right _ (List.mem_singleton_self _))

/-- Nobody's delta is less than that of the first in the queue. -/
lemma Sides.delta_le (h : Sides delta queue) (plays : t.Plays queue next) {p : Id × Decimal}
    (hp : p ∈ queue) : delta t.debtor.1 ≤ delta p.1 := by
  obtain ⟨between, rfl, -⟩ := plays.exists_between
  rcases List.mem_cons.mp hp with rfl | hp
  · exact le_rfl
  · exact List.rel_of_pairwise_cons h.ordered (List.mem_map_of_mem hp)

/-- Nobody's delta is greater than that of the last in the queue. -/
lemma Sides.le_delta (h : Sides delta queue) (plays : t.Plays queue next) {p : Id × Decimal}
    (hp : p ∈ queue) : delta p.1 ≤ delta t.creditor.1 := by
  obtain ⟨between, rfl, -⟩ := plays.exists_between
  have ordered := h.ordered
  rw [← List.cons_append, List.map_append, List.pairwise_append] at ordered
  rw [← List.cons_append] at hp
  rcases List.mem_append.mp hp with hp | hp
  · exact ordered.2.2 _ (List.mem_map_of_mem hp) _ (List.mem_singleton_self _)
  · rw [List.mem_singleton.mp hp]

namespace Round.Settles

variable {r : Round} {debtor creditor : Id × Decimal} (h : r.Settles debtor creditor)

include h

/-- Nobody in front pays more than is owed. -/
lemma debtor_nonpos (hf : debtor.2.value ≤ 0) : r.debtor.value ≤ 0 := by
  refine h.near_debtor.nonpos ?_
  have most : share debtor creditor ≤ |debtor.2.value| := min_le_left _ _
  rw [abs_of_nonpos hf] at most
  linarith

/-- Nobody at the end is given more than is due. -/
lemma creditor_nonneg : 0 ≤ r.creditor.value := by
  refine h.near_creditor.nonneg ?_
  have most : share debtor creditor ≤ creditor.2.value := min_le_right _ _
  linarith

/-- Somebody at the end who is due nothing is settled. -/
lemma creditor_eq_zero (hg : creditor.2.value ≤ |debtor.2.value|) : r.creditor.value = 0 := by
  have near := h.near_creditor
  rw [share, min_eq_right hg, sub_self] at near
  exact near.eq_zero

end Round.Settles

/-- **A turn keeps everybody's balance on the side of the delta.** -/
theorem Sides.plays (h : Sides delta queue) (plays : t.Plays queue next) : Sides delta next where
  results := plays.results h.results
  ordered := h.ordered.sublist plays.sublist
  nonpos p hp less := by
    rcases plays.mem_cases hp with rfl | rfl | hp
    · exact plays.settles.debtor_nonpos (h.nonpos _ plays.debtor_mem less)
    · have due := h.nonpos _ plays.creditor_mem less
      exact (plays.settles.creditor_eq_zero (due.trans (abs_nonneg _))).le
    · exact h.nonpos p hp less
  nonneg p hp more := by
    rcases plays.mem_cases hp with rfl | rfl | hp
    · have due := h.nonneg _ plays.debtor_mem more
      have due' := h.nonneg _ plays.creditor_mem
        (le_trans more (h.delta_le plays plays.creditor_mem))
      exact due.trans (plays.settles.grows due due')
    · exact plays.settles.creditor_nonneg
    · exact h.nonneg p hp more

/-- Every turn in the course of pairing is played in a queue with everybody on the right side. -/
lemma Course.exists_sides {fuel : Nat} (h : Course fuel queue ts left)
    (sides : Sides delta queue) (ht : t ∈ ts) : ∃ q q', t.Plays q q' ∧ Sides delta q := by
  induction h with
  | exhausted => cases ht
  | ended => cases ht
  | turn plays rest ih =>
    rcases List.mem_cons.mp ht with rfl | ht
    · exact ⟨_, _, plays, sides⟩
    · exact ih (sides.plays plays) ht

/-- Every transfer is made in such a turn. -/
lemma Course.exists_turn {fuel : Nat} (h : Course fuel queue ts left) (sides : Sides delta queue)
    {x : Transfer} (hx : x ∈ made ts) :
    ∃ t ∈ ts, ∃ q q', t.Plays q q' ∧ Sides delta q ∧ x ∈ t.round.transfer := by
  obtain ⟨t, ht, hx⟩ := mem_made.mp hx
  obtain ⟨q, q', plays, sides'⟩ := h.exists_sides sides ht
  exact ⟨t, ht, q, q', plays, sides', hx⟩

/-! ## The two ends of the queue -/

/-- Who stands in a queue before a turn and after it. -/
lemma Turn.Plays.exists_ids (h : t.Plays queue next) :
    ∃ front between back, queue.map (·.1) = t.debtor.1 :: between ++ [t.creditor.1] ∧
      next.map (·.1) = front ++ between ++ back ∧ (front = [] ∨ front = [t.debtor.1]) ∧
      (back = [] ∨ back = [t.creditor.1]) := by
  obtain ⟨between, rfl, rfl⟩ := h.exists_between
  refine ⟨(remaining t.debtor.1 t.round.debtor).map (·.1), between.map (·.1),
    (remaining t.creditor.1 t.round.creditor).map (·.1), by simp, by simp, ?_, ?_⟩
  · rcases remaining_eq t.debtor.1 t.round.debtor with same | same <;> simp [same]
  · rcases remaining_eq t.creditor.1 t.round.creditor with same | same <;> simp [same]

/-- Who stands in front of the last stood there before a turn, and so did who stands behind the
first. -/
lemma Turn.Plays.subset_ends (h : t.Plays queue next) :
    (next.map (·.1)).dropLast ⊆ (queue.map (·.1)).dropLast ∧
      (next.map (·.1)).tail ⊆ (queue.map (·.1)).tail := by
  obtain ⟨front, between, back, old, new, hf, hb⟩ := h.exists_ids
  have tail_eq : (t.debtor.1 :: between ++ [t.creditor.1]).tail = between ++ [t.creditor.1] := rfl
  rw [old, new, List.dropLast_concat, tail_eq]
  constructor
  · intro i hi
    rcases hb with rfl | rfl
    · rw [List.append_nil] at hi
      rcases hf with rfl | rfl
      · exact List.mem_cons_of_mem _ (List.mem_of_mem_dropLast hi)
      · exact List.mem_of_mem_dropLast hi
    · rw [List.dropLast_concat] at hi
      rcases hf with rfl | rfl
      · exact List.mem_cons_of_mem _ hi
      · exact hi
  · have behind : between ++ back ⊆ between ++ [t.creditor.1] := by
      rcases hb with rfl | rfl
      · simp
      · exact fun _ hi => hi
    intro i hi
    rcases hf with rfl | rfl
    · exact behind (List.mem_of_mem_tail hi)
    · exact behind hi

/-- Nobody pays who stands last in the queue, and nobody is paid who stands first. -/
lemma Course.mem_ends {fuel : Nat} (h : Course fuel queue ts left) (ht : t ∈ ts) :
    t.debtor.1 ∈ (queue.map (·.1)).dropLast ∧ t.creditor.1 ∈ (queue.map (·.1)).tail := by
  induction h with
  | exhausted => cases ht
  | ended => cases ht
  | turn plays _ ih =>
    rcases List.mem_cons.mp ht with rfl | ht
    · obtain ⟨front, between, back, old, -⟩ := plays.exists_ids
      rw [old, List.dropLast_concat]
      exact ⟨List.mem_cons_self, List.mem_append_right _ (List.mem_singleton_self _)⟩
    · obtain ⟨front, back⟩ := plays.subset_ends
      exact ⟨front (ih ht).1, back (ih ht).2⟩

/-- Whoever pays in one turn is not paid in another one. -/
lemma Course.debtor_ne_creditor {fuel : Nat} (h : Course fuel queue ts left)
    (distinct : (queue.map (·.1)).Nodup) (ht : t ∈ ts) (hu : u ∈ ts) :
    t.debtor.1 ≠ u.creditor.1 := by
  induction h with
  | exhausted => cases ht
  | ended => cases ht
  | turn plays rest ih =>
    have front := ((Course.turn plays rest).mem_ends ht).1
    have back := ((Course.turn plays rest).mem_ends hu).2
    obtain ⟨-, between, -, old, -⟩ := plays.exists_ids
    rcases List.mem_cons.mp ht with rfl | later
    · -- Who stands first is not among those behind.
      rw [old] at back distinct
      exact fun same => (List.nodup_cons.mp distinct).1 (same ▸ back)
    rcases List.mem_cons.mp hu with rfl | later'
    · -- Who stands last is not among those in front.
      rw [old, List.dropLast_concat] at front
      rw [old] at distinct
      exact fun same => (List.nodup_append'.mp distinct).2.2 front
        (same ▸ List.mem_singleton_self _)
    · exact ih (distinct.sublist plays.sublist) later later'

/-! ## The queue in the beginning -/

/-- The delta of everybody, as a number. -/
def deltaOf (ds : Balances) (i : Id) : ℚ := (amountOf i ds).value

lemma amountOf_eq {ds : Balances} (distinct : (ds.map (·.1)).Nodup) {p : Id × Decimal}
    (hp : p ∈ ds) : amountOf p.1 ds = p.2 := by
  induction ds with
  | nil => cases hp
  | cons q rest ih =>
    obtain ⟨fresh, distinct'⟩ := List.nodup_cons.mp distinct
    rcases List.mem_cons.mp hp with rfl | hp
    · simp [amountOf]
    · have other : q.1 ≠ p.1 := fun same => fresh (List.mem_map.mpr ⟨p, hp, same.symm⟩)
      rw [← ih distinct' hp]
      simp [amountOf, other]

/-- Results are put in order as the numbers that they are. -/
lemma orderByAmount_eq {p q : Id × Decimal} (hp : p.2.IsResult) (hq : q.2.IsResult) :
    orderByAmount p q = decide (p.2.value ≤ q.2.value) := by
  obtain ⟨n, c, e, same, -⟩ := hp.finite
  obtain ⟨k, d, f, same', -⟩ := hq.finite
  rw [orderByAmount, same, same', less?_finite]
  simp [← not_le]

/-- What is put in order is in order. -/
lemma pairwise_mergeSort {ds : Balances} (results : Results ds) :
    (ds.mergeSort orderByAmount).Pairwise fun p q => p.2.value ≤ q.2.value := by
  have same : ds.mergeSort orderByAmount =
      ds.mergeSort fun p q => decide (p.2.value ≤ q.2.value) := by
    have mapped := List.map_mergeSort (f := id) (s := fun p q => decide (p.2.value ≤ q.2.value))
      fun p hp q hq => orderByAmount_eq (results p hp) (results q hq)
    simpa using mapped
  rw [same]
  have sorted : (ds.mergeSort fun p q => decide (p.2.value ≤ q.2.value)).Pairwise fun p q =>
      decide (p.2.value ≤ q.2.value) = true :=
    List.pairwise_mergeSort (by simpa using fun a b c => le_trans)
      (by simpa using fun a b => le_total _ _) ds
  simpa using sorted

/-- **In the beginning everybody has the delta as balance.** -/
theorem sides_mergeSort {ds : Balances} (results : Results ds)
    (distinct : (ds.map (·.1)).Nodup) : Sides (deltaOf ds) (ds.mergeSort orderByAmount) where
  results p hp := results p (List.mem_mergeSort.mp hp)
  ordered := by
    refine List.pairwise_map.mpr ((pairwise_mergeSort results).imp_of_mem ?_)
    intro p q hp hq le
    rwa [deltaOf, deltaOf, amountOf_eq distinct (List.mem_mergeSort.mp hp),
      amountOf_eq distinct (List.mem_mergeSort.mp hq)]
  nonpos p hp less := by
    rwa [deltaOf, amountOf_eq distinct (List.mem_mergeSort.mp hp)] at less
  nonneg p hp more := by
    rwa [deltaOf, amountOf_eq distinct (List.mem_mergeSort.mp hp)] at more

end CommonPurse.Balance
