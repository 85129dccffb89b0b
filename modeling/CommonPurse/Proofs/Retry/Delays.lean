import CommonPurse.Proofs.Number.Powers
import CommonPurse.Retry

/-!
# Delays

The delays of a policy without jitter ascend and are never above its greatest delay, as long as
they can be computed and are numbers.

## Main definitions

* `CommonPurse.Retry.Quantity.AtMost` — the order of quantities.
* `CommonPurse.Retry.Quantity.worth` — what a quantity that is not negative is worth.
* `CommonPurse.Retry.Policy.Proper` — a policy that allows an attempt and whose delays grow.

## Main results

* `CommonPurse.Retry.Quantity.atMost_iff_worth` — the order of quantities is that of their worth.
* `CommonPurse.Retry.Policy.Proper.delay_atMost` — delays are never above the greatest one.
* `CommonPurse.Retry.Policy.Proper.pairwise_delays` — delays ascend.
-/

namespace CommonPurse.Retry

/-! ## The order of quantities -/

namespace Quantity

/-- Whether a quantity is no number. -/
def isNaN : Quantity → Bool
  | real .nan => true
  | _ => false

/-- Both quantities are numbers, and the second is not less than the first. -/
def AtMost (a b : Quantity) : Prop := a.isNaN = false ∧ b.isNaN = false ∧ less b a = false

instance (a b : Quantity) : Decidable (a.AtMost b) :=
  inferInstanceAs (Decidable (_ ∧ _ ∧ _))

/-- What a quantity is worth that is not negative; infinity is worth more than all numbers. -/
def worth : Quantity → WithTop ℚ
  | whole n => ((n : ℚ) : WithTop ℚ)
  | real x => x.worth

/-- A quantity that is not negative. -/
def NonNegative : Quantity → Prop
  | whole n => 0 ≤ n
  | real x => x.NonNegative

lemma isNaN_of_nonNegative {a : Quantity} (h : a.NonNegative) : a.isNaN = false := by
  match a with
  | whole _ | real (.infinite _) | real (.finite ..) => rfl
  | real .nan => exact h.elim

/-- A whole number and a real one are compared as they are. -/
lemma less_finite_iff (k : ℤ) (n : Bool) (s : ℕ) (e : ℤ) :
    (less (whole k) (real (.finite n s e)) = true ↔ (k : ℚ) < (Binary64.finite n s e).value) ∧
      (less (real (.finite n s e)) (whole k) = true ↔ (Binary64.finite n s e).value < k) := by
  obtain ⟨pos, ratio⟩ := Binary64.toRatio_spec (.finite n s e)
  have pos : (0 : ℚ) < (Binary64.finite n s e).toRatio.2 := by exact_mod_cast pos
  simp only [less, decide_eq_true_iff]
  rw [← ratio, lt_div_iff₀ pos, div_lt_iff₀ pos]
  exact ⟨by exact_mod_cast Iff.rfl, by exact_mod_cast Iff.rfl⟩

/-- What is at least a whole number is worth that much. -/
lemma le_worth_of_atMost {k : ℤ} {a : Quantity} (h : (whole k).AtMost a) :
    ((k : ℚ) : WithTop ℚ) ≤ a.worth := by
  obtain ⟨-, number, above⟩ := h
  match a with
  | whole n =>
    have above : k ≤ n := by simpa [less] using above
    exact WithTop.coe_le_coe.mpr (by exact_mod_cast above)
  | real .nan => cases number
  | real (.infinite true) => cases above
  | real (.infinite false) => exact le_top
  | real (.finite n s e) =>
    rw [Bool.eq_false_iff, Ne, (less_finite_iff k n s e).2, not_lt] at above
    exact WithTop.coe_le_coe.mpr above

lemma nonNegative_of_atMost {a : Quantity} (h : (whole 0).AtMost a) : a.NonNegative := by
  obtain ⟨-, number, above⟩ := h
  match a with
  | whole n => simpa [less, NonNegative] using above
  | real .nan => cases number
  | real (.infinite n) => simpa [less, NonNegative, Binary64.NonNegative] using above
  | real (.finite n s e) =>
    rintro rfl
    rw [Bool.eq_false_iff, Ne, (less_finite_iff 0 _ s e).2, not_lt] at above
    have pos : (0 : ℚ) < 2 ^ e := by positivity
    have above : (0 : ℚ) ≤ -(s : ℚ) * 2 ^ e := by simpa [Binary64.value] using above
    have none : (s : ℚ) = 0 := by
      have positive : (0 : ℚ) ≤ s := by positivity
      have := nonneg_of_mul_nonneg_left above pos
      linarith
    exact_mod_cast none

/-- The order of quantities that are not negative is that of their worth. -/
lemma less_iff_worth {a b : Quantity} (ha : a.NonNegative) (hb : b.NonNegative) :
    less a b = true ↔ a.worth < b.worth := by
  match a, b with
  | whole n, whole k => simp [less, worth]
  | real x, real y => exact Binary64.lt_iff_worth ha hb
  | real .nan, _ => exact ha.elim
  | _, real .nan => exact hb.elim
  | real (.infinite true), _ => cases ha
  | _, real (.infinite true) => cases hb
  | whole n, real (.infinite false) => simp [less, worth, Binary64.worth]
  | real (.infinite false), whole k => simp [less, worth, Binary64.worth]
  | whole k, real (.finite n s e) =>
    exact (less_finite_iff k n s e).1.trans WithTop.coe_lt_coe.symm
  | real (.finite n s e), whole k =>
    exact (less_finite_iff k n s e).2.trans WithTop.coe_lt_coe.symm

/-- **The order of quantities** that are not negative is that of their worth. -/
lemma atMost_iff_worth {a b : Quantity} (ha : a.NonNegative) (hb : b.NonNegative) :
    a.AtMost b ↔ a.worth ≤ b.worth := by
  have order : less b a = false ↔ a.worth ≤ b.worth := by
    rw [← not_lt, ← less_iff_worth hb ha, Bool.not_eq_true]
  simp only [AtMost, isNaN_of_nonNegative ha, isNaN_of_nonNegative hb, order, true_and]

/-- The smaller of two quantities that are not negative. -/
lemma min_spec {a b : Quantity} (ha : a.NonNegative) (hb : b.NonNegative) :
    (min a b).NonNegative ∧ (min a b).worth = a.worth ⊓ b.worth := by
  unfold min
  split_ifs with h
  · rw [less_iff_worth hb ha] at h
    exact ⟨hb, (inf_eq_right.mpr h.le).symm⟩
  · rw [less_iff_worth hb ha, not_lt] at h
    exact ⟨ha, (inf_eq_left.mpr h).symm⟩

/-- The smaller of two quantities is no number when the first one is none. -/
lemma isNaN_min {a b : Quantity} (h : (min a b).isNaN = false) : a.isNaN = false := by
  match a with
  | whole _ | real (.infinite _) | real (.finite ..) => rfl
  | real .nan =>
    have incomparable : less b (real .nan) = false := by
      match b with
      | whole _ | real .nan | real (.infinite _) | real (.finite ..) => rfl
    rw [min, incomparable] at h
    cases h

/-- The smaller of two quantities is at most the second one. -/
lemma min_atMost {a b : Quantity} (hb : b.NonNegative) (number : (min a b).isNaN = false) :
    (min a b).AtMost b := by
  refine ⟨number, isNaN_of_nonNegative hb, ?_⟩
  unfold min
  split_ifs with h
  · rw [Bool.eq_false_iff, Ne, less_iff_worth hb hb]
    exact lt_irrefl _
  · exact Bool.eq_false_iff.mpr h

/-! ## Powers and products -/

/-- Whether a quantity is a whole number. -/
def isWhole : Quantity → Bool
  | whole _ => true
  | real _ => false

lemma real_of_powReal {x y : Binary64} {n : ℤ} {f : Quantity} (power : x.pow? n = some y)
    (h : powReal x n = .ok f) : f = real y := by
  unfold powReal at h
  rw [power] at h
  match y with
  | .nan | .finite .. =>
    cases h
    rfl
  | .infinite k =>
    dsimp only at h
    split_ifs at h
    cases h
    rfl

/-- A whole number, or a real one in the form of the format. -/
def Canonical : Quantity → Prop
  | whole _ => True
  | real x => x.Canonical

instance (a : Quantity) : Decidable a.Canonical :=
  match a with
  | whole _ => isTrue trivial
  | real x => inferInstanceAs (Decidable x.Canonical)

/-- The powers of a quantity from one on ascend. -/
lemma pow_mono {b : Quantity} (one : (whole 1).AtMost b)
    (form : b.Canonical) {k : ℕ} {f g : Quantity} (hf : b.pow k = .ok f)
    (hg : b.pow (k + 1 : ℕ) = .ok g) :
    f.NonNegative ∧ g.NonNegative ∧ f.isWhole = g.isWhole ∧ f.worth ≤ g.worth := by
  match b with
  | whole n =>
    have least : 1 ≤ n := by simpa [AtMost, less, isNaN] using one
    have power : ∀ i : ℕ, (whole n).pow i = .ok (whole (n ^ i)) := by
      intro i
      simp only [pow, Int.natCast_nonneg, if_true, Int.toNat_natCast]
      rfl
    rw [power] at hf hg
    cases hf
    cases hg
    have grow : n ^ k ≤ n ^ (k + 1) := pow_le_pow_right₀ least (Nat.le_succ k)
    refine ⟨?_, ?_, rfl, WithTop.coe_le_coe.mpr (by exact_mod_cast grow)⟩
    · exact pow_nonneg (by omega) k
    · exact pow_nonneg (by omega) (k + 1)
  | real x =>
    have least : 1 ≤ x.worth := by exact_mod_cast le_worth_of_atMost one
    obtain ⟨y, z, hy, hz, above, ascends⟩ := Binary64.worth_pow_mono form least k
    obtain rfl := real_of_powReal hy hf
    obtain rfl := real_of_powReal hz hg
    have positive := zero_lt_one.trans_le above
    exact ⟨Binary64.nonNegative_of_worth_pos positive,
      Binary64.nonNegative_of_worth_pos (positive.trans_le ascends), rfl, ascends⟩

/-- What a whole number is as a real one. -/
lemma real_of_toReal {n : ℤ} (hn : 0 ≤ n) {x : Binary64} (h : (whole n).toReal = .ok x) :
    x = Binary64.ofRatio false n.natAbs 1 := by
  have sign : Binary64.ofInt n = Binary64.ofRatio false n.natAbs 1 := by
    rw [Binary64.ofInt, decide_eq_false (by omega)]
  simp only [toReal, sign] at h
  split at h
  · cases h
  · cases h
    rfl

/-- Real numbers keep the order of quantities. -/
lemma toReal_mono {f g : Quantity} (hf : f.NonNegative) (hg : g.NonNegative)
    (kind : f.isWhole = g.isWhole) (h : f.worth ≤ g.worth) {y z : Binary64}
    (hy : f.toReal = .ok y) (hz : g.toReal = .ok z) :
    y.NonNegative ∧ z.NonNegative ∧ y.worth ≤ z.worth := by
  match f, g with
  | real _, real _ =>
    cases hy
    cases hz
    exact ⟨hf, hg, h⟩
  | whole n, whole k =>
    rw [real_of_toReal hf hy, real_of_toReal hg hz]
    refine ⟨Binary64.nonNegative_ofRatio _ _, Binary64.nonNegative_ofRatio _ _,
      Binary64.worth_ofRatio_mono one_pos one_pos ?_⟩
    have h : n ≤ k := by exact_mod_cast WithTop.coe_le_coe.mp h
    have less : n.natAbs ≤ k.natAbs := by
      change 0 ≤ n at hf
      omega
    gcongr
  | whole _, real _ | real _, whole _ => cases kind

/-- What a product is: whole when both factors are, and else that of real numbers. -/
lemma mul_eq_ok {a f d : Quantity} (h : a.mul f = .ok d) :
    (∃ n k, a = whole n ∧ f = whole k ∧ d = whole (n * k)) ∨
      ∃ x y, a.toReal = .ok x ∧ f.toReal = .ok y ∧ d = real (x.mul y) := by
  unfold mul at h
  split at h
  · cases h
    exact .inl ⟨_, _, rfl, rfl, rfl⟩
  · split at h
    · rename_i x y hx hy
      cases h
      exact .inr ⟨x, y, hx, hy, rfl⟩
    · cases h
    · cases h

/-- **Products with a quantity that is not negative** keep the order, as long as they are
numbers. -/
theorem mul_mono {a f g d d' : Quantity} (ha : a.NonNegative) (hf : f.NonNegative)
    (hg : g.NonNegative) (kind : f.isWhole = g.isWhole) (h : f.worth ≤ g.worth)
    (hd : a.mul f = .ok d) (hd' : a.mul g = .ok d') (number : d.isNaN = false)
    (number' : d'.isNaN = false) :
    d.NonNegative ∧ d'.NonNegative ∧ d.worth ≤ d'.worth := by
  have isNumber : ∀ {x : Binary64}, (real x).isNaN = false → x ≠ .nan := by
    rintro x number rfl
    cases number
  rcases mul_eq_ok hd with ⟨n, k, rfl, rfl, rfl⟩ | ⟨x, y, hx, hy, rfl⟩
  · match g with
    | real _ => cases kind
    | whole l =>
      cases hd'
      have h : k ≤ l := by exact_mod_cast WithTop.coe_le_coe.mp h
      refine ⟨mul_nonneg ha hf, mul_nonneg ha hg, WithTop.coe_le_coe.mpr ?_⟩
      exact_mod_cast mul_le_mul_of_nonneg_left h ha
  · rcases mul_eq_ok hd' with ⟨n, k, rfl, rfl, rfl⟩ | ⟨x', z, hx', hz, rfl⟩
    · match f with
      | real _ => cases kind
      | whole _ => cases hd
    · obtain rfl : x = x' := Except.ok.inj (hx.symm.trans hx')
      obtain ⟨hx, -, -⟩ := toReal_mono ha ha rfl le_rfl hx hx
      obtain ⟨hy, hz, ascends⟩ := toReal_mono hf hg kind h hy hz
      exact Binary64.worth_mul_mono hx hy hz ascends (isNumber number) (isNumber number')

end Quantity

/-! ## The delays of a policy -/

open Quantity

/-- A policy that allows at least one attempt and has no jitter. Its first and its greatest delay
are not negative, and its base is at least one. -/
structure Policy.Proper (p : Policy) : Prop where
  attempts : 1 ≤ p.maxAttempts
  initialDelay : (whole 0).AtMost p.initialDelay
  maxDelay : (whole 0).AtMost p.maxDelay
  base : (whole 1).AtMost p.base
  canonical : p.base.Canonical
  even : p.jitter = none

namespace Policy

instance (p : Policy) : Decidable p.Proper :=
  decidable_of_iff
    (1 ≤ p.maxAttempts ∧ (whole 0).AtMost p.initialDelay ∧ (whole 0).AtMost p.maxDelay ∧
      (whole 1).AtMost p.base ∧ p.base.Canonical ∧ p.jitter = none)
    ⟨fun ⟨a, i, m, b, c, e⟩ => ⟨a, i, m, b, c, e⟩, fun ⟨a, i, m, b, c, e⟩ => ⟨a, i, m, b, c, e⟩⟩

variable {p : Policy}

/-- How a delay without jitter is computed. -/
lemma delay_eq_ok (even : p.jitter = none) {k : ℤ} {d : Quantity} (h : p.delay k = .ok d) :
    ∃ f c, p.base.pow k = .ok f ∧ p.initialDelay.mul f = .ok c ∧ d = c.min p.maxDelay := by
  unfold delay at h
  rw [even] at h
  split at h
  · cases h
  · rename_i f power
    split at h
    · cases h
    · rename_i c product
      cases h
      exact ⟨f, c, power, product, rfl⟩

/-- A delay that is a number is never above the greatest one. -/
lemma Proper.delay_atMost (h : p.Proper) {k : ℤ} {d : Quantity} (hd : p.delay k = .ok d)
    (number : d.isNaN = false) : d.AtMost p.maxDelay := by
  obtain ⟨f, c, -, -, rfl⟩ := delay_eq_ok h.even hd
  exact min_atMost (nonNegative_of_atMost h.maxDelay) number

/-- **Delays ascend**, as long as they can be computed and are numbers. -/
theorem Proper.delay_mono (h : p.Proper) {k : ℕ} {d d' : Quantity} (hd : p.delay k = .ok d)
    (hd' : p.delay (k + 1 : ℕ) = .ok d') (number : d.isNaN = false) (number' : d'.isNaN = false) :
    d.NonNegative ∧ d'.NonNegative ∧ d.worth ≤ d'.worth := by
  obtain ⟨f, c, power, product, rfl⟩ := delay_eq_ok h.even hd
  obtain ⟨g, c', power', product', rfl⟩ := delay_eq_ok h.even hd'
  obtain ⟨hf, hg, kind, ascends⟩ := pow_mono h.base h.canonical power power'
  have most := nonNegative_of_atMost h.maxDelay
  obtain ⟨hc, hc', ascends⟩ := mul_mono (nonNegative_of_atMost h.initialDelay) hf hg kind ascends
    product product' (isNaN_min number) (isNaN_min number')
  obtain ⟨hmin, worth⟩ := min_spec hc most
  obtain ⟨hmin', worth'⟩ := min_spec hc' most
  rw [worth, worth']
  exact ⟨hmin, hmin', inf_le_inf_right _ ascends⟩

/-- The delays of a policy that follow each other ascend as a whole. -/
theorem Proper.pairwise_delays (h : p.Proper) {ds : List Quantity}
    (delays : ds.map .ok = (List.range ds.length).map fun k : ℕ => p.delay k)
    (numbers : ∀ d ∈ ds, d.isNaN = false) : ds.Pairwise Quantity.AtMost := by
  have computed : ∀ (k : ℕ) (hk : k < ds.length), p.delay k = .ok ds[k] := by
    intro k hk
    have := congrArg (·[k]?) delays
    simpa [hk] using this.symm
  have step : ∀ (k : ℕ) (hk : k + 1 < ds.length),
      ds[k].NonNegative ∧ ds[k + 1].NonNegative ∧ ds[k].worth ≤ ds[k + 1].worth := fun k hk =>
    h.delay_mono (computed k (by omega)) (computed (k + 1) hk) (numbers _ (List.getElem_mem _))
      (numbers _ (List.getElem_mem _))
  have ascend : (ds.map worth).Pairwise (· ≤ ·) := by
    rw [← List.isChain_iff_pairwise, List.isChain_iff_getElem]
    intro k hk
    rw [List.getElem_map, List.getElem_map]
    exact (step k (by simpa using hk)).2.2
  rw [List.pairwise_map] at ascend
  rw [List.pairwise_iff_getElem] at ascend ⊢
  intro i j hi hj less
  have first := (step i (by omega)).1
  have second : ds[j].NonNegative := by
    obtain ⟨k, rfl⟩ := Nat.exists_eq_add_of_lt less
    exact (step (i + k) (by omega)).2.1
  rw [atMost_iff_worth first second]
  exact ascend i j hi hj less

end Policy

end CommonPurse.Retry
