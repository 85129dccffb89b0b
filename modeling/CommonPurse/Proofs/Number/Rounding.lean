import CommonPurse.Proofs.Fallible
import CommonPurse.Proofs.Number.Nearest
import CommonPurse.Proofs.Number.Operations

/-!
# How far results of decimal arithmetic are off

A result differs from the exact one by at most one part in `10 ^ 27`. It therefore has the sign of
the exact one, and it is zero when the exact one is. A sum of two numbers that are not negative is
not less than either of them, since rounding does not lead across a number that is itself a result.

## Main definitions

* `CommonPurse.Decimal.IsResult` — the numbers that rounding leaves as they are.
* `CommonPurse.Decimal.unitError` — one part in `10 ^ 27`.
* `CommonPurse.Decimal.Near` — a number that is off by at most that part.

## Main results

* `CommonPurse.Decimal.near_add`, `near_sub`, `near_divNat`, `sum_error` — how far results are off.
* `CommonPurse.Decimal.le_add` — sums do not fall behind their summands.
* `CommonPurse.Decimal.toCents_eq` — hundredths are the nearest ones.
* `CommonPurse.Decimal.toCents_spec` — they are at most half a hundredth off.
* `CommonPurse.Decimal.exists_toCents` — which numbers have them.
-/

namespace CommonPurse.Decimal

/-! ## Dropping digits -/

/-- A rounded coefficient is at most half a unit of its last digit off. -/
lemma dropDigits_near (c n : Nat) :
    2 * (dropDigits c n * 10 ^ n) ≤ 2 * c + 10 ^ n ∧
      2 * c ≤ 2 * (dropDigits c n * 10 ^ n) + 10 ^ n := by
  have tens : tenTo n = 10 ^ n := rfl
  have split := Nat.div_add_mod' c (10 ^ n)
  have rest := Nat.mod_lt c (Nat.pow_pos (n := n) (show 0 < 10 by decide))
  have next : (c / 10 ^ n + 1) * 10 ^ n = c / 10 ^ n * 10 ^ n + 10 ^ n := by ring
  unfold dropDigits
  rw [tens]
  dsimp only
  split_ifs <;> omega

/-- To shorten a coefficient does not cost more than dropping its digits does. -/
lemma shorten_spec {c n : Nat} (e : Int) (long : c < 10 ^ (28 + n)) :
    size (shorten c e n).1 (shorten c e n).2 = size (dropDigits c n) (e + n) ∧
      (shorten c e n).1 < 10 ^ 28 ∧ e + n ≤ (shorten c e n).2 := by
  have digits : precision = 28 := rfl
  have pos : 0 < 10 ^ n := Nat.pow_pos (by decide)
  have most : dropDigits c n ≤ 10 ^ 28 := by
    refine dropDigits_le ?_
    rw [pow_add] at long
    nlinarith
  have full := digitCount_le_iff (c := dropDigits c n) (n := 28) (by decide)
  unfold shorten
  rw [digits]
  dsimp only
  split
  next more =>
    -- Only the power of ten has a digit more.
    have exactly : dropDigits c n = 10 ^ 28 := by omega
    have power : size (10 ^ 28) (e + n) = size (10 ^ 27) (e + n + (1 : Nat)) :=
      size_mul_pow (10 ^ 27) 1 (e + n)
    rw [exactly, power]
    exact ⟨rfl, by norm_num, by omega⟩
  next less => exact ⟨rfl, full.mp (not_lt.mp less), le_rfl⟩

/-! ## What rounding leaves as it is -/

/-- A number of at most 28 digits, all of which lie in the range. -/
def IsResult : Decimal → Prop
  | finite _ c e => c < 10 ^ 28 ∧ minExponent ≤ e ∧ adjusted c e ≤ maxAdjusted
  | infinite _ => False
  | nan .. => False

lemma IsResult.finite {d : Decimal} (h : d.IsResult) :
    ∃ n c e, d = .finite n c e ∧ c < 10 ^ 28 ∧ minExponent ≤ e ∧ adjusted c e ≤ maxAdjusted := by
  cases d with
  | finite n c e => exact ⟨n, c, e, rfl, h⟩
  | infinite n => exact h.elim
  | nan n s p => exact h.elim

lemma adjusted_zero (e : Int) : adjusted 0 e = e := by
  have one : digitCount 0 = 1 := by decide
  unfold adjusted
  omega

lemma isResult_zero : zero.IsResult := ⟨by decide, by decide, by decide⟩

lemma IsResult.opposite {d : Decimal} (h : d.IsResult) : d.opposite.IsResult := by
  obtain ⟨n, c, e, rfl, within⟩ := h.finite
  exact within

variable {n : Bool} {c : Nat} {e : Int} {d : Decimal}

/-- Hundredths with at most 28 digits are results. -/
lemma isResult_hundredths (n : Bool) {k : Nat} (h : k < 10 ^ 28) :
    (Decimal.finite n k (-2)).IsResult := by
  have digits := (digitCount_le_iff (c := k) (n := 28) (by decide)).mpr h
  have top : maxAdjusted = 999999 := rfl
  refine ⟨h, by decide, ?_⟩
  unfold adjusted
  omega

/-- What is not rounded, because it need not be. -/
lemma fit_of_isResult (h : (Decimal.finite n c e).IsResult) :
    fit n c e = .ok (.finite n c e) := by
  obtain ⟨short, low, high⟩ := h
  have digits : precision = 28 := rfl
  have bottom : minExponent ≤ maxAdjusted := by decide
  have count := (digitCount_le_iff (n := 28) (by decide)).mpr short
  unfold fit
  split
  next zero =>
    rw [zero, adjusted_zero] at high
    have same : max minExponent (min e maxAdjusted) = e := by omega
    rw [zero, same]
  next =>
    have whole : max (digitCount c - precision) (minExponent - e).toNat = 0 := by omega
    simp only [if_neg (not_lt.mpr high), whole, if_true]

/-- **Every result is left as it is by rounding.** -/
lemma isResult_of_fit (h : fit n c e = .ok d) : d.IsResult := by
  have digits : precision = 28 := rfl
  have bottom : minExponent ≤ maxAdjusted := by decide
  unfold fit at h
  dsimp only at h
  split_ifs at h with zero high whole tiny top
  · obtain rfl := Except.ok.inj h
    refine ⟨by norm_num, le_max_left _ _, ?_⟩
    rw [adjusted_zero]
    omega
  · obtain rfl := Except.ok.inj h
    exact ⟨(digitCount_le_iff (by decide)).mp (by omega), by omega, not_lt.mp high⟩
  · obtain rfl := Except.ok.inj h
    exact ⟨by norm_num, le_rfl, by rwa [adjusted_zero]⟩
  · obtain rfl := Except.ok.inj h
    have long : c < 10 ^ (28 + max (digitCount c - precision) (minExponent - e).toNat) :=
      (digitCount_le_iff (by omega)).mp (by omega)
    obtain ⟨-, short, least⟩ := shorten_spec e long
    exact ⟨short, by omega, not_lt.mp top⟩

/-! ## Numbers that are nearly others -/

/-- One part in `10 ^ 27`. -/
def unitError : ℚ := 1 / 10 ^ 27

/-- A number that is off by at most one part in `10 ^ 27`. -/
def Near (x y : ℚ) : Prop := |x - y| ≤ unitError * |y|

lemma unitError_pos : 0 < unitError := by norm_num [unitError]

lemma Near.nonneg {x y : ℚ} (h : Near x y) (hy : 0 ≤ y) : 0 ≤ x := by
  have small : unitError * y ≤ 1 * y := mul_le_mul_of_nonneg_right (by norm_num [unitError]) hy
  unfold Near at h
  rw [abs_of_nonneg hy] at h
  linarith [(abs_le.mp h).1]

lemma Near.nonpos {x y : ℚ} (h : Near x y) (hy : y ≤ 0) : x ≤ 0 := by
  have negated : Near (-x) (-y) := by
    unfold Near at h ⊢
    rwa [abs_neg, show -x - -y = -(x - y) by ring, abs_neg]
  linarith [negated.nonneg (by linarith)]

lemma Near.eq_zero {x : ℚ} (h : Near x 0) : x = 0 :=
  le_antisymm (h.nonpos le_rfl) (h.nonneg le_rfl)

/-- A number is not much larger than one that it is nearly. -/
lemma Near.abs_le {x y : ℚ} (h : Near x y) : |x| ≤ |y| + unitError * |y| := by
  have split := abs_add_le (x - y) y
  rw [sub_add_cancel] at split
  have off : |x - y| ≤ unitError * |y| := h
  linarith

/-- A number that is nearly another one is between two bounds. -/
lemma Near.bounds {x y : ℚ} (h : Near x y) : y - unitError * |y| ≤ x ∧ x ≤ y + unitError * |y| := by
  obtain ⟨lower, upper⟩ := abs_sub_le_iff.mp (show |x - y| ≤ unitError * |y| from h)
  constructor <;> linarith

/-- The size of a number is the distance from zero of its value. -/
lemma abs_value_finite (n : Bool) (c : Nat) (e : Int) : |(finite n c e).value| = size c e := by
  have nonneg := size_nonneg c e
  cases n
  · exact abs_of_nonneg nonneg
  · exact (abs_neg _).trans (abs_of_nonneg nonneg)

lemma value_opposite (d : Decimal) (h : d.IsResult) : d.opposite.value = -d.value := by
  obtain ⟨n, c, e, rfl, -⟩ := h.finite
  cases n
  · rfl
  · exact (neg_neg (size c e)).symm

/-- Two numbers of one sign are as far from each other as their sizes are. -/
lemma abs_value_sub (n : Bool) (c q : Nat) (e f : Int) :
    |(finite n q f).value - (finite n c e).value| = |size q f - size c e| := by
  cases n
  · rfl
  · show |-size q f - -size c e| = _
    rw [← abs_neg]
    congr 1
    ring

/-! ## Rounding -/

/-- A rounded coefficient is at most half a unit of its last digit off, as a size. -/
lemma abs_size_dropDigits_sub (c n : Nat) (e : Int) :
    |size (dropDigits c n) (e + n) - size c e| ≤ 1 / 2 * 10 ^ (e + n) := by
  obtain ⟨up, down⟩ := dropDigits_near c n
  have pos : (0 : ℚ) < 10 ^ e := by positivity
  have power : (10 : ℚ) ^ (e + n) = 10 ^ n * 10 ^ e := by
    rw [zpow_add₀ (by norm_num), zpow_natCast, mul_comm]
  have up' : 2 * ((dropDigits c n : ℚ) * 10 ^ n) ≤ 2 * c + 10 ^ n := by exact_mod_cast up
  have down' : 2 * (c : ℚ) ≤ 2 * ((dropDigits c n : ℚ) * 10 ^ n) + 10 ^ n := by exact_mod_cast down
  unfold size
  rw [power, abs_le]
  constructor <;> nlinarith

/-- **A result is off by at most half a part in `10 ^ 27`**, unless digits are lost because the
exponents end there. -/
lemma abs_value_sub_le_of_fit (low : minExponent ≤ e) (h : fit n c e = .ok d) :
    |d.value - (finite n c e).value| ≤ unitError / 2 * size c e := by
  have digits : precision = 28 := rfl
  have nonneg : 0 ≤ unitError / 2 * size c e :=
    mul_nonneg (by linarith [unitError_pos]) (size_nonneg c e)
  have below : (minExponent - e).toNat = 0 := by omega
  unfold fit at h
  dsimp only at h
  rw [below, Nat.max_zero] at h
  split_ifs at h with zero high whole tiny top
  · obtain rfl := Except.ok.inj h
    rw [zero, abs_value_sub, size_zero, size_zero, sub_zero, abs_zero]
    simp
  · obtain rfl := Except.ok.inj h
    rwa [sub_self, abs_zero]
  · omega
  · obtain rfl := Except.ok.inj h
    set drop := digitCount c - precision with hdrop
    have long : c < 10 ^ (28 + drop) := (digitCount_le_iff (by omega)).mp (by omega)
    rw [abs_value_sub, (shorten_spec e long).1]
    refine (abs_size_dropDigits_sub c drop e).trans ?_
    have first := pow_adjusted_le zero e
    have power : (10 : ℚ) ^ adjusted c e = 10 ^ 27 * 10 ^ (e + drop) := by
      have exponent : adjusted c e = ((27 : Nat) : Int) + (e + drop) := by
        unfold adjusted
        omega
      rw [exponent, zpow_add₀ (by norm_num), zpow_natCast]
    have unit : unitError / 2 * 10 ^ 27 = 1 / 2 := by norm_num [unitError]
    have pos := unitError_pos
    have scaled := mul_le_mul_of_nonneg_left first (by linarith : 0 ≤ unitError / 2)
    rwa [power, ← mul_assoc, unit] at scaled

/-- **Rounding does not lead below a number that is a result itself.** -/
lemma le_value_of_fit {x : Decimal} (hx : x.IsResult) (nonneg : 0 ≤ x.value)
    (le : x.value ≤ (finite n c e).value) (low : minExponent ≤ e) (h : fit n c e = .ok d) :
    x.value ≤ d.value := by
  have digits : precision = 28 := rfl
  have below : (minExponent - e).toNat = 0 := by omega
  have off := abs_value_sub_le_of_fit low h
  rcases (size_nonneg c e).eq_or_lt with none | some
  · -- Nothing is rounded to nothing.
    rw [← none, mul_zero] at off
    have same := sub_eq_zero.mp (abs_nonpos_iff.mp off)
    rwa [same]
  have positive : n = false := by
    cases n with
    | false => rfl
    | true =>
      have value : (finite true c e).value = -size c e := rfl
      linarith
  subst positive
  have le : x.value ≤ size c e := le
  obtain ⟨m, q, f, rfl, short, -, -⟩ := hx.finite
  have upper : (finite m q f).value ≤ size q f :=
    (le_abs_self _).trans_eq (abs_value_finite m q f)
  have exactly : (finite m q f).value = size q f := by
    rw [← abs_value_finite m q f, abs_of_nonneg nonneg]
  rw [exactly] at le ⊢
  unfold fit at h
  dsimp only at h
  rw [below, Nat.max_zero] at h
  split_ifs at h with zero high whole tiny top
  · rw [zero, size_zero] at some
    exact absurd some (lt_irrefl _)
  · obtain rfl := Except.ok.inj h
    exact le
  · omega
  · obtain rfl := Except.ok.inj h
    set drop := digitCount c - precision with hdrop
    have long : c < 10 ^ (28 + drop) := (digitCount_le_iff (by omega)).mp (by omega)
    show size q f ≤ size (shorten c e drop).1 (shorten c e drop).2
    rw [(shorten_spec e long).1]
    have down : c / 10 ^ drop ≤ dropDigits c drop := by
      unfold dropDigits
      dsimp only
      split_ifs <;> first | exact le_rfl | exact Nat.le_succ _
    refine le_trans ?_ (size_mono down (e + drop))
    have pos : 0 < 10 ^ drop := Nat.pow_pos (by decide)
    rcases le_or_gt (e + drop) f with above | under
    · -- The number is a whole number of units of the result.
      rw [← size_mul_tenTo q above] at le ⊢
      refine size_mono ((Nat.le_div_iff_mul_le pos).mpr ?_) _
      have power : size (q * tenTo (f - (e + drop)).toNat) (e + drop) =
          size (q * tenTo (f - (e + drop)).toNat * 10 ^ drop) e := (size_mul_pow _ _ _).symm
      rw [power] at le
      exact (size_le_size_iff _ _ e).mp le
    · -- The number has fewer digits in front of the point than the result.
      have full : 10 ^ 27 ≤ c / 10 ^ drop := by
        refine (Nat.le_div_iff_mul_le pos).mpr (le_trans ?_ (pow_digitCount_le zero))
        rw [← pow_add]
        exact Nat.pow_le_pow_right (by decide) (by omega)
      refine le_trans ?_ (size_mono full (e + drop))
      have high := size_mono short.le f
      rw [size_pow] at high ⊢
      exact high.trans (zpow_le_zpow_right₀ (by norm_num) (by push_cast; omega))

/-! ## Sums -/

/-- A number that may stand for another one beside a greater one: both are small beside it. -/
def StandsFor (y' y x : ℚ) : Prop :=
  y' = y ∨ |y| ≤ |x| / 10 ^ 29 ∧ |y'| ≤ |x| / 10 ^ 29 ∧ (0 ≤ y → 0 ≤ y')

/-- Numbers of one sign and one size are the same. -/
lemma value_congr (n : Bool) {c q : Nat} {e f : Int} (h : size q f = size c e) :
    (finite n q f).value = (finite n c e).value := by
  cases n
  · exact h
  · exact congrArg Neg.neg h

/-- The result for two coefficients at one exponent is that for the sum of the two numbers. -/
lemma exists_fit_of_combined (n k : Bool) (x y : Nat) (g : Int) :
    ∃ m q, (if n = k then fit n (x + y) g
      else if x = y then fit false 0 g
      else if y < x then fit n (x - y) g
      else fit k (y - x) g) = fit m q g ∧
      (finite m q g).value = (finite n x g).value + (finite k y g).value := by
  have minus {a b : Nat} (le : b ≤ a) : size (a - b) g = size a g - size b g := by
    rw [eq_sub_iff_add_eq, ← size_add, Nat.sub_add_cancel le]
  rcases eq_or_ne n k with rfl | apart
  · refine ⟨n, x + y, if_pos rfl, ?_⟩
    cases n <;> simp [value, size_add, add_comm]
  · obtain rfl : k = !n := by cases n <;> cases k <;> simp_all
    rw [if_neg apart]
    rcases lt_trichotomy x y with less | rfl | more
    · refine ⟨!n, y - x, by rw [if_neg less.ne, if_neg less.not_gt], ?_⟩
      cases n <;> simp [value, minus less.le] <;> ring
    · exact ⟨false, 0, if_pos rfl, by cases n <;> simp [value]⟩
    · refine ⟨n, x - y, by rw [if_neg more.ne', if_pos more], ?_⟩
      cases n <;> simp [value, minus more.le] <;> ring

/-- What a small summand becomes stands for it. -/
lemma standsFor_of_size {k : Bool} {y d : Nat} {g f : Int}
    (h : size y g = size d f ∨ d ≠ 0 ∧ size d f ≤ size c e * 10 ^ (-29 : Int) ∧
      size y g ≤ size c e * 10 ^ (-29 : Int)) :
    StandsFor (finite k y g).value (finite k d f).value (finite n c e).value := by
  rcases h with same | ⟨some, small, small'⟩
  · exact .inl (value_congr k same)
  · rw [StandsFor, abs_value_finite, abs_value_finite, abs_value_finite]
    rw [zpow_neg, ← div_eq_mul_inv] at small small'
    refine .inr ⟨small, small', fun nonneg => ?_⟩
    cases k
    · exact size_nonneg y g
    · exact absurd (neg_nonneg.mp nonneg) (size_pos some f).not_ge

/-- A sum is the result for a number that is the sum of the greater summand and of what stands for
the smaller one. -/
lemma exists_fit_of_add {x y : Decimal} (hx : x.IsResult) (hy : y.IsResult) :
    ∃ n c e x' y', minExponent ≤ e ∧ add x y = fit n c e ∧ (finite n c e).value = x' + y' ∧
      (x' = x.value ∧ StandsFor y' y.value x.value ∨
        y' = y.value ∧ StandsFor x' x.value y.value) := by
  obtain ⟨n, c, e, rfl, -, lowx, -⟩ := hx.finite
  obtain ⟨k, d, f, rfl, -, lowy, -⟩ := hy.finite
  -- The number with the greater exponent is left as it is.
  have aligned : ∀ (n k : Bool) (c d : Nat) (e f : Int), minExponent ≤ f → f ≤ e →
      ∃ m q g y', minExponent ≤ g ∧ addAligned n c e k d f = fit m q g ∧
        (finite m q g).value = (finite n c e).value + y' ∧
        StandsFor y' (finite k d f).value (finite n c e).value := by
    intro n k c d e f low le
    obtain ⟨x, y, g, least, hx, hy, eq⟩ := addAligned_eq n c k d le
    obtain ⟨m, q, combined, sum⟩ := exists_fit_of_combined n k x y g
    exact ⟨m, q, g, _, low.trans least, eq.trans combined,
      sum.trans (congrArg (· + _) (value_congr n hx)), standsFor_of_size hy⟩
  rw [add_finite]
  split
  next le =>
    obtain ⟨m, q, g, y', low, eq, sum, stands⟩ := aligned n k c d e f lowy le
    exact ⟨m, q, g, _, y', low, eq, sum, .inl ⟨rfl, stands⟩⟩
  next gt =>
    obtain ⟨m, q, g, x', low, eq, sum, stands⟩ := aligned k n d c f e lowx (by omega)
    exact ⟨m, q, g, x', _, low, eq, by rw [sum, add_comm], .inr ⟨rfl, stands⟩⟩

/-- A number that is nearly the sum of a number and of what stands for another one is nearly the
sum of the two. -/
lemma near_of_standsFor {x y y' z : ℚ} (stands : StandsFor y' y x)
    (h : |z - (x + y')| ≤ unitError / 2 * |x + y'|) : Near z (x + y) := by
  unfold Near
  rcases stands with rfl | ⟨small, small', -⟩
  · exact h.trans (mul_le_mul_of_nonneg_right (by linarith [unitError_pos]) (abs_nonneg _))
  · have upper := abs_add_le x y'
    have lower : |x| - |y| ≤ |x + y| := by
      have whole := abs_sub_abs_le_abs_sub x (-y)
      rwa [abs_neg, sub_neg_eq_add] at whole
    have apart : |z - (x + y)| ≤ |z - (x + y')| + (|y'| + |y|) := by
      calc |z - (x + y)| = |(z - (x + y')) + (y' - y)| := by congr 1; ring
        _ ≤ |z - (x + y')| + |y' - y| := abs_add_le _ _
        _ ≤ |z - (x + y')| + (|y'| + |y|) := by gcongr; exact abs_sub y' y
    have nonneg := abs_nonneg x
    unfold unitError at h ⊢
    norm_num at small small' h ⊢
    linarith

/-- **A sum of two results is nearly the exact one.** -/
theorem near_add {x y z : Decimal} (hx : x.IsResult) (hy : y.IsResult) (h : add x y = .ok z) :
    z.IsResult ∧ Near z.value (x.value + y.value) := by
  obtain ⟨n, c, e, x', y', low, eq, sum, stands⟩ := exists_fit_of_add hx hy
  have fitted := eq.symm.trans h
  have off := abs_value_sub_le_of_fit low fitted
  rw [← abs_value_finite n c e, sum] at off
  refine ⟨isResult_of_fit fitted, ?_⟩
  rcases stands with ⟨rfl, stands⟩ | ⟨rfl, stands⟩
  · exact near_of_standsFor stands off
  · rw [add_comm x'] at off
    rw [add_comm x.value]
    exact near_of_standsFor stands off

/-- **A sum of numbers that are not negative is not less than the first of them.** -/
theorem le_add {x y z : Decimal} (hx : x.IsResult) (hy : y.IsResult) (nonneg : 0 ≤ x.value)
    (nonneg' : 0 ≤ y.value) (h : add x y = .ok z) : x.value ≤ z.value := by
  obtain ⟨n, c, e, x', y', low, eq, sum, stands⟩ := exists_fit_of_add hx hy
  have fitted := eq.symm.trans h
  rcases stands with ⟨rfl, stands⟩ | ⟨rfl, stands⟩
  · have positive : 0 ≤ y' := by
      rcases stands with rfl | ⟨-, -, keeps⟩
      · exact nonneg'
      · exact keeps nonneg'
    exact le_value_of_fit hx nonneg (by linarith) low fitted
  · rcases stands with rfl | ⟨small, -, keeps⟩
    · exact le_value_of_fit hx nonneg (by linarith) low fitted
    · -- The other summand is much greater.
      have great := le_value_of_fit hy nonneg' (by linarith [keeps nonneg]) low fitted
      rw [abs_of_nonneg nonneg, abs_of_nonneg nonneg'] at small
      norm_num at small
      linarith

lemma sub_eq_add {x y : Decimal} (hx : x.IsResult) (hy : y.IsResult) :
    sub x y = add x y.opposite := by
  obtain ⟨n, c, e, rfl, -⟩ := hx.finite
  obtain ⟨k, d, f, rfl, -⟩ := hy.finite
  rfl

/-- **A difference of two results is nearly the exact one.** -/
theorem near_sub {x y z : Decimal} (hx : x.IsResult) (hy : y.IsResult) (h : sub x y = .ok z) :
    z.IsResult ∧ Near z.value (x.value - y.value) := by
  rw [sub_eq_add hx hy] at h
  have near := near_add hx hy.opposite h
  rwa [value_opposite y hy, ← sub_eq_add_neg] at near

/-- The number without its sign is exact. -/
lemma abs_of_isResult {x : Decimal} (hx : x.IsResult) :
    ∃ y, x.abs = .ok y ∧ y.IsResult ∧ y.value = |x.value| := by
  obtain ⟨n, c, e, rfl, within⟩ := hx.finite
  have positive : (finite false c e).IsResult := within
  exact ⟨_, fit_of_isResult positive, positive, (abs_value_finite n c e).symm⟩

lemma isResult_sum {ds : List Decimal} (results : ∀ d ∈ ds, d.IsResult) {z : Decimal}
    (h : Decimal.sum ds = .ok z) : z.IsResult := by
  suffices ∀ x : Decimal, x.IsResult → ds.foldlM add x = .ok z → z.IsResult from
    this zero isResult_zero h
  clear h
  induction ds with
  | nil =>
    intro x hx h
    obtain rfl := Except.ok.inj h
    exact hx
  | cons d rest ih =>
    intro x hx h
    obtain ⟨y, added, h⟩ := foldlM_cons_eq_ok_iff.mp h
    have hy := (near_add hx (results d List.mem_cons_self) added).1
    exact ih (fun q hq => results q (List.mem_cons_of_mem _ hq)) y hy h

/-- Sums of results are nearly exact, as long as they are not too many.

**Proof sketch.** As long as a sum is off by no more than the sizes of everything that is added
come to, it is at most twice as large, and the next sum costs at most that many parts. -/
lemma sum_error {ds : List Decimal} (results : ∀ d ∈ ds, d.IsResult) {bound : ℚ}
    (sizes : (ds.map fun d => |d.value|).sum ≤ bound)
    (few : 2 * ds.length * unitError * bound ≤ bound) {z : Decimal} (h : Decimal.sum ds = .ok z) :
    |z.value - (ds.map value).sum| ≤ 2 * ds.length * unitError * bound := by
  suffices ∀ (x : Decimal) (exactly error : ℚ), x.IsResult → |x.value - exactly| ≤ error →
      |exactly| + (ds.map fun d => |d.value|).sum ≤ bound →
      error + 2 * ds.length * unitError * bound ≤ bound → ds.foldlM add x = .ok z →
      |z.value - (exactly + (ds.map value).sum)| ≤ error + 2 * ds.length * unitError * bound by
    have zero_value : zero.value = 0 := by simp [zero, ofNat, value]
    have all := this zero 0 0 isResult_zero (by simp [zero_value]) (by simpa using sizes)
      (by rwa [zero_add]) h
    simpa using all
  clear few sizes h
  induction ds with
  | nil =>
    intro x exactly error hx off _ _ h
    obtain rfl := Except.ok.inj h
    simpa using off
  | cons d rest ih =>
    intro x exactly error hx off sizes room h
    obtain ⟨y, added, h⟩ := foldlM_cons_eq_ok_iff.mp h
    obtain ⟨hy, near⟩ := near_add hx (results d List.mem_cons_self) added
    simp only [List.map_cons, List.sum_cons, List.length_cons] at sizes room ⊢
    push_cast at room ⊢
    have pos := unitError_pos
    have others : 0 ≤ (rest.map fun d => |d.value|).sum := List.sum_nonneg (by simp)
    have left := abs_nonneg exactly
    have error_nonneg := (abs_nonneg _).trans off
    have bound_nonneg : 0 ≤ bound := by linarith [abs_nonneg d.value]
    have many : 0 ≤ 2 * (rest.length : ℚ) * unitError * bound := by positivity
    have total := abs_add_le exactly d.value
    have size : |x.value + d.value| ≤ 2 * bound := by
      have split := abs_add_le (x.value - exactly) (exactly + d.value)
      rw [show x.value - exactly + (exactly + d.value) = x.value + d.value by ring] at split
      have unit : 0 ≤ 2 * unitError * bound := by positivity
      linarith
    have step : |y.value - (exactly + d.value)| ≤ error + 2 * unitError * bound := by
      have split := abs_add_le (y.value - (x.value + d.value)) (x.value - exactly)
      rw [show y.value - (x.value + d.value) + (x.value - exactly) =
        y.value - (exactly + d.value) by ring] at split
      have near' : |y.value - (x.value + d.value)| ≤ unitError * (2 * bound) :=
        near.trans (mul_le_mul_of_nonneg_left size pos.le)
      linarith
    have all := ih (fun q hq => results q (List.mem_cons_of_mem _ hq)) y (exactly + d.value)
      (error + 2 * unitError * bound) hy step (by linarith) (by linarith) h
    rw [← add_assoc]
    linarith

/-! ## Quotients -/

lemma le_exponent_dropZerosTo (wanted : Int) (fuel q : Nat) (x : Int) :
    x ≤ (dropZerosTo wanted fuel q x).2 := by
  induction fuel generalizing q x with
  | zero => exact le_rfl
  | succ fuel ih =>
    unfold dropZerosTo
    split
    · exact le_trans (by omega) (ih _ _)
    · exact le_rfl

/-- A quotient of a result is a result. -/
lemma isResult_divNat {total average : Decimal} {n : Nat} (h : total.IsResult)
    (divided : total.divNat n = .ok average) : average.IsResult := by
  obtain ⟨m, c, e, rfl, -⟩ := h.finite
  rw [divNat] at divided
  split at divided
  · cases divided
  · unfold divFinite at divided
    dsimp only at divided
    split_ifs at divided <;> exact isResult_of_fit divided

/-- The whole part of a quotient, one more where the last digit asks for it, is at most a unit off. -/
lemma abs_size_quotient_sub (num : Nat) {den : Nat} (pos : 0 < den) (g : Int) :
    |size (if num / den % 5 = 0 then num / den + 1 else num / den) g - size num g / den| ≤
      10 ^ g := by
  set q := if num / den % 5 = 0 then num / den + 1 else num / den with hq
  have den_pos : (0 : ℚ) < den := by exact_mod_cast pos
  have unit_pos : (0 : ℚ) < 10 ^ g := by positivity
  have split := Nat.div_add_mod' num den
  have rest := Nat.mod_lt num pos
  have lower : num ≤ (q + 1) * den := by
    have least : num / den ≤ q := by rw [hq]; split_ifs <;> omega
    calc num ≤ (num / den + 1) * den := by rw [add_mul]; omega
      _ ≤ (q + 1) * den := Nat.mul_le_mul_right _ (by omega)
  have upper : q * den ≤ num + den := by
    have most : q ≤ num / den + 1 := by rw [hq]; split_ifs <;> omega
    calc q * den ≤ (num / den + 1) * den := Nat.mul_le_mul_right _ most
      _ ≤ num + den := by rw [add_mul]; omega
  have lower' : size num g / den ≤ size q g + 10 ^ g := by
    have cast : (num : ℚ) ≤ (q + 1) * den := by exact_mod_cast lower
    rw [div_le_iff₀ den_pos, size, size]
    nlinarith
  have upper' : size q g ≤ size num g / den + 10 ^ g := by
    have cast : (q : ℚ) * den ≤ num + den := by exact_mod_cast upper
    rw [← sub_le_iff_le_add, le_div_iff₀ den_pos, size, size]
    nlinarith
  exact abs_le.mpr ⟨by linarith, by linarith⟩

/-- **A quotient is nearly the exact one.** The last digit of a quotient that is not exact may be
one too many; it stands behind the 28 digits that are left. -/
theorem near_divNat {n : Nat} (hn : 0 < n) (low : minExponent ≤ e)
    (wide : c = 0 ∨ minExponent + digitCount n + 29 ≤ e)
    (h : (Decimal.finite false c e).divNat n = .ok d) :
    d.IsResult ∧ Near d.value (size c e / n) := by
  rw [divNat, if_neg hn.ne'] at h
  by_cases zero : c = 0
  · rw [divFinite, if_pos zero] at h
    have off := abs_value_sub_le_of_fit low h
    rw [zero, size_zero, zero_div]
    refine ⟨isResult_of_fit h, ?_⟩
    rw [size_zero, mul_zero] at off
    simpa [Near, value] using off
  have far := wide.resolve_left zero
  obtain ⟨num, den, g, long, pos, same, least, eq⟩ := divFinite_eq false zero e hn
  rw [eq] at h
  have hn' : (0 : ℚ) < n := by exact_mod_cast hn
  have den_pos : (0 : ℚ) < den := by exact_mod_cast pos
  have unit_pos : (0 : ℚ) < 10 ^ g := by positivity
  have quotient : size c e / n = size num g / den := by
    rw [div_eq_div_iff hn'.ne' den_pos.ne', same]
  have nonneg : 0 ≤ size num g / den := div_nonneg (size_nonneg _ _) den_pos.le
  rw [quotient]
  split at h
  next whole =>
    have last := le_exponent_dropZerosTo e (digitCount (num / den)) (num / den) g
    have off := abs_value_sub_le_of_fit (by omega) h
    have exactly : size (num / den) g = size num g / den := by
      have product : ((num / den : Nat) : ℚ) * den = num := by
        exact_mod_cast Nat.div_mul_cancel (Nat.dvd_of_mod_eq_zero whole)
      rw [eq_div_iff den_pos.ne', size, size, ← product]
      ring
    have value : ∀ q f, (finite false q f).value = size q f := fun _ _ => rfl
    rw [value, size_dropZerosTo, exactly] at off
    refine ⟨isResult_of_fit h, off.trans ?_⟩
    rw [abs_of_nonneg nonneg]
    exact mul_le_mul_of_nonneg_right (by linarith [unitError_pos]) nonneg
  next =>
    have off := abs_value_sub_le_of_fit (by omega) h
    have close := abs_size_quotient_sub num pos g
    set q := if num / den % 5 = 0 then num / den + 1 else num / den
    have value : (finite false q g).value = size q g := rfl
    rw [value] at off
    have most := (abs_le.mp close).2
    -- A unit of the quotient is one part in `10 ^ 28` of it.
    have unit : 10 ^ 28 * (10 : ℚ) ^ g ≤ size num g / den := by
      have cast : (10 : ℚ) ^ 28 * den ≤ num := by exact_mod_cast long
      rw [le_div_iff₀ den_pos, size]
      nlinarith
    refine ⟨isResult_of_fit h, ?_⟩
    have apart := abs_add_le (d.value - size q g) (size q g - size num g / den)
    rw [sub_add_sub_cancel] at apart
    rw [Near, abs_of_nonneg nonneg]
    unfold unitError at off ⊢
    norm_num at unit off ⊢
    linarith

/-! ## Hundredths -/

/-- What is left of a coefficient is the whole number nearest to the quotient. -/
lemma dropDigits_eq_halfEven (c n : Nat) :
    dropDigits c n = Binary64.halfEven ((c : ℚ) / 10 ^ n) := by
  have pos : 0 < 10 ^ n := Nat.pow_pos (by decide)
  have same := Binary64.divNearestEven_eq_halfEven c pos
  push_cast at same
  exact same

lemma hundred_mul_size (c : Nat) (e : Int) : 100 * size c e = size c (e + 2) := by
  rw [size, size, zpow_add₀ (by norm_num)]
  norm_num
  ring

/-- **Hundredths are the nearest ones**, of two the even one, unless they take more than 28
digits. -/
theorem toCents_eq (n : Bool) (c : Nat) (e : Int) :
    (finite n c e).toCents =
      if Binary64.halfEven (100 * size c e) < 10 ^ 28 then
        .ok (.finite n (Binary64.halfEven (100 * size c e)) (-2))
      else .error .invalid := by
  have digits : precision = 28 := rfl
  have first : adjusted c (e + 2) = adjusted c e + 2 := by unfold adjusted; omega
  have grow : ∀ {x y : Int}, x ≤ y → (10 : ℚ) ^ x ≤ 10 ^ y :=
    fun h => zpow_le_zpow_right₀ (by norm_num) h
  have less := size_lt_pow c (e + 2)
  rw [hundred_mul_size, toCents]
  by_cases zero : c = 0
  · have none := Binary64.halfEven_natCast 0
    rw [Nat.cast_zero] at none
    rw [if_pos zero, zero, size_zero, none, if_pos (by norm_num)]
  rw [if_neg zero]
  by_cases high : (precision : Int) < adjusted c e + 3
  · have above : ((10 ^ 28 : Nat) : ℚ) ≤ size c (e + 2) := by
      have power : (10 : ℚ) ^ (28 : Int) ≤ size c (e + 2) :=
        (grow (by omega)).trans (pow_adjusted_le zero (e + 2))
      exact_mod_cast power
    have many := Binary64.halfEven_mono above
    rw [Binary64.halfEven_natCast] at many
    rw [if_pos high, if_neg many.not_gt]
  rw [if_neg high]
  by_cases whole : -2 ≤ e
  · have units : size c (e + 2) = (c * tenTo (e + 2).toNat : Nat) := by
      have shifted := size_mul_tenTo c (show 0 ≤ e + 2 by omega)
      rw [sub_zero] at shifted
      rw [← shifted, size, zpow_zero, mul_one]
    have short : c * tenTo (e + 2).toNat < 10 ^ 28 := by
      have small : size c (e + 2) < 10 ^ (28 : Int) := less.trans_le (grow (by omega))
      rw [units] at small
      exact_mod_cast small
    rw [if_pos whole, units, Binary64.halfEven_natCast, if_pos short]
  rw [if_neg whole]
  dsimp only
  by_cases tiny : digitCount c < (-2 - e).toNat
  · have none : Binary64.halfEven (size c (e + 2)) = 0 := by
      have part : size c (e + 2) < 10 ^ (-1 : Int) := by
        refine less.trans_le (grow ?_)
        unfold adjusted
        omega
      have half := Binary64.halfEven_ne_zero_iff (size_nonneg c (e + 2))
      norm_num at part
      by_contra some
      linarith [half.mp some]
    rw [if_pos tiny, none, if_pos (by norm_num)]
  have left : dropDigits c (-2 - e).toNat = Binary64.halfEven (size c (e + 2)) := by
    rw [dropDigits_eq_halfEven, size, div_eq_mul_inv, ← zpow_natCast, ← zpow_neg]
    congr 3
    omega
  have short := digitCount_le_iff (c := dropDigits c (-2 - e).toNat) (n := 28) (by decide)
  rw [if_neg tiny, ← left]
  by_cases long : precision < digitCount (dropDigits c (-2 - e).toNat)
  · rw [if_pos long, if_neg fun h => by omega]
  · rw [if_neg long, if_pos (by omega)]

/-- A number within the largest amount has hundredths. -/
lemma exists_toCents {a : Decimal} (h : a.Within largest.size) : ∃ d, a.toCents = .ok d := by
  obtain ⟨n, c, e, rfl, le⟩ := h.finite
  have top : 100 * largest.size = ((10 ^ 28 - 1 : Nat) : ℚ) := by
    norm_num [Mark.size, largest, size]
  have least := Binary64.halfEven_mono (show 100 * size c e ≤ ((10 ^ 28 - 1 : Nat) : ℚ) by linarith)
  rw [Binary64.halfEven_natCast] at least
  exact ⟨_, by rw [toCents_eq, if_pos (by omega)]⟩

/-- The size of a number of hundredths. -/
lemma size_hundredths (k : Nat) : size k (-2) = k / 100 := by
  norm_num [size, div_eq_mul_inv]

/-- **The hundredths of a number are at most half a hundredth off**, and there are some exactly when
it is more than half a hundredth. -/
theorem toCents_spec (h : (Decimal.finite n c e).toCents = .ok d) :
    ∃ q, d = .finite n q (-2) ∧ q < 10 ^ 28 ∧ |size q (-2) - size c e| ≤ 1 / 200 ∧
      (q ≠ 0 ↔ 1 / 200 < size c e) := by
  have nonneg : 0 ≤ 100 * size c e := by linarith [size_nonneg c e]
  rw [toCents_eq] at h
  split_ifs at h with short
  obtain rfl := Except.ok.inj h
  refine ⟨_, rfl, short, ?_, ?_⟩
  · have near := Binary64.abs_halfEven_sub_le nonneg
    rw [abs_le] at near
    rw [size_hundredths, abs_le]
    constructor <;> linarith
  · rw [Binary64.halfEven_ne_zero_iff nonneg]
    constructor <;> intro more <;> linarith

/-- The hundredths of a result, as numbers. -/
lemma value_toCents {a : Decimal} (ha : a.IsResult) (h : a.toCents = .ok d) :
    |d.value - a.value| ≤ 1 / 200 ∧ (d.isPositive = true ↔ 1 / 200 < a.value) := by
  obtain ⟨n, c, e, rfl, -⟩ := ha.finite
  obtain ⟨q, rfl, -, near, some⟩ := toCents_spec h
  refine ⟨(abs_value_sub n c q e (-2)).trans_le near, ?_⟩
  cases n with
  | false => simpa [isPositive, value] using some
  | true =>
    have nonneg := size_nonneg c e
    simp only [isPositive, value, if_true, Bool.not_true, Bool.false_and, Bool.false_eq_true,
      false_iff, not_lt]
    linarith

end CommonPurse.Decimal
