import CommonPurse.Number.Binary64
import Mathlib.Algebra.Order.Field.Power
import Mathlib.Algebra.Order.Floor.Semifield
import Mathlib.Algebra.Order.Ring.Rat
import Mathlib.Data.Rat.Floor
import Mathlib.Order.WithBot
import Mathlib.Tactic.FieldSimp
import Mathlib.Tactic.Linarith
import Mathlib.Tactic.NormNum
import Mathlib.Tactic.Positivity
import Mathlib.Tactic.Ring

/-!
# Binary numbers in their order

The nearest binary number to a quotient is not less than the nearest one to a smaller quotient. A
number that is too large for the format counts as infinite, which is more than every other one.

## Main definitions

* `CommonPurse.Binary64.halfEven` — the whole number nearest to a rational one.
* `CommonPurse.Binary64.Closest` — what makes it the nearest.
* `CommonPurse.Binary64.nearest` — the nearest number to a quotient if exponents had no end.
* `CommonPurse.Binary64.worth` — what a number is worth; infinity is worth more than all others.
* `CommonPurse.Binary64.NonNegative` — a number that is not negative.

## Main results

* `CommonPurse.Binary64.closest_iff` — rounding to whole numbers gives the nearest one.
* `CommonPurse.Binary64.nearest_mono` — rounding keeps the order of quotients.
* `CommonPurse.Binary64.worth_ofRatio_mono` — so does the format.
* `CommonPurse.Binary64.worth_mul_mono` — and so do products with numbers that are not negative.
-/

namespace CommonPurse.Binary64

/-! ## Whole numbers -/

/-- The whole number nearest to a rational one that is not negative, of two the even one. -/
def halfEven (x : ℚ) : ℕ :=
  if x - ⌊x⌋₊ < 1 / 2 then ⌊x⌋₊
  else if 1 / 2 < x - ⌊x⌋₊ then ⌊x⌋₊ + 1
  else if ⌊x⌋₊ % 2 = 0 then ⌊x⌋₊ else ⌊x⌋₊ + 1

/-- Division to the nearest goes by the quotient alone. -/
lemma divNearestEven_eq_halfEven (num : ℕ) {den : ℕ} (h : 0 < den) :
    divNearestEven num den = halfEven ((num : ℚ) / den) := by
  have pos : (0 : ℚ) < den := by exact_mod_cast h
  have floor : ⌊(num : ℚ) / den⌋₊ = num / den := Nat.floor_div_eq_div num den
  have split : (num : ℚ) / den - (num / den : ℕ) = (num % den : ℕ) / den := by
    rw [eq_div_iff pos.ne', sub_mul, div_mul_cancel₀ _ pos.ne', sub_eq_iff_eq_add]
    exact_mod_cast (Nat.mod_add_div' num den).symm
  have below : (num : ℚ) / den - (num / den : ℕ) < 1 / 2 ↔ 2 * (num % den) < den := by
    rw [split, div_lt_div_iff₀ pos two_pos, one_mul, mul_comm]
    exact_mod_cast Iff.rfl
  have above : (1 : ℚ) / 2 < num / den - (num / den : ℕ) ↔ den < 2 * (num % den) := by
    rw [split, div_lt_div_iff₀ two_pos pos, one_mul, mul_comm]
    exact_mod_cast Iff.rfl
  unfold divNearestEven halfEven
  simp only [floor, below, above]

lemma floor_le_halfEven (x : ℚ) : ⌊x⌋₊ ≤ halfEven x := by
  unfold halfEven
  split_ifs <;> omega

lemma halfEven_le_floor_add_one (x : ℚ) : halfEven x ≤ ⌊x⌋₊ + 1 := by
  unfold halfEven
  split_ifs <;> omega

/-- Rounding to whole numbers keeps the order. -/
lemma halfEven_mono {x y : ℚ} (h : x ≤ y) : halfEven x ≤ halfEven y := by
  rcases (Nat.floor_mono h).lt_or_eq with less | same
  · calc
      halfEven x ≤ ⌊x⌋₊ + 1 := halfEven_le_floor_add_one x
      _ ≤ ⌊y⌋₊ := less
      _ ≤ halfEven y := floor_le_halfEven y
  · have rest : x - ⌊x⌋₊ ≤ y - ⌊y⌋₊ := by
      rw [same]
      linarith
    unfold halfEven
    rw [same] at rest ⊢
    split_ifs <;> first | omega | linarith

@[simp] lemma halfEven_natCast (n : ℕ) : halfEven (n : ℚ) = n := by
  simp [halfEven]

/-- The nearest whole number is at most a half off. -/
lemma abs_halfEven_sub_le {x : ℚ} (h : 0 ≤ x) : |(halfEven x : ℚ) - x| ≤ 1 / 2 := by
  have low := Nat.floor_le h
  have high := Nat.lt_floor_add_one x
  unfold halfEven
  split_ifs <;> push_cast <;> rw [abs_le] <;> constructor <;> linarith

/-- When it is a half off, it is even. -/
lemma even_halfEven {x : ℚ} (h : 0 ≤ x) (tie : |(halfEven x : ℚ) - x| = 1 / 2) :
    Even (halfEven x) := by
  have low := Nat.floor_le h
  have high := Nat.lt_floor_add_one x
  rw [Nat.even_iff]
  unfold halfEven at tie ⊢
  split_ifs at tie ⊢ with below above
  · rw [abs_of_nonpos (by linarith)] at tie
    linarith
  · rw [Nat.cast_add_one, abs_of_nonneg (by linarith)] at tie
    linarith
  · assumption
  · omega

/-- It is not zero exactly for what is more than a half. -/
lemma halfEven_ne_zero_iff {x : ℚ} (h : 0 ≤ x) : halfEven x ≠ 0 ↔ 1 / 2 < x := by
  constructor
  · intro some
    by_contra less
    rw [not_lt] at less
    have le := halfEven_mono less
    have half : halfEven (1 / 2) = 0 := by norm_num [halfEven]
    omega
  · intro more none
    have near := abs_halfEven_sub_le h
    rw [none, Nat.cast_zero, zero_sub, abs_neg, abs_of_nonneg h] at near
    linarith

/-! ### Which number is the nearest -/

/-- No whole number is nearer to `x` than `k`, and if another one is as near, then `k` is even. -/
structure Closest (k : ℕ) (x : ℚ) : Prop where
  near (j : ℤ) : |(k : ℚ) - x| ≤ |j - x|
  even {j : ℤ} (other : j ≠ k) (tie : |(j : ℚ) - x| = |(k : ℚ) - x|) : Even k

/-- Other whole numbers are at least a half off. -/
lemma half_le_abs_sub {x : ℚ} (h : 0 ≤ x) {j : ℤ} (other : j ≠ halfEven x) :
    1 / 2 ≤ |(j : ℚ) - x| := by
  have near := abs_halfEven_sub_le h
  have apart : (1 : ℚ) ≤ |(j : ℚ) - halfEven x| := by
    exact_mod_cast Int.one_le_abs (sub_ne_zero.mpr other)
  have split := abs_sub_le (j : ℚ) x (halfEven x)
  rw [abs_sub_comm x] at split
  linarith

lemma closest_halfEven {x : ℚ} (h : 0 ≤ x) : Closest (halfEven x) x where
  near j := by
    by_cases same : j = halfEven x
    · rw [same, Int.cast_natCast]
    · exact (abs_halfEven_sub_le h).trans (half_le_abs_sub h same)
  even other tie :=
    even_halfEven h (le_antisymm (abs_halfEven_sub_le h) (tie ▸ half_le_abs_sub h other))

/-- There is one such number. Halfway between two even ones there would be a third, which is
nearer. -/
lemma Closest.unique {k l : ℕ} {x : ℚ} (hk : Closest k x) (hl : Closest l x) : k = l := by
  by_contra other
  have tie : |(l : ℚ) - x| = |(k : ℚ) - x| := le_antisymm (hl.near k) (hk.near l)
  have evenK : Even k := hk.even (by exact_mod_cast Ne.symm other) tie
  have evenL : Even l := hl.even (by exact_mod_cast other) tie.symm
  obtain ⟨a, rfl⟩ := evenK
  obtain ⟨b, rfl⟩ := evenL
  have middle := hk.near (a + b)
  push_cast at tie middle
  rcases abs_eq_abs.mp tie with same | opposite
  · have : (b : ℚ) = a := by linarith
    exact other (by rw [Nat.cast_injective this])
  · rw [show (a : ℚ) + b - x = 0 by linarith, abs_zero] at middle
    have left := abs_eq_zero.mp (le_antisymm middle (abs_nonneg _))
    have : (b : ℚ) = a := by linarith
    exact other (by rw [Nat.cast_injective this])

/-- **Rounding gives the nearest number**, and nothing else is. -/
theorem closest_iff {k : ℕ} {x : ℚ} (h : 0 ≤ x) : Closest k x ↔ k = halfEven x :=
  ⟨fun closest => closest.unique (closest_halfEven h), fun same => same ▸ closest_halfEven h⟩

/-! ## Exponents -/

lemma twoTo_cast (n : ℕ) : ((twoTo n : ℕ) : ℚ) = 2 ^ n := by
  show (((2 ^ n : ℕ)) : ℚ) = 2 ^ n
  push_cast
  rfl

/-- Scaling divides a quotient by a power of two. -/
lemma scaled_spec (num : ℕ) {den : ℕ} (h : 0 < den) (e : ℤ) :
    0 < (scaled num den e).2 ∧
      ((scaled num den e).1 : ℚ) / (scaled num den e).2 = num / den / 2 ^ e := by
  have powers : ∀ n : ℕ, 0 < twoTo n := fun n => Nat.two_pow_pos n
  unfold scaled
  split_ifs with he
  · refine ⟨Nat.mul_pos h (powers _), ?_⟩
    obtain ⟨n, rfl⟩ := Int.eq_ofNat_of_zero_le he
    rw [Int.toNat_natCast, Nat.cast_mul, twoTo_cast, zpow_natCast, div_div]
  · refine ⟨h, ?_⟩
    obtain ⟨n, hn⟩ := Int.eq_ofNat_of_zero_le (show 0 ≤ -e by omega)
    rw [hn, Int.toNat_natCast, Nat.cast_mul, twoTo_cast, show e = -(n : ℤ) by omega, zpow_neg,
      zpow_natCast, div_inv_eq_mul]
    ring

/-- A quotient lies between the powers of two that its numerator and its denominator suggest. -/
lemma quotient_bounds {num den : ℕ} (hn : 0 < num) (hd : 0 < den) :
    (2 : ℚ) ^ ((num.log2 : ℤ) - den.log2 - 1) < num / den ∧
      (num : ℚ) / den < 2 ^ ((num.log2 : ℤ) - den.log2 + 1) := by
  have two : (2 : ℚ) ≠ 0 := two_ne_zero
  have pos : (0 : ℚ) < den := by exact_mod_cast hd
  have numLow : (2 : ℚ) ^ (num.log2 : ℤ) ≤ num := by
    exact_mod_cast Nat.log2_self_le hn.ne'
  have numHigh : (num : ℚ) < 2 ^ ((num.log2 : ℤ) + 1) := by
    exact_mod_cast Nat.lt_log2_self
  have denLow : (2 : ℚ) ^ (den.log2 : ℤ) ≤ den := by
    exact_mod_cast Nat.log2_self_le hd.ne'
  have denHigh : (den : ℚ) < 2 ^ ((den.log2 : ℤ) + 1) := by
    exact_mod_cast Nat.lt_log2_self
  constructor
  · rw [lt_div_iff₀ pos]
    calc
      (2 : ℚ) ^ ((num.log2 : ℤ) - den.log2 - 1) * den
          < 2 ^ ((num.log2 : ℤ) - den.log2 - 1) * 2 ^ ((den.log2 : ℤ) + 1) := by gcongr
      _ = 2 ^ (num.log2 : ℤ) := by rw [← zpow_add₀ two]; congr 1; ring
      _ ≤ num := numLow
  · rw [div_lt_iff₀ pos]
    calc
      (num : ℚ) < 2 ^ ((num.log2 : ℤ) + 1) := numHigh
      _ = 2 ^ ((num.log2 : ℤ) - den.log2 + 1) * 2 ^ (den.log2 : ℤ) := by
        rw [← zpow_add₀ two]; congr 1; ring
      _ ≤ 2 ^ ((num.log2 : ℤ) - den.log2 + 1) * den := by gcongr

/-- The exponent of a quotient leaves it at most 53 bits in front of the point, and 53 bits unless
it is the least exponent. -/
lemma exponentOf_spec {num den : ℕ} (hn : 0 < num) (hd : 0 < den) :
    minExponent ≤ exponentOf num den ∧
      (num : ℚ) / den < 2 ^ (exponentOf num den + 53) ∧
      (exponentOf num den = minExponent ∨ (2 : ℚ) ^ (exponentOf num den + 52) ≤ num / den) := by
  obtain ⟨low, high⟩ := quotient_bounds hn hd
  set e : ℤ := (num.log2 : ℤ) - den.log2 - 53 with he
  obtain ⟨den_pos, ratio⟩ := scaled_spec num hd e
  have pos : (0 : ℚ) < 2 ^ e := by positivity
  have full : significandBound ≤ (scaled num den e).1 / (scaled num den e).2 ↔
      (2 : ℚ) ^ (e + 53) ≤ num / den := by
    have bound : (2 : ℚ) ^ (53 : ℤ) = significandBound := by norm_num [significandBound]
    rw [add_comm, zpow_add₀ two_ne_zero, bound, ← le_div_iff₀ pos, ← ratio,
      le_div_iff₀ (by exact_mod_cast den_pos), Nat.le_div_iff_mul_le den_pos]
    exact_mod_cast Iff.rfl
  have grow : ∀ {x y : ℤ}, x ≤ y → (2 : ℚ) ^ x ≤ 2 ^ y := fun h =>
    zpow_le_zpow_right₀ one_le_two h
  have exponent : exponentOf num den =
      max (if (2 : ℚ) ^ (e + 53) ≤ num / den then e + 1 else e) minExponent := by
    simp only [exponentOf, ← he, full]
  rw [exponent]
  refine ⟨le_max_right _ _, ?_, ?_⟩
  · split_ifs with h
    · refine high.trans_le (grow ?_)
      have := le_max_left (e + 1) minExponent
      omega
    · refine (not_le.mp h).trans_le (grow ?_)
      have := le_max_left e minExponent
      omega
  · split_ifs with h
    · rcases max_choice (e + 1) minExponent with left | right
      · rw [left]
        exact .inr (by rwa [show e + 1 + 52 = e + 53 by ring])
      · exact .inl right
    · rcases max_choice e minExponent with left | right
      · rw [left]
        exact .inr ((grow (by omega)).trans low.le)
      · exact .inl right

/-! ## The nearest number -/

/-- The nearest number to a quotient, if there were no end to exponents. -/
def nearest (num den : ℕ) : ℚ :=
  halfEven ((num : ℚ) / den / 2 ^ exponentOf num den) * 2 ^ exponentOf num den

lemma nearest_nonneg (num den : ℕ) : 0 ≤ nearest num den := by
  unfold nearest
  positivity

/-- What is rounded at an exponent stays below the next power of two, or reaches it. -/
lemma nearest_le {num den : ℕ} (hn : 0 < num) (hd : 0 < den) :
    nearest num den ≤ 2 ^ (exponentOf num den + 53) := by
  obtain ⟨-, high, -⟩ := exponentOf_spec hn hd
  have pos : (0 : ℚ) < 2 ^ exponentOf num den := by positivity
  rw [add_comm, zpow_add₀ two_ne_zero] at high ⊢
  unfold nearest
  gcongr
  have bound : halfEven ((num : ℚ) / den / 2 ^ exponentOf num den) ≤ halfEven ((2 ^ 53 : ℕ) : ℚ) :=
    halfEven_mono (by rw [div_le_iff₀ pos]; exact_mod_cast high.le)
  rw [halfEven_natCast] at bound
  exact_mod_cast bound

/-- Above the least exponent nothing is rounded below 53 bits. -/
lemma le_nearest {num den : ℕ} (hn : 0 < num) (hd : 0 < den)
    (above : minExponent < exponentOf num den) :
    (2 : ℚ) ^ (exponentOf num den + 52) ≤ nearest num den := by
  obtain ⟨-, -, low⟩ := exponentOf_spec hn hd
  have low := low.resolve_left above.ne'
  have pos : (0 : ℚ) < 2 ^ exponentOf num den := by positivity
  rw [add_comm, zpow_add₀ two_ne_zero] at low ⊢
  unfold nearest
  gcongr
  have bound : halfEven ((2 ^ 52 : ℕ) : ℚ) ≤ halfEven ((num : ℚ) / den / 2 ^ exponentOf num den) :=
    halfEven_mono (by rw [le_div_iff₀ pos]; exact_mod_cast low)
  rw [halfEven_natCast] at bound
  exact_mod_cast bound

/-- **Rounding keeps the order of quotients.** A smaller quotient has no greater exponent; at one
exponent whole numbers are rounded, and across exponents a power of two lies in between. -/
theorem nearest_mono {a b c d : ℕ} (ha : 0 < a) (hb : 0 < b) (hc : 0 < c) (hd : 0 < d)
    (h : (a : ℚ) / b ≤ c / d) : nearest a b ≤ nearest c d := by
  have grow : ∀ {x y : ℤ}, x ≤ y → (2 : ℚ) ^ x ≤ 2 ^ y := fun h =>
    zpow_le_zpow_right₀ one_le_two h
  obtain ⟨least, -, low⟩ := exponentOf_spec ha hb
  obtain ⟨least', high', -⟩ := exponentOf_spec hc hd
  rcases lt_trichotomy (exponentOf a b) (exponentOf c d) with less | same | more
  · calc
      nearest a b ≤ 2 ^ (exponentOf a b + 53) := nearest_le ha hb
      _ ≤ 2 ^ (exponentOf c d + 52) := grow (by omega)
      _ ≤ nearest c d := le_nearest hc hd (least.trans_lt less)
  · unfold nearest
    rw [same]
    gcongr
    exact halfEven_mono (by gcongr)
  · -- the smaller quotient would be at least the power of two that the greater one stays below
    have low := low.resolve_left (least'.trans_lt more).ne'
    have high := (low.trans h).trans_lt high'
    have := (zpow_lt_zpow_iff_right₀ (one_lt_two (α := ℚ))).mp high
    omega

/-! ## The format -/

/-- What is too large for the format counts as infinite. -/
def capped (x : ℚ) : WithTop ℚ := if x < 2 ^ (1024 : ℤ) then x else ⊤

lemma capped_mono {x y : ℚ} (h : x ≤ y) : capped x ≤ capped y := by
  unfold capped
  split_ifs with hx hy
  · exact_mod_cast h
  · exact le_top
  · linarith
  · exact le_rfl

/-- The value of a finite number, and zero for others. -/
def value : Binary64 → ℚ
  | finite n s e => (if n then -(s : ℚ) else s) * 2 ^ e
  | _ => 0

/-- What a number is worth: its value, or more than all values when it is infinite. What is no
number is worth nothing. -/
def worth : Binary64 → WithTop ℚ
  | infinite false => ⊤
  | x => x.value

lemma worth_finite (n : Bool) (s : ℕ) (e : ℤ) :
    (finite n s e).worth = (finite n s e).value := rfl

@[simp] lemma worth_zero (n : Bool) : (zero n).worth = 0 := by
  cases n <;> simp [zero, worth, value]

/-- **What the nearest number is worth.** -/
theorem worth_ofRatio {num den : ℕ} (hn : 0 < num) (hd : 0 < den) :
    (ofRatio false num den).worth = capped (nearest num den) := by
  obtain ⟨least, -, -⟩ := exponentOf_spec hn hd
  obtain ⟨den_pos, ratio⟩ := scaled_spec num hd (exponentOf num den)
  have units : divNearestEven (scaled num den (exponentOf num den)).1
      (scaled num den (exponentOf num den)).2 =
        halfEven ((num : ℚ) / den / 2 ^ exponentOf num den) := by
    rw [divNearestEven_eq_halfEven _ den_pos, ratio]
  have grow : ∀ {x y : ℤ}, x ≤ y → (2 : ℚ) ^ x ≤ 2 ^ y := fun h =>
    zpow_le_zpow_right₀ one_le_two h
  have bound := nearest_le hn hd
  have significand : halfEven ((num : ℚ) / den / 2 ^ exponentOf num den) ≤ significandBound := by
    have pos : (0 : ℚ) < 2 ^ exponentOf num den := by positivity
    rw [nearest, add_comm, zpow_add₀ two_ne_zero, mul_le_mul_iff_left₀ pos] at bound
    exact_mod_cast bound
  have nonzero : ¬(num = 0 ∨ den = 0) := by omega
  have max : maxExponent = 971 := rfl
  have min : minExponent = -1074 := rfl
  rw [ofRatio, if_neg nonzero]
  simp only [units]
  by_cases full : halfEven ((num : ℚ) / den / 2 ^ exponentOf num den) = significandBound
  · have exact_ : nearest num den = 2 ^ (exponentOf num den + 53) := by
      rw [nearest, full, add_comm, zpow_add₀ two_ne_zero]
      norm_num [significandBound]
    simp only [full, if_true]
    split_ifs with big
    · rw [capped, exact_, if_neg (not_lt.mpr (grow (by omega))), worth]
    · have small : nearest num den < 2 ^ (1024 : ℤ) := by
        rw [exact_]
        exact zpow_lt_zpow_right₀ one_lt_two (by omega)
      have half : (2 : ℚ) ^ (52 : ℤ) = leastNormal := by norm_num [leastNormal]
      rw [capped, if_pos small, exact_, show exponentOf num den + 53 = 52 + (exponentOf num den + 1)
        by ring, zpow_add₀ two_ne_zero, half]
      simp only [worth, value, Bool.false_eq_true, if_false]
  · simp only [full, if_false]
    split_ifs with big
    · have large := le_nearest hn hd (by omega)
      rw [capped, if_neg (not_lt.mpr ((grow (by omega)).trans large)), worth]
    · have small : nearest num den < 2 ^ (1024 : ℤ) := by
        have less : (halfEven ((num : ℚ) / den / 2 ^ exponentOf num den) : ℚ) < 2 ^ (53 : ℤ) := by
          have := lt_of_le_of_ne significand full
          exact_mod_cast this
        calc
          nearest num den < 2 ^ (53 : ℤ) * 2 ^ exponentOf num den := by
            unfold nearest
            gcongr
          _ = 2 ^ (53 + exponentOf num den) := (zpow_add₀ two_ne_zero _ _).symm
          _ ≤ 2 ^ (1024 : ℤ) := grow (by omega)
      rw [capped, if_pos small]
      simp only [worth, value, Bool.false_eq_true, if_false]
      rfl

/-- The nearest number to a quotient that is too large for the format is infinite. -/
lemma worth_ofRatio_eq_top {num den : ℕ} (hn : 0 < num) (hd : 0 < den)
    (large : 2 ^ (1024 : ℤ) ≤ (num : ℚ) / den) : (ofRatio false num den).worth = ⊤ := by
  obtain ⟨-, high, -⟩ := exponentOf_spec hn hd
  have more := (zpow_lt_zpow_iff_right₀ (one_lt_two (α := ℚ))).mp (large.trans_lt high)
  have least : minExponent = -1074 := rfl
  have above := le_nearest hn hd (by omega)
  rw [worth_ofRatio hn hd, capped, if_neg (not_lt.mpr (le_trans ?_ above))]
  exact zpow_le_zpow_right₀ one_le_two (by omega)

/-- **The format keeps the order of quotients.** -/
theorem worth_ofRatio_mono {a b c d : ℕ} (hb : 0 < b) (hd : 0 < d) (h : (a : ℚ) / b ≤ c / d) :
    (ofRatio false a b).worth ≤ (ofRatio false c d).worth := by
  have posd : (0 : ℚ) < d := by exact_mod_cast hd
  have nonneg : ∀ x y : ℕ, 0 < y → 0 ≤ (ofRatio false x y).worth := by
    intro x y hy
    rcases Nat.eq_zero_or_pos x with rfl | hx
    · simp [ofRatio]
    · rw [worth_ofRatio hx hy, capped]
      split_ifs
      · exact_mod_cast nearest_nonneg x y
      · exact le_top
  rcases Nat.eq_zero_or_pos a with rfl | ha
  · simpa [ofRatio] using nonneg c d hd
  · have posb : (0 : ℚ) < b := by exact_mod_cast hb
    have posa : (0 : ℚ) < a := by exact_mod_cast ha
    have posc : (0 : ℚ) < c := by
      have := (div_pos posa posb).trans_le h
      rwa [lt_div_iff₀ posd, zero_mul] at this
    have hc : 0 < c := by exact_mod_cast posc
    rw [worth_ofRatio ha hb, worth_ofRatio hc hd]
    exact capped_mono (nearest_mono ha hb hc hd h)

/-! ## The order of numbers -/

/-- A number that is not negative; zero is not, whatever its sign. -/
def NonNegative : Binary64 → Prop
  | finite n s _ => n = true → s = 0
  | infinite n => n = false
  | nan => False

lemma nonNegative_of_worth_pos {x : Binary64} (h : 0 < x.worth) : x.NonNegative := by
  match x with
  | nan => exact absurd h (by decide)
  | infinite true => exact absurd h (by decide)
  | infinite false => rfl
  | finite false s e => exact fun negative => absurd negative (by decide)
  | finite true s e =>
    rw [worth_finite] at h
    have h : 0 < (finite true s e).value := by exact_mod_cast h
    have negative : (finite true s e).value ≤ 0 := by
      simp only [value, if_true]
      exact mul_nonpos_of_nonpos_of_nonneg (by simp) (by positivity)
    linarith

/-- A number that is not negative is infinite or finite. -/
lemma NonNegative.eq_infinite_or_finite {x : Binary64} (h : x.NonNegative) :
    x = infinite false ∨ ∃ n s e, x = finite n s e := by
  cases x with
  | nan => exact h.elim
  | infinite n => exact .inl (congrArg infinite h)
  | finite n s e => exact .inr ⟨n, s, e, rfl⟩

/-- The value of a number that is not negative. -/
lemma value_of_nonNegative {n : Bool} {s : ℕ} {e : ℤ} (h : (finite n s e).NonNegative) :
    (finite n s e).value = s * 2 ^ e := by
  cases n with
  | false => simp [value]
  | true => simp [value, h rfl]

lemma toRatio_spec (x : Binary64) :
    0 < x.toRatio.2 ∧ (x.toRatio.1 : ℚ) / x.toRatio.2 = x.value := by
  match x with
  | nan => simp [toRatio, value]
  | infinite _ => simp [toRatio, value]
  | finite n s e =>
    have sign : (((if n then -(s : ℤ) else s : ℤ)) : ℚ) = if n then -(s : ℚ) else s := by
      split_ifs <;> push_cast <;> rfl
    unfold toRatio value
    dsimp only
    rw [← sign]
    generalize (if n then -(s : ℤ) else s : ℤ) = m
    split_ifs with he
    · obtain ⟨k, rfl⟩ := Int.eq_ofNat_of_zero_le he
      refine ⟨one_pos, ?_⟩
      rw [Int.toNat_natCast, zpow_natCast, ← twoTo_cast, Nat.cast_one, div_one]
      push_cast
      rfl
    · obtain ⟨k, hk⟩ := Int.eq_ofNat_of_zero_le (show 0 ≤ -e by omega)
      obtain rfl : e = -(k : ℤ) := by omega
      refine ⟨Nat.two_pow_pos _, ?_⟩
      rw [neg_neg, Int.toNat_natCast, twoTo_cast, zpow_neg, zpow_natCast, div_eq_mul_inv]

lemma leFinite_iff (a b : Binary64) : leFinite a b = true ↔ a.value ≤ b.value := by
  obtain ⟨pos, ratio⟩ := toRatio_spec a
  obtain ⟨pos', ratio'⟩ := toRatio_spec b
  have pos : (0 : ℚ) < a.toRatio.2 := by exact_mod_cast pos
  have pos' : (0 : ℚ) < b.toRatio.2 := by exact_mod_cast pos'
  rw [← ratio, ← ratio', div_le_div_iff₀ pos pos']
  unfold leFinite
  rw [decide_eq_true_iff]
  exact_mod_cast Iff.rfl

/-- The order of numbers that are not negative is that of their worth. -/
lemma lt_iff_worth {x y : Binary64} (hx : x.NonNegative) (hy : y.NonNegative) :
    x.lt y = true ↔ x.worth < y.worth := by
  rcases hx.eq_infinite_or_finite with rfl | ⟨n, s, e, rfl⟩
  · rcases hy.eq_infinite_or_finite with rfl | ⟨k, t, f, rfl⟩
    · simp [lt, le, worth]
    · simp [lt, le, worth]
  · rcases hy.eq_infinite_or_finite with rfl | ⟨k, t, f, rfl⟩
    · simp [lt, le, worth]
    · rw [worth_finite, worth_finite, WithTop.coe_lt_coe, ← not_le, ← leFinite_iff]
      simp [lt, le]

/-! ## Products -/

/-- The nearest number to a quotient has the sign that was asked for. -/
lemma ofRatio_cases (n : Bool) (num den : ℕ) :
    ofRatio n num den = infinite n ∨ ∃ s e, ofRatio n num den = finite n s e := by
  unfold ofRatio
  split_ifs
  · exact .inr ⟨_, _, rfl⟩
  · dsimp only
    split_ifs
    all_goals first | exact .inl rfl | exact .inr ⟨_, _, rfl⟩

lemma nonNegative_ofRatio (num den : ℕ) : (ofRatio false num den).NonNegative := by
  rcases ofRatio_cases false num den with h | ⟨s, e, h⟩
  · rw [h]
    rfl
  · rw [h]
    exact fun negative => absurd negative (by decide)

/-- The product of finite numbers that are not negative is the nearest number to the product of
their values. -/
lemma mul_finite {n k : Bool} {s t : ℕ} {e f : ℤ} (hx : (finite n s e).NonNegative)
    (hy : (finite k t f).NonNegative) :
    ((finite n s e).mul (finite k t f)).NonNegative ∧ ∃ num den : ℕ, 0 < den ∧
      (num : ℚ) / den = (finite n s e).value * (finite k t f).value ∧
      ((finite n s e).mul (finite k t f)).worth = (ofRatio false num den).worth := by
  have product : (finite n s e).value * (finite k t f).value = (s * t : ℕ) * 2 ^ (e + f) := by
    rw [value_of_nonNegative hx, value_of_nonNegative hy, zpow_add₀ two_ne_zero]
    push_cast
    ring
  obtain ⟨num, den, pos, ratio, nearest⟩ : ∃ num den : ℕ, 0 < den ∧
      (num : ℚ) / den = (s * t : ℕ) * 2 ^ (e + f) ∧
      (finite n s e).mul (finite k t f) = ofRatio (n != k) num den := by
    unfold mul
    dsimp only
    split_ifs with whole
    · refine ⟨s * t * twoTo (e + f).toNat, 1, one_pos, ?_, rfl⟩
      obtain ⟨i, hi⟩ := Int.eq_ofNat_of_zero_le whole
      rw [hi, Int.toNat_natCast, Nat.cast_mul, twoTo_cast, Nat.cast_one, div_one, zpow_natCast]
    · refine ⟨s * t, twoTo (-(e + f)).toNat, Nat.two_pow_pos _, ?_, rfl⟩
      obtain ⟨i, hi⟩ := Int.eq_ofNat_of_zero_le (show 0 ≤ -(e + f) by omega)
      rw [hi, Int.toNat_natCast, twoTo_cast, show e + f = -(i : ℤ) by omega, zpow_neg,
        zpow_natCast, div_eq_mul_inv]
  rw [nearest, product]
  cases sign : n != k with
  | false => exact ⟨nonNegative_ofRatio num den, num, den, pos, ratio, rfl⟩
  | true =>
    -- one of the signs is a minus, so one of the numbers is zero
    have nothing : s * t = 0 := by
      cases n with
      | true => rw [hx rfl, Nat.zero_mul]
      | false => rw [hy (by simpa using sign), Nat.mul_zero]
    have posq : (0 : ℚ) < den := by exact_mod_cast pos
    rw [nothing, Nat.cast_zero, zero_mul, div_eq_zero_iff] at ratio
    obtain rfl : num = 0 := by exact_mod_cast ratio.resolve_right posq.ne'
    refine ⟨fun _ => rfl, 0, 1, one_pos, by simp [nothing], ?_⟩
    simp [ofRatio]

/-- The product with infinity is infinite when it is a number. -/
lemma infinite_mul {y : Binary64} (hy : y.NonNegative) (number : (infinite false).mul y ≠ nan) :
    (infinite false).mul y = infinite false := by
  rcases hy.eq_infinite_or_finite with rfl | ⟨n, s, e, rfl⟩
  · rfl
  · cases zero : (finite n s e).isZero with
    | true => exact absurd (by simp [mul, zero]) number
    | false =>
      have sign : n = false := by
        cases n with
        | false => rfl
        | true => simp [isZero, hy rfl] at zero
      subst sign
      simp [mul, zero, isNegative]

lemma finite_mul_infinite (n : Bool) (s : ℕ) (e : ℤ) :
    (finite n s e).mul (infinite false) = (infinite false).mul (finite n s e) := rfl

/-- **Products with a number that is not negative keep the order**, as long as they are numbers. -/
theorem worth_mul_mono {x y z : Binary64} (hx : x.NonNegative) (hy : y.NonNegative)
    (hz : z.NonNegative) (h : y.worth ≤ z.worth) (number : x.mul y ≠ nan)
    (number' : x.mul z ≠ nan) :
    (x.mul y).NonNegative ∧ (x.mul z).NonNegative ∧ (x.mul y).worth ≤ (x.mul z).worth := by
  rcases hx.eq_infinite_or_finite with rfl | ⟨n, s, e, rfl⟩
  · rw [infinite_mul hy number, infinite_mul hz number']
    exact ⟨rfl, rfl, le_rfl⟩
  rcases hz.eq_infinite_or_finite with rfl | ⟨l, u, g, rfl⟩
  · have most : (finite n s e).mul (infinite false) = infinite false := by
      rw [finite_mul_infinite] at number' ⊢
      exact infinite_mul hx number'
    rw [most]
    refine ⟨?_, rfl, le_top⟩
    rcases hy.eq_infinite_or_finite with rfl | ⟨k, t, f, rfl⟩
    · rw [most]
      rfl
    · exact (mul_finite hx hy).1
  · rcases hy.eq_infinite_or_finite with rfl | ⟨k, t, f, rfl⟩
    · exact absurd (top_le_iff.mp h) WithTop.coe_ne_top
    · obtain ⟨sign, a, b, hb, ratio, worth⟩ := mul_finite hx hy
      obtain ⟨sign', c, d, hd, ratio', worth'⟩ := mul_finite hx hz
      refine ⟨sign, sign', ?_⟩
      rw [worth, worth']
      refine worth_ofRatio_mono hb hd ?_
      rw [ratio, ratio']
      refine mul_le_mul_of_nonneg_left (WithTop.coe_le_coe.mp h) ?_
      rw [value_of_nonNegative hx]
      positivity

end CommonPurse.Binary64
