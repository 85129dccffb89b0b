import CommonPurse.Number.Decimal.Arithmetic
import Mathlib.Algebra.Order.Field.Power
import Mathlib.Algebra.Order.Ring.Rat
import Mathlib.Tactic.FieldSimp
import Mathlib.Tactic.Linarith
import Mathlib.Tactic.NormNum
import Mathlib.Tactic.Positivity
import Mathlib.Tactic.Ring

/-!
# How large results of decimal arithmetic are

The size of a finite decimal is its distance from zero. Rounding to 28 digits does not lead across a
number that has 28 digits itself, unless by half a unit of its last digit; so results stay
within such a mark when the exact ones do.

## Main definitions

* `CommonPurse.Decimal.size` — the size of a coefficient at an exponent.
* `CommonPurse.Decimal.Mark` — a number with 28 digits.
* `CommonPurse.Decimal.Within` — the finite decimals of at most that size.

## Main results

* `CommonPurse.Decimal.fit_le` — a result does not lie behind a mark that the exact one respects.
-/

namespace CommonPurse.Decimal

/-! ## Sizes -/

/-- The size of a coefficient at an exponent. -/
def size (c : Nat) (e : Int) : ℚ := c * 10 ^ e

lemma size_nonneg (c : Nat) (e : Int) : 0 ≤ size c e := by unfold size; positivity

@[simp] lemma size_zero (e : Int) : size 0 e = 0 := by simp [size]

lemma size_mono {c d : Nat} (h : c ≤ d) (e : Int) : size c e ≤ size d e := by
  have cast : (c : ℚ) ≤ d := by exact_mod_cast h
  exact mul_le_mul_of_nonneg_right cast (by positivity)

lemma size_add (c d : Nat) (e : Int) : size (c + d) e = size c e + size d e := by
  simp [size, add_mul]

/-- Zeros behind a coefficient count as much as a greater exponent. -/
lemma size_mul_pow (c n : Nat) (e : Int) : size (c * 10 ^ n) e = size c (e + n) := by
  rw [size, size, zpow_add₀ (by norm_num), zpow_natCast]
  push_cast
  ring

lemma size_mul_tenTo (c : Nat) {e f : Int} (h : f ≤ e) :
    size (c * tenTo (e - f).toNat) f = size c e := by
  have sum : f + ((e - f).toNat : Int) = e := by omega
  show size (c * 10 ^ (e - f).toNat) f = size c e
  rw [size_mul_pow, sum]

lemma size_pow (n : Nat) (e : Int) : size (10 ^ n) e = 10 ^ (n + e) := by
  rw [size, zpow_add₀ (by norm_num), zpow_natCast]
  push_cast
  ring

/-- At one exponent sizes are ordered as the coefficients are. -/
lemma size_lt_size_iff (c d : Nat) (e : Int) : size c e < size d e ↔ c < d := by
  have pos : (0 : ℚ) < 10 ^ e := by positivity
  rw [size, size, mul_lt_mul_iff_left₀ pos, Nat.cast_lt]

lemma size_le_size_iff (c d : Nat) (e : Int) : size c e ≤ size d e ↔ c ≤ d := by
  have pos : (0 : ℚ) < 10 ^ e := by positivity
  rw [size, size, mul_le_mul_iff_left₀ pos, Nat.cast_le]

/-! ## Digits -/

lemma digitCount_pos (c : Nat) : 0 < digitCount c := Nat.length_toDigits_pos

lemma digitCount_le_iff {c n : Nat} (h : 0 < n) : digitCount c ≤ n ↔ c < 10 ^ n :=
  Nat.length_toDigits_le_iff (by decide) h

lemma lt_pow_digitCount (c : Nat) : c < 10 ^ digitCount c :=
  (digitCount_le_iff (digitCount_pos c)).mp le_rfl

lemma pow_digitCount_le {c : Nat} (h : c ≠ 0) : 10 ^ (digitCount c - 1) ≤ c := by
  rcases Nat.eq_zero_or_pos (digitCount c - 1) with zero | pos
  · rw [zero, pow_zero]
    omega
  · by_contra less
    have short := (digitCount_le_iff pos).mpr (not_le.mp less)
    omega

/-- The first digit says how large a number is. -/
lemma pow_adjusted_le {c : Nat} (h : c ≠ 0) (e : Int) : 10 ^ adjusted c e ≤ size c e := by
  have low := size_mono (pow_digitCount_le h) e
  have pos := digitCount_pos c
  rw [size_pow] at low
  have exponent : ((digitCount c - 1 : Nat) : Int) + e = adjusted c e := by
    unfold adjusted
    omega
  rwa [exponent] at low

lemma size_lt_pow (c : Nat) (e : Int) : size c e < 10 ^ (adjusted c e + 1) := by
  have high := (size_lt_size_iff _ _ e).mpr (lt_pow_digitCount c)
  have exponent : (digitCount c : Int) + e = adjusted c e + 1 := by
    unfold adjusted
    omega
  rwa [size_pow, exponent] at high

/-- A number below a power of ten has its first digit below it. -/
lemma adjusted_lt {c : Nat} (h : c ≠ 0) {e k : Int} (less : size c e < 10 ^ k) :
    adjusted c e < k :=
  (zpow_lt_zpow_iff_right₀ (by norm_num : (1 : ℚ) < 10)).mp ((pow_adjusted_le h e).trans_lt less)

/-! ## Rounding a coefficient -/

/-- Rounding does not exceed a whole number unless by more than a half. -/
lemma dropDigits_le {c n m : Nat} (h : 2 * c < (2 * m + 1) * 10 ^ n) : dropDigits c n ≤ m := by
  have tens : tenTo n = 10 ^ n := rfl
  have pos : 0 < 10 ^ n := Nat.pow_pos (by decide)
  have split := Nat.div_add_mod c (10 ^ n)
  have rest := Nat.mod_lt c pos
  unfold dropDigits
  rw [tens]
  by_cases below : c / 10 ^ n < m
  · dsimp only
    split_ifs <;> omega
  · -- Not less than `m` units, and less than a half more: nothing is rounded up.
    have exactly : c / 10 ^ n = m := by
      refine le_antisymm ?_ (not_lt.mp below)
      rw [← Nat.lt_succ_iff, Nat.div_lt_iff_lt_mul pos]
      nlinarith
    have half : 2 * (c % 10 ^ n) < 10 ^ n := by
      rw [exactly] at split
      nlinarith
    simp only [half, if_true]
    omega

/-! ## Marks -/

/-- A number with 28 digits, all of which lie in the range of results. -/
structure Mark where
  coefficient : Nat
  exponent : Int
  full : 10 ^ 27 ≤ coefficient
  short : coefficient < 10 ^ 28
  low : minExponent ≤ exponent
  high : exponent ≤ 999972

namespace Mark

/-- The size of the number. -/
def size (b : Mark) : ℚ := Decimal.size b.coefficient b.exponent

/-- The number and half a unit of its last digit. -/
def reach (b : Mark) : ℚ := (b.coefficient + 1 / 2) * 10 ^ b.exponent

variable (b : Mark)

lemma size_lt_reach : b.size < b.reach := by
  have pos : (0 : ℚ) < 10 ^ b.exponent := by positivity
  unfold size reach Decimal.size
  nlinarith

lemma pow_le_size : 10 ^ (27 + b.exponent) ≤ b.size := by
  have low := size_mono b.full b.exponent
  rwa [size_pow] at low

lemma reach_le_pow : b.reach ≤ 10 ^ (28 + b.exponent) := by
  have pos : (0 : ℚ) < 10 ^ b.exponent := by positivity
  have cast : (b.coefficient : ℚ) + 1 ≤ 10 ^ 28 := by exact_mod_cast b.short
  have power : (10 : ℚ) ^ (28 + b.exponent) = 10 ^ 28 * 10 ^ b.exponent := by
    rw [zpow_add₀ (by norm_num)]
    norm_num
  rw [power]
  unfold reach
  exact mul_le_mul_of_nonneg_right (by linarith) pos.le

/-- Below a mark and a half there is no room for a first digit in front of its own. -/
lemma adjusted_le {c : Nat} {e : Int} (h : c ≠ 0) (less : Decimal.size c e < b.reach) :
    adjusted c e ≤ 27 + b.exponent := by
  have first := adjusted_lt h (less.trans_le b.reach_le_pow)
  omega

/-- At an exponent below that of the mark, 28 digits do not reach it. -/
lemma size_le_of_lt {c : Nat} {e : Int} (short : c ≤ 10 ^ 28) (less : e < b.exponent) :
    Decimal.size c e ≤ b.size := by
  have high := size_mono short e
  rw [size_pow] at high
  have power : (10 : ℚ) ^ (((28 : Nat) : Int) + e) ≤ 10 ^ (27 + b.exponent) :=
    zpow_le_zpow_right₀ (by norm_num) (by push_cast; omega)
  exact high.trans (power.trans b.pow_le_size)

/-- What is less than half a unit behind a mark, at its exponent or above, is not behind it. -/
lemma size_le_of_le {c : Nat} {e : Int} (le : b.exponent ≤ e) (less : Decimal.size c e < b.reach) :
    Decimal.size c e ≤ b.size := by
  have pos : (0 : ℚ) < 10 ^ b.exponent := by positivity
  rw [← size_mul_tenTo c le] at less ⊢
  have whole : ((c * tenTo (e - b.exponent).toNat : Nat) : ℚ) < b.coefficient + 1 / 2 :=
    lt_of_mul_lt_mul_right less pos.le
  refine size_mono ?_ _
  by_contra more
  have next : (b.coefficient : ℚ) + 1 ≤ (c * tenTo (e - b.exponent).toNat : Nat) := by
    exact_mod_cast not_le.mp more
  linarith

/-- A coefficient that is shortened to 28 digits, or to the exponent of the mark, does not go behind
the mark. -/
lemma size_dropDigits_le {c n : Nat} {e : Int} (long : digitCount c ≤ 28 + n)
    (le : e + n ≤ b.exponent) (less : Decimal.size c e < b.reach) :
    Decimal.size (dropDigits c n) (e + n) ≤ b.size := by
  rcases lt_or_eq_of_le le with below | same
  · refine b.size_le_of_lt (dropDigits_le ?_) below
    have digits := (digitCount_le_iff (by omega)).mp long
    rw [pow_add] at digits
    have pos : 0 < 10 ^ n := Nat.pow_pos (by decide)
    nlinarith
  · rw [same]
    refine size_mono (dropDigits_le ?_) _
    have scale : (10 : ℚ) ^ b.exponent = 10 ^ e * 10 ^ n := by
      rw [← same, zpow_add₀ (by norm_num), zpow_natCast]
    have pos : (0 : ℚ) < 10 ^ e := by positivity
    have less' : (c : ℚ) * 10 ^ e < (b.coefficient + 1 / 2) * 10 ^ n * 10 ^ e := by
      rw [mul_assoc, mul_comm (10 ^ n : ℚ), ← scale]
      exact less
    have whole := lt_of_mul_lt_mul_right less' pos.le
    have doubled : 2 * (c : ℚ) < (2 * b.coefficient + 1) * 10 ^ n := by linarith
    exact_mod_cast doubled

end Mark

/-! ## Results -/

/-- Shortening to fewer digits does not go behind a mark either when a last zero is lost. -/
lemma size_shorten_le {c n : Nat} {e : Int} :
    size (shorten c e n).1 (shorten c e n).2 ≤ size (dropDigits c n) (e + n) := by
  unfold shorten
  dsimp only
  split
  · have power := size_mul_pow (dropDigits c n / 10) 1 (e + n)
    push_cast at power
    rw [← power]
    exact size_mono (by omega) _
  · exact le_rfl

lemma shorten_exponent_le (c n : Nat) (e : Int) : (shorten c e n).2 ≤ e + n + 1 := by
  unfold shorten
  dsimp only
  split <;> simp

/-- **A result is not behind a mark when the exact one is less than half a unit behind it.** In
particular there is a result. -/
theorem fit_le (b : Mark) (n : Bool) {c : Nat} {e : Int} (less : size c e < b.reach) :
    ∃ q f, fit n c e = .ok (.finite n q f) ∧ size q f ≤ b.size := by
  have high := b.high
  have low := b.low
  have top : maxAdjusted = 999999 := rfl
  have nonneg : 0 ≤ b.size := size_nonneg _ _
  have digits : precision = 28 := rfl
  by_cases zero : c = 0
  · exact ⟨0, _, by rw [fit, if_pos zero], by simpa using nonneg⟩
  have first := b.adjusted_le zero less
  have inRange : ¬ maxAdjusted < adjusted c e := by omega
  simp only [fit, if_neg zero, if_neg inRange]
  set drop := max (digitCount c - precision) (minExponent - e).toNat with hdrop
  by_cases whole : drop = 0
  · -- Nothing is rounded.
    rw [if_pos whole]
    refine ⟨c, e, rfl, ?_⟩
    rcases lt_or_ge e b.exponent with below | above
    · have short := (digitCount_le_iff (c := c) (n := 28) (by decide)).mp (by omega)
      exact b.size_le_of_lt short.le below
    · exact b.size_le_of_le above less
  rw [if_neg whole]
  by_cases tiny : digitCount c < drop
  · rw [if_pos tiny]
    exact ⟨0, _, rfl, by simpa using nonneg⟩
  rw [if_neg tiny]
  have rounded : size (shorten c e drop).1 (shorten c e drop).2 ≤ b.size := by
    refine size_shorten_le.trans (b.size_dropDigits_le (by omega) ?_ less)
    unfold adjusted at first
    omega
  -- What is rounded is not behind the mark either, so its first digit is in range.
  have stays : ¬ maxAdjusted < adjusted (shorten c e drop).1 (shorten c e drop).2 := by
    by_cases none : (shorten c e drop).1 = 0
    · have exponent := shorten_exponent_le c drop e
      rw [none]
      unfold adjusted at first ⊢
      have one : digitCount 0 = 1 := by decide
      omega
    · have last := b.adjusted_le none (rounded.trans_lt b.size_lt_reach)
      omega
  rw [if_neg stays]
  exact ⟨_, _, rfl, rounded⟩

/-- A finite decimal of at most some size. -/
def Within (bound : ℚ) : Decimal → Prop
  | finite _ c e => size c e ≤ bound
  | infinite _ => False
  | nan .. => False

lemma Within.mono {a b : ℚ} {d : Decimal} (h : d.Within a) (le : a ≤ b) : d.Within b := by
  cases d with
  | finite n c e => exact le_trans (show size c e ≤ a from h) le
  | infinite n => exact h
  | nan n s p => exact h

lemma Within.finite {bound : ℚ} {d : Decimal} (h : d.Within bound) :
    ∃ n c e, d = .finite n c e ∧ size c e ≤ bound := by
  cases d with
  | finite n c e => exact ⟨n, c, e, rfl, h⟩
  | infinite n => exact h.elim
  | nan n s p => exact h.elim

/-- There is a result, and it is not behind a mark. -/
def Gives (b : Mark) (r : Except Fault Decimal) : Prop := ∃ d, r = .ok d ∧ d.Within b.size

lemma gives_fit (b : Mark) (n : Bool) {c : Nat} {e : Int} (less : size c e < b.reach) :
    Gives b (fit n c e) := by
  obtain ⟨q, f, done, le⟩ := fit_le b n less
  exact ⟨_, done, le⟩

end CommonPurse.Decimal
