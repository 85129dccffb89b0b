import CommonPurse.Proofs.Number.Nearest
import Mathlib.Algebra.Order.Ring.Pow

/-!
# Powers in binary

The powers of a number that is at least one ascend, even though only 256 bits are kept while they
are computed. What is cut off below is far less than what one more factor adds, until the power is
too large for the format.

## Main definitions

* `CommonPurse.Binary64.magnitude` — the value of a significand at an exponent.
* `CommonPurse.Binary64.Canonical` — the form of finite numbers.

## Main results

* `CommonPurse.Binary64.powCut_le`, `CommonPurse.Binary64.pow_le_powCut` — how much of a power is
  cut off.
* `CommonPurse.Binary64.worth_pow_mono` — the powers of a number from one on ascend.
-/

namespace CommonPurse.Binary64

/-! ## What is cut off -/

/-- The value of a significand at an exponent. -/
def magnitude (x : ℕ × ℤ) : ℚ := x.1 * 2 ^ x.2

/-- What remains at least of a number that is cut off to 256 bits. -/
def kept : ℚ := 1 - 2 ^ (-255 : ℤ)

/-- The number of bits of a significand that are cut off. -/
def excess (s : ℕ) : ℕ := s.log2 - 255

lemma kept_pos : 0 < kept := by norm_num [kept]

lemma kept_le_one : kept ≤ 1 := by norm_num [kept]

lemma magnitude_nonneg (x : ℕ × ℤ) : 0 ≤ magnitude x := by
  unfold magnitude
  positivity

@[simp] lemma magnitude_one : magnitude (1, 0) = 1 := by simp [magnitude]

lemma magnitude_mul (s t : ℕ) (e f : ℤ) :
    magnitude (s * t, e + f) = magnitude (s, e) * magnitude (t, f) := by
  unfold magnitude
  rw [zpow_add₀ two_ne_zero]
  push_cast
  ring

lemma cut_eq (s : ℕ) (e : ℤ) : cut s e = (s / 2 ^ excess s, e + excess s) := by
  rw [← Nat.shiftRight_eq_div_pow]
  rfl

lemma excess_spec (s : ℕ) : excess s = 0 ∨ 2 ^ 255 * 2 ^ excess s ≤ s := by
  rcases Nat.eq_zero_or_pos (excess s) with small | large
  · exact .inl small
  · have bits : 255 + excess s = s.log2 := by
      unfold excess at large ⊢
      omega
    have nonzero : s ≠ 0 := by
      rintro rfl
      simp at bits
    rw [← Nat.pow_add, bits]
    exact .inr (Nat.log2_self_le nonzero)

/-- Cutting off moves whole units of the last place. -/
lemma magnitude_cut (s : ℕ) (e : ℤ) :
    magnitude (cut s e) = (s / 2 ^ excess s * 2 ^ excess s : ℕ) * 2 ^ e := by
  rw [cut_eq, magnitude, zpow_add₀ two_ne_zero, zpow_natCast]
  push_cast
  ring

/-- At most one unit of the last of 256 places is cut off. -/
lemma cut_bounds (s : ℕ) (e : ℤ) :
    magnitude (s, e) * kept ≤ magnitude (cut s e) ∧ magnitude (cut s e) ≤ magnitude (s, e) := by
  have pos : (0 : ℚ) < 2 ^ e := by positivity
  rw [magnitude_cut]
  constructor
  · have units : 2 ^ 255 * s ≤ 2 ^ 255 * (s / 2 ^ excess s * 2 ^ excess s) + s := by
      rcases excess_spec s with small | large
      · rw [small, pow_zero, Nat.div_one, Nat.mul_one]
        exact Nat.le_add_right _ _
      · have whole := Nat.div_add_mod' s (2 ^ excess s)
        have rest := Nat.mod_lt s (Nat.two_pow_pos (excess s))
        omega
    have units : (2 : ℚ) ^ 255 * s ≤ 2 ^ 255 * (s / 2 ^ excess s * 2 ^ excess s : ℕ) + s := by
      exact_mod_cast units
    have share : kept = (2 ^ 255 - 1) / 2 ^ 255 := by norm_num [kept]
    rw [magnitude, share, mul_right_comm]
    gcongr
    rw [mul_div_assoc', div_le_iff₀ (by positivity)]
    linarith
  · unfold magnitude
    gcongr
    exact Nat.div_mul_le_self _ _

/-- A power of two is not changed when it is cut off. -/
lemma cut_two_pow (i : ℕ) (e : ℤ) :
    magnitude (cut (2 ^ i) e) = magnitude (2 ^ i, e) ∧ ∃ j, (cut (2 ^ i) e).1 = 2 ^ j := by
  have small : excess (2 ^ i) ≤ i := by
    have bits := Nat.log2_two_pow (n := i)
    unfold excess
    omega
  refine ⟨?_, i - excess (2 ^ i), ?_⟩
  · rw [magnitude_cut, Nat.div_mul_cancel (pow_dvd_pow 2 small), magnitude]
  · rw [cut_eq, Nat.pow_div small two_pos]

/-! ## What is cut off a power -/

section Power

variable (s : ℕ) (e : ℤ)

/-- The square of a number, cut off. -/
def squared (y : ℕ × ℤ) : ℕ × ℤ := cut (y.1 * y.1) (2 * y.2)

/-- A number with one more factor, cut off. -/
def extended (z : ℕ × ℤ) : ℕ × ℤ := cut (z.1 * s) (z.2 + e)

lemma powCut_zero : powCut s e 0 = (1, 0) := by
  rw [powCut]
  rfl

/-- A power is the square of the power to half the exponent, with one more factor if that is
odd. -/
lemma powCut_pos {n : ℕ} (h : 0 < n) :
    powCut s e n =
      if n % 2 = 0 then squared (powCut s e (n / 2))
      else extended s e (squared (powCut s e (n / 2))) := by
  rw [powCut, dif_neg h.ne']
  rfl

/-- One step of a power: it is cut off once for the square, and once more for a factor. -/
lemma powCut_step {n : ℕ} (h : 0 < n) :
    magnitude (powCut s e (n / 2)) ^ 2 * kept * (magnitude (s, e) * kept) ^ (n % 2) ≤
        magnitude (powCut s e n) ∧
      magnitude (powCut s e n) ≤
        magnitude (powCut s e (n / 2)) ^ 2 * magnitude (s, e) ^ (n % 2) := by
  have base := magnitude_nonneg (s, e)
  have square : ∀ y : ℕ × ℤ, magnitude y ^ 2 * kept ≤ magnitude (squared y) ∧
      magnitude (squared y) ≤ magnitude y ^ 2 := by
    intro y
    have exact_ : magnitude (y.1 * y.1, 2 * y.2) = magnitude y ^ 2 := by
      rw [two_mul, magnitude_mul, sq]
    rw [← exact_]
    exact cut_bounds _ _
  have factor : ∀ z : ℕ × ℤ, magnitude z * magnitude (s, e) * kept ≤ magnitude (extended s e z) ∧
      magnitude (extended s e z) ≤ magnitude z * magnitude (s, e) := by
    intro z
    have exact_ : magnitude (z.1 * s, z.2 + e) = magnitude z * magnitude (s, e) := magnitude_mul ..
    rw [← exact_]
    exact cut_bounds _ _
  obtain ⟨low, high⟩ := square (powCut s e (n / 2))
  rw [powCut_pos s e h]
  split_ifs with even
  · simpa only [even, pow_zero, mul_one] using And.intro low high
  · obtain ⟨low', high'⟩ := factor (squared (powCut s e (n / 2)))
    rw [show n % 2 = 1 by omega, pow_one, pow_one, ← mul_assoc]
    have share := kept_pos.le
    exact ⟨(mul_le_mul_of_nonneg_right (mul_le_mul_of_nonneg_right low base) share).trans low',
      high'.trans (mul_le_mul_of_nonneg_right high base)⟩

/-- A power that is cut off is not too large. -/
theorem powCut_le (n : ℕ) : magnitude (powCut s e n) ≤ magnitude (s, e) ^ n := by
  have base := magnitude_nonneg (s, e)
  induction n using Nat.strongRecOn with
  | ind n ih =>
    rcases Nat.eq_zero_or_pos n with rfl | pos
    · simp [powCut_zero]
    · have half := ih (n / 2) (Nat.div_lt_self pos one_lt_two)
      have root := magnitude_nonneg (powCut s e (n / 2))
      calc
        magnitude (powCut s e n)
            ≤ magnitude (powCut s e (n / 2)) ^ 2 * magnitude (s, e) ^ (n % 2) :=
          (powCut_step s e pos).2
        _ ≤ (magnitude (s, e) ^ (n / 2)) ^ 2 * magnitude (s, e) ^ (n % 2) := by gcongr
        _ = magnitude (s, e) ^ n := by rw [← pow_mul, ← pow_add, Nat.div_add_mod']

/-- **A power that is cut off** is not much too small: there are at most three cuts for each
factor. One of them is still to spare. -/
theorem pow_le_powCut {n : ℕ} (h : 0 < n) :
    (magnitude (s, e) * kept ^ 3) ^ n ≤ magnitude (powCut s e n) * kept := by
  have base := magnitude_nonneg (s, e)
  have share := kept_pos.le
  induction n using Nat.strongRecOn with
  | ind n ih =>
    have step := (powCut_step s e h).1
    rcases Nat.eq_zero_or_pos (n / 2) with zero | pos
    · obtain rfl : n = 1 := by omega
      rw [zero, powCut_zero, magnitude_one] at step
      calc
        (magnitude (s, e) * kept ^ 3) ^ 1
            = 1 ^ 2 * kept * (magnitude (s, e) * kept) ^ (1 % 2) * kept := by
          rw [show 1 % 2 = 1 from rfl]
          ring
        _ ≤ magnitude (powCut s e 1) * kept := mul_le_mul_of_nonneg_right step share
    · have half := ih (n / 2) (Nat.div_lt_self h one_lt_two) pos
      have fewer : kept ^ 3 ≤ kept := pow_le_of_le_one share kept_le_one (by decide)
      calc
        (magnitude (s, e) * kept ^ 3) ^ n
            = ((magnitude (s, e) * kept ^ 3) ^ (n / 2)) ^ 2 *
                (magnitude (s, e) * kept ^ 3) ^ (n % 2) := by
          rw [← pow_mul, ← pow_add, Nat.div_add_mod']
        _ ≤ (magnitude (powCut s e (n / 2)) * kept) ^ 2 * (magnitude (s, e) * kept) ^ (n % 2) := by
          gcongr
        _ = magnitude (powCut s e (n / 2)) ^ 2 * kept * (magnitude (s, e) * kept) ^ (n % 2) *
              kept := by ring
        _ ≤ magnitude (powCut s e n) * kept := mul_le_mul_of_nonneg_right step share

variable {s e}

/-- The powers of one are not cut off at all. -/
lemma powCut_one {k : ℕ} (hs : s = 2 ^ k) (one : magnitude (s, e) = 1) (n : ℕ) :
    magnitude (powCut s e n) = 1 := by
  suffices both : magnitude (powCut s e n) = 1 ∧ ∃ j, (powCut s e n).1 = 2 ^ j from both.1
  induction n using Nat.strongRecOn with
  | ind n ih =>
    rcases Nat.eq_zero_or_pos n with rfl | pos
    · exact ⟨by simp [powCut_zero], 0, by simp [powCut_zero]⟩
    · obtain ⟨half, i, hi⟩ := ih (n / 2) (Nat.div_lt_self pos one_lt_two)
      have square : magnitude (squared (powCut s e (n / 2))) = 1 ∧
          ∃ j, (squared (powCut s e (n / 2))).1 = 2 ^ j := by
        have product : magnitude (2 ^ (i + i), 2 * (powCut s e (n / 2)).2) = 1 := by
          rw [pow_add, ← hi, two_mul, magnitude_mul, half, one_mul]
        have exact_ := cut_two_pow (i + i) (2 * (powCut s e (n / 2)).2)
        rwa [product, pow_add, ← hi] at exact_
      rw [powCut_pos s e pos]
      split_ifs
      · exact square
      · obtain ⟨value, j, hj⟩ := square
        have product : magnitude (2 ^ (j + k), (squared (powCut s e (n / 2))).2 + e) = 1 := by
          rw [pow_add, ← hj, ← hs, magnitude_mul, value, one, one_mul]
        have exact_ := cut_two_pow (j + k) ((squared (powCut s e (n / 2))).2 + e)
        rwa [product, pow_add, ← hj, ← hs] at exact_

end Power

/-! ## One more factor -/

/-- A number with 53 bits that is more than one is so by at least one unit of its last place. -/
lemma eq_one_or_le_magnitude {s : ℕ} {e : ℤ} (bits : s < significandBound)
    (one : 1 ≤ magnitude (s, e)) :
    (magnitude (s, e) = 1 ∧ ∃ k, s = 2 ^ k) ∨ 1 + 2 ^ (-52 : ℤ) ≤ magnitude (s, e) := by
  unfold magnitude at one ⊢
  dsimp only at one ⊢
  rcases le_or_gt 0 e with whole | fraction
  · obtain ⟨k, rfl⟩ := Int.eq_ofNat_of_zero_le whole
    rw [zpow_natCast] at one ⊢
    have one : 1 ≤ s * 2 ^ k := by exact_mod_cast one
    rcases one.eq_or_lt with same | more
    · refine .inl ⟨by exact_mod_cast same.symm, 0, ?_⟩
      exact Nat.eq_one_of_mul_eq_one_right same.symm
    · right
      have two : (2 : ℚ) ≤ s * 2 ^ k := by exact_mod_cast more
      exact le_trans (by norm_num) two
  · obtain ⟨k, hk⟩ := Int.eq_ofNat_of_zero_le (show 0 ≤ -e by omega)
    obtain rfl : e = -(k : ℤ) := by omega
    rw [zpow_neg, zpow_natCast, ← div_eq_mul_inv] at one ⊢
    have pos : (0 : ℚ) < 2 ^ k := by positivity
    have one : 2 ^ k ≤ s := by
      rw [le_div_iff₀ pos, one_mul] at one
      exact_mod_cast one
    rcases one.eq_or_lt with same | more
    · refine .inl ⟨?_, k, same.symm⟩
      rw [div_eq_one_iff_eq pos.ne']
      exact_mod_cast same.symm
    · right
      have few : k < 53 := (Nat.pow_lt_pow_iff_right one_lt_two).mp (one.trans_lt bits)
      have unit : (2 : ℚ) ^ (-52 : ℤ) * 2 ^ k ≤ 1 := by
        rw [← zpow_natCast, ← zpow_add₀ two_ne_zero]
        exact zpow_le_one_of_nonpos₀ one_le_two (by omega)
      have next : (2 : ℚ) ^ k + 1 ≤ s := by exact_mod_cast more
      rw [le_div_iff₀ pos]
      linarith

/-- What is one unit of the 53rd place more than one doubles, and doubles again. -/
lemma two_pow_le_pow {q : ℚ} (h : 1 + 2 ^ (-53 : ℤ) ≤ q) {m n : ℕ}
    (hn : significandBound * m ≤ n) : 2 ^ m ≤ q ^ n := by
  have unit : (0 : ℚ) ≤ 2 ^ (-53 : ℤ) := by positivity
  have double : (2 : ℚ) ≤ q ^ significandBound := calc
    (2 : ℚ) = 1 + significandBound * 2 ^ (-53 : ℤ) := by norm_num [significandBound]
    _ ≤ (1 + 2 ^ (-53 : ℤ)) ^ significandBound := one_add_mul_le_pow (by linarith) _
    _ ≤ q ^ significandBound := by gcongr
  calc
    2 ^ m ≤ (q ^ significandBound) ^ m := by gcongr
    _ = q ^ (significandBound * m) := (pow_mul ..).symm
    _ ≤ q ^ n := pow_le_pow_right₀ (by linarith) hn

section Ascent

variable {s : ℕ} {e : ℤ}

/-- What is cut off for each factor is little. -/
lemma le_share (more : 1 + 2 ^ (-52 : ℤ) ≤ magnitude (s, e)) :
    1 + 2 ^ (-53 : ℤ) ≤ magnitude (s, e) * kept ^ 3 := calc
  1 + 2 ^ (-53 : ℤ) ≤ (1 + 2 ^ (-52 : ℤ)) * kept ^ 3 := by norm_num [kept]
  _ ≤ magnitude (s, e) * kept ^ 3 :=
    mul_le_mul_of_nonneg_right more (pow_nonneg kept_pos.le 3)

/-- The powers of a number from one on are at least one. -/
lemma one_le_powCut (bits : s < significandBound) (one : 1 ≤ magnitude (s, e)) (n : ℕ) :
    1 ≤ magnitude (powCut s e n) := by
  rcases eq_one_or_le_magnitude bits one with ⟨same, k, hk⟩ | more
  · exact (powCut_one hk same n).ge
  · rcases Nat.eq_zero_or_pos n with rfl | pos
    · simp [powCut_zero]
    · have unit : (0 : ℚ) < 2 ^ (-53 : ℤ) := by positivity
      calc
        1 ≤ (magnitude (s, e) * kept ^ 3) ^ n := one_le_pow₀ (by linarith [le_share more])
        _ ≤ magnitude (powCut s e n) * kept := pow_le_powCut s e pos
        _ ≤ magnitude (powCut s e n) :=
          mul_le_of_le_one_right (magnitude_nonneg _) kept_le_one

/-- **One more factor** makes a power greater, or the power is too large for the format. As long as
there are few factors, more is added than has been cut off. -/
theorem powCut_ascends (bits : s < significandBound) (one : 1 ≤ magnitude (s, e)) (n : ℕ) :
    magnitude (powCut s e n) ≤ magnitude (powCut s e (n + 1)) ∨
      2 ^ (1024 : ℤ) ≤ magnitude (powCut s e (n + 1)) := by
  rcases eq_one_or_le_magnitude bits one with ⟨same, k, hk⟩ | more
  · rw [powCut_one hk same, powCut_one hk same]
    exact .inl le_rfl
  · have power : (magnitude (s, e) * kept ^ 3) ^ (n + 1) ≤ magnitude (powCut s e (n + 1)) :=
      (pow_le_powCut s e n.succ_pos).trans
        (mul_le_of_le_one_right (magnitude_nonneg _) kept_le_one)
    rcases le_or_gt (n + 1) (significandBound * 1024) with few | many
    · have base : 0 ≤ magnitude (s, e) := magnitude_nonneg _
      have left : 1 - (2 : ℚ) ^ (-180 : ℤ) ≤ (kept ^ 3) ^ (n + 1) := by
        have few : ((3 * (n + 1) : ℕ) : ℚ) ≤ 2 ^ (75 : ℤ) := by
          have : 3 * (n + 1) ≤ 2 ^ 75 := by
            unfold significandBound at few
            omega
          exact_mod_cast this
        have unit : (0 : ℚ) ≤ 2 ^ (-255 : ℤ) := by positivity
        calc
          1 - (2 : ℚ) ^ (-180 : ℤ) = 1 + 2 ^ (75 : ℤ) * -2 ^ (-255 : ℤ) := by norm_num
          _ ≤ 1 + (3 * (n + 1) : ℕ) * -2 ^ (-255 : ℤ) := by nlinarith
          _ ≤ (1 + -2 ^ (-255 : ℤ)) ^ (3 * (n + 1)) := one_add_mul_le_pow (by norm_num) _
          _ = (kept ^ 3) ^ (n + 1) := by rw [← pow_mul, kept, sub_eq_add_neg]
      have gain : 1 ≤ magnitude (s, e) * (kept ^ 3) ^ (n + 1) := calc
        (1 : ℚ) ≤ (1 + 2 ^ (-52 : ℤ)) * (1 - 2 ^ (-180 : ℤ)) := by norm_num
        _ ≤ magnitude (s, e) * (kept ^ 3) ^ (n + 1) := by
          refine mul_le_mul more left ?_ base
          norm_num
      left
      calc
        magnitude (powCut s e n) ≤ magnitude (s, e) ^ n := powCut_le s e n
        _ ≤ magnitude (s, e) ^ n * (magnitude (s, e) * (kept ^ 3) ^ (n + 1)) :=
          le_mul_of_one_le_right (pow_nonneg base n) gain
        _ = (magnitude (s, e) * kept ^ 3) ^ (n + 1) := by ring
        _ ≤ magnitude (powCut s e (n + 1)) := power
    · right
      refine le_trans ?_ power
      exact_mod_cast two_pow_le_pow (le_share more) many.le

end Ascent

/-! ## Powers in the format -/

/-- The form of finite numbers: at most 53 bits, fewer only at the least exponent. -/
def Canonical : Binary64 → Prop
  | finite _ s e =>
    s < significandBound ∧ minExponent ≤ e ∧ e ≤ maxExponent ∧ (s < leastNormal → e = minExponent)
  | _ => True

instance (x : Binary64) : Decidable x.Canonical :=
  match x with
  | finite _ s e =>
    inferInstanceAs (Decidable (s < significandBound ∧ minExponent ≤ e ∧ e ≤ maxExponent ∧
      (s < leastNormal → e = minExponent)))
  | infinite _ => isTrue trivial
  | nan => isTrue trivial

/-- What is put into the format is the nearest number to its value, or beyond all numbers. -/
lemma ofScaled_cases {s : ℕ} {e : ℤ} (one : 1 ≤ magnitude (s, e)) :
    (2 ^ (1024 : ℤ) ≤ magnitude (s, e) ∧ ofScaled false s e = infinite false) ∨
      ∃ num den : ℕ, 0 < num ∧ 0 < den ∧ (num : ℚ) / den = magnitude (s, e) ∧
        ofScaled false s e = ofRatio false num den := by
  have nonzero : s ≠ 0 := by
    rintro rfl
    norm_num [magnitude] at one
  have pos : (0 : ℚ) < 2 ^ e := by positivity
  have grow : ∀ {x y : ℤ}, x ≤ y → (2 : ℚ) ^ x ≤ 2 ^ y := fun h =>
    zpow_le_zpow_right₀ one_le_two h
  have low : (2 : ℚ) ^ (e + s.log2) ≤ magnitude (s, e) := by
    have := Nat.log2_self_le nonzero
    rw [add_comm, zpow_add₀ two_ne_zero, magnitude, zpow_natCast]
    gcongr
    exact_mod_cast this
  have high : magnitude (s, e) ≤ 2 ^ (e + s.log2 + 1) := by
    have := (Nat.lt_log2_self (n := s)).le
    rw [add_assoc, add_comm, zpow_add₀ two_ne_zero, magnitude]
    gcongr
    exact_mod_cast this
  unfold ofScaled
  rw [if_neg nonzero]
  split_ifs with huge tiny whole
  · exact .inl ⟨(grow (by omega)).trans low, rfl⟩
  · have less : (2 : ℚ) ^ (e + s.log2 + 1) < 1 := zpow_lt_one_of_neg₀ one_lt_two (by omega)
    linarith
  · refine .inr ⟨s * twoTo e.toNat, 1, Nat.mul_pos (by omega) (Nat.two_pow_pos _), one_pos, ?_, rfl⟩
    obtain ⟨k, rfl⟩ := Int.eq_ofNat_of_zero_le whole
    rw [Int.toNat_natCast, Nat.cast_mul, twoTo_cast, Nat.cast_one, div_one, magnitude,
      zpow_natCast]
  · refine .inr ⟨s, twoTo (-e).toNat, by omega, Nat.two_pow_pos _, ?_, rfl⟩
    obtain ⟨k, hk⟩ := Int.eq_ofNat_of_zero_le (show 0 ≤ -e by omega)
    obtain rfl : e = -(k : ℤ) := by omega
    rw [neg_neg, Int.toNat_natCast, twoTo_cast, magnitude, zpow_neg, zpow_natCast, div_eq_mul_inv]

/-- What is beyond the format counts as infinite. -/
lemma worth_ofScaled_eq_top {s : ℕ} {e : ℤ} (large : 2 ^ (1024 : ℤ) ≤ magnitude (s, e)) :
    (ofScaled false s e).worth = ⊤ := by
  have above : (1 : ℚ) ≤ 2 ^ (1024 : ℤ) := one_le_zpow₀ one_le_two (by decide)
  have one : 1 ≤ magnitude (s, e) := above.trans large
  rcases ofScaled_cases one with ⟨-, h⟩ | ⟨num, den, hn, hd, ratio, h⟩
  · rw [h, worth]
  · rw [h]
    exact worth_ofRatio_eq_top hn hd (large.trans_eq ratio.symm)

/-- Putting numbers into the format keeps their order. -/
lemma worth_ofScaled_mono {s t : ℕ} {e f : ℤ} (one : 1 ≤ magnitude (s, e))
    (h : magnitude (s, e) ≤ magnitude (t, f)) :
    (ofScaled false s e).worth ≤ (ofScaled false t f).worth := by
  rcases ofScaled_cases (one.trans h) with ⟨-, more⟩ | ⟨c, d, -, hd, more, nearest⟩
  · rw [more, worth]
    exact le_top
  · rcases ofScaled_cases one with ⟨large, -⟩ | ⟨a, b, -, hb, less, nearest'⟩
    · rw [worth_ofScaled_eq_top (large.trans h)]
      exact le_top
    · rw [nearest, nearest']
      exact worth_ofRatio_mono hb hd (by rwa [more, less])

/-- What a natural power of a positive number is. -/
lemma pow?_natCast {s : ℕ} (e : ℤ) (hs : s ≠ 0) (n : ℕ) :
    (finite false s e).pow? n = some (ofScaled false (powCut s e n).1 (powCut s e n).2) := by
  rcases Nat.eq_zero_or_pos n with rfl | pos
  · rw [powCut_zero]
    rfl
  · have above : (0 : ℤ) < n := by exact_mod_cast pos
    simp only [pow?, Bool.false_and, above.ne', hs, above, if_false, if_true, Int.natAbs_natCast]

/-- **The powers of a number from one on ascend**, and are at least one. -/
theorem worth_pow_mono {x : Binary64} (form : x.Canonical) (one : 1 ≤ x.worth) (k : ℕ) :
    ∃ y z, x.pow? k = some y ∧ x.pow? (k + 1 : ℕ) = some z ∧ 1 ≤ y.worth ∧ y.worth ≤ z.worth := by
  have unit : (ofScaled false 1 0).worth = 1 := by
    rw [show ofScaled false 1 0 = finite false (2 ^ 52) (-52) from by decide +kernel]
    norm_num [worth, value]
  have positive := nonNegative_of_worth_pos (zero_lt_one.trans_le one)
  rcases positive.eq_infinite_or_finite with rfl | ⟨n, s, e, rfl⟩
  · rcases Nat.eq_zero_or_pos k with rfl | pos
    · exact ⟨ofInt 1, infinite false, rfl, rfl, unit.ge, le_top⟩
    · have power : ∀ i : ℕ, 0 < i → (infinite false).pow? i = some (infinite false) := by
        intro i hi
        have above : (0 : ℤ) < i := by exact_mod_cast hi
        simp only [pow?, Bool.false_and, above.ne', above, if_false, if_true]
      exact ⟨_, _, power k pos, power (k + 1) k.succ_pos, le_top, le_rfl⟩
  · have above : 1 ≤ magnitude (s, e) := by
      rw [worth_finite, value_of_nonNegative positive] at one
      exact_mod_cast one
    have nonzero : s ≠ 0 := by
      rintro rfl
      norm_num [magnitude] at above
    obtain rfl : n = false := by
      cases n with
      | false => rfl
      | true => exact absurd (positive rfl) nonzero
    have least := one_le_powCut form.1 above k
    refine ⟨_, _, pow?_natCast e nonzero k, pow?_natCast e nonzero (k + 1), ?_, ?_⟩
    · rw [← unit]
      exact worth_ofScaled_mono (by simp) (by simpa using least)
    · rcases powCut_ascends form.1 above k with more | large
      · exact worth_ofScaled_mono least more
      · rw [worth_ofScaled_eq_top large]
        exact le_top

end CommonPurse.Binary64
