import CommonPurse.Number.Shortest
import CommonPurse.Proofs.Number.Decimal
import Mathlib.Tactic.SplitIfs

/-!
# Hundredths in binary

The nearest binary number to an amount in hundredths is so close to it that the amount comes back
when the number is written with two places. This holds of every amount below `10 ^ 10`.

## Main results

* `CommonPurse.Binary64.ofRatio_near` — the nearest number is at most half a unit of its last place
  away.
* `CommonPurse.Binary64.fixedText_ofDecimal` — hundredths are written as they were.
* `CommonPurse.Decimal.parse?_fixedDigits` — digits with a fixed number of places are read back.
-/

namespace CommonPurse

open CommonPurse.Text

namespace Binary64

/-! ## Division to the nearest -/

/-- The quotient is off by at most half of the divisor. -/
lemma divNearestEven_error (num : Nat) {den : Nat} (h : 0 < den) :
    2 * num ≤ 2 * (den * divNearestEven num den) + den ∧
      2 * (den * divNearestEven num den) ≤ 2 * num + den := by
  have whole := Nat.div_add_mod num den
  have rest := Nat.mod_lt num h
  have next := Nat.mul_add_one den (num / den)
  simp only [divNearestEven]
  split_ifs
  all_goals omega

/-- What is off by less than half of the divisor is the quotient. -/
lemma divNearestEven_eq {num den m : Nat} (low : 2 * num < 2 * (den * m) + den)
    (high : 2 * (den * m) < 2 * num + den) : divNearestEven num den = m := by
  obtain ⟨near, near'⟩ := divNearestEven_error num (show 0 < den by omega)
  rcases Nat.lt_trichotomy (divNearestEven num den) m with h | h | h
  · have gap := Nat.mul_le_mul_left den h
    rw [Nat.succ_eq_add_one, Nat.mul_add_one] at gap
    omega
  · exact h
  · have gap := Nat.mul_le_mul_left den h
    rw [Nat.succ_eq_add_one, Nat.mul_add_one] at gap
    omega

/-! ## The nearest number -/

lemma twoTo_succ (k : Nat) : twoTo (k + 1) = 2 * twoTo k := by
  rw [Nat.mul_comm]
  rfl

lemma scaled_neg (num den k : Nat) : scaled num den (-(k : Int)) = (num * twoTo k, den) := by
  rw [scaled]
  split_ifs with h
  · obtain rfl : k = 0 := by omega
    simp [twoTo]
  · simp

/-- **The nearest number to a quotient** is at most half a unit of its last place away from it. Here
the last place stands behind the point. A significand that is rounded up to the bound is halved. -/
theorem ofRatio_near (n : Bool) {num den k : Nat} (hn : 0 < num) (hd : 0 < den)
    (he : exponentOf num den = -(k + 1 : Nat)) :
    ∃ s j : Nat, ofRatio n num den = .finite n s (-(j : Int)) ∧ k ≤ j ∧
      2 * (num * twoTo j) ≤ 2 * (den * s) + den ∧ 2 * (den * s) ≤ 2 * (num * twoTo j) + den := by
  have nonzero : ¬(num = 0 ∨ den = 0) := by omega
  obtain ⟨low, high⟩ := divNearestEven_error (num * twoTo (k + 1)) hd
  have bound : ∀ j : Nat, ¬maxExponent < -(j : Int) := by
    intro j
    have : maxExponent = 971 := rfl
    omega
  rw [ofRatio, if_neg nonzero]
  simp only [he, scaled_neg]
  by_cases full : divNearestEven (num * twoTo (k + 1)) den = significandBound
  · have half : (-((k + 1 : Nat) : Int)) + 1 = -(k : Int) := by omega
    have double : den * significandBound = 2 * (den * leastNormal) := by
      rw [show significandBound = leastNormal * 2 from rfl, ← Nat.mul_assoc, Nat.mul_comm]
    have twice : num * twoTo (k + 1) = 2 * (num * twoTo k) := by
      rw [twoTo_succ, Nat.mul_left_comm]
    rw [full, double, twice] at low high
    refine ⟨leastNormal, k, ?_, Nat.le_refl k, by omega, by omega⟩
    simp only [full, if_true, half, bound, if_false]
  · refine ⟨divNearestEven (num * twoTo (k + 1)) den, k + 1, ?_, by omega, low, high⟩
    simp only [full, bound, if_false]

lemma toRatio_neg (s k : Nat) : (finite false s (-(k : Int))).toRatio = ((s : Int), twoTo k) := by
  simp only [toRatio, Bool.false_eq_true, if_false]
  split_ifs with h
  · obtain rfl : k = 0 := by omega
    simp [twoTo]
  · simp

/-- Decimal places are written as they were when the last binary place is much finer. -/
lemma fixedText_ofRatio {num places k : Nat} (hn : 0 < num)
    (he : exponentOf num (tenTo places) = -(k + 1 : Nat)) (fine : tenTo places < twoTo k) :
    (ofRatio false num (tenTo places)).isZero = false ∧
      (ofRatio false num (tenTo places)).fixedText places =
        String.ofList (fixedDigits places num) := by
  have pos : 0 < tenTo places := Nat.pow_pos (by decide)
  obtain ⟨s, j, hs, hj, low, high⟩ := ofRatio_near false hn pos he
  have finer : tenTo places < twoTo j :=
    Nat.lt_of_lt_of_le fine (Nat.pow_le_pow_right (by decide) hj)
  have least : twoTo j ≤ num * twoTo j := Nat.le_mul_of_pos_left _ hn
  have positive : s ≠ 0 := by
    rintro rfl
    omega
  rw [hs]
  refine ⟨by simpa [isZero] using positive, ?_⟩
  have units : divNearestEven (s * tenTo places) (twoTo j) = num := by
    refine divNearestEven_eq ?_ ?_
    · rw [Nat.mul_comm s, Nat.mul_comm (twoTo j)]
      omega
    · rw [Nat.mul_comm s, Nat.mul_comm (twoTo j)]
      omega
  simp only [fixedText, toRatio_neg, Int.natAbs_natCast, units, withSign, Bool.false_eq_true,
    if_false]

/-- **Hundredths are written as they were**, for amounts below `10 ^ 10`. -/
theorem fixedText_ofDecimal {c : Nat} (hc : 0 < c) (small : c < 10 ^ 12) :
    (ofDecimal false c (-2)).isZero = false ∧
      (ofDecimal false c (-2)).fixedText 2 = String.ofList (fixedDigits 2 c) := by
  have bits : c.log2 < 40 := (Nat.log2_lt (by omega)).mpr (by omega)
  have range : ¬(400 : Int) < -2 + (c.log2 : Int) / 4 ∧
      ¬(-2 + (c.log2 : Int) / 4 + (c.log2 : Int) / 4 < -800) := by omega
  have ratio : ofDecimal false c (-2) = ofRatio false c (tenTo 2) := by
    simp only [ofDecimal, range.1, range.2, if_false, if_neg (show ¬c = 0 by omega)]
    rfl
  have exponent : ∃ k : Nat, exponentOf c (tenTo 2) = -(k + 1 : Nat) ∧ 18 ≤ k := by
    have den : (tenTo 2).log2 = 6 := by decide
    have least : minExponent = -1074 := rfl
    have either : exponentOf c (tenTo 2) = max ((c.log2 : Int) - 6 - 53 + 1) minExponent ∨
        exponentOf c (tenTo 2) = max ((c.log2 : Int) - 6 - 53) minExponent := by
      simp only [exponentOf, den]
      split_ifs
      · exact .inl rfl
      · exact .inr rfl
    rcases either with h | h
    · exact ⟨57 - c.log2, by omega, by omega⟩
    · exact ⟨58 - c.log2, by omega, by omega⟩
  obtain ⟨k, hk, deep⟩ := exponent
  rw [ratio]
  refine fixedText_ofRatio hc hk (Nat.lt_of_lt_of_le ?_ (Nat.pow_le_pow_right (by decide) deep))
  decide

end Binary64

namespace Decimal

/-- **Digits with a fixed number of places are read back.** -/
theorem parse?_fixedDigits {places c : Nat} (hp : 0 < places)
    (within : withinText c (-places) = true) :
    parse? (String.ofList (Binary64.fixedDigits places c)) = some (.finite false c (-places)) := by
  have bound : c % tenTo places < 10 ^ places := Nat.mod_lt c (Nat.pow_pos (by decide))
  have width : (padded places (c % tenTo places)).length = places := length_padded hp bound
  have text : Binary64.fixedDigits places c =
      natText (c / tenTo places) ++ '.' :: (padded places (c % tenTo places) ++ []) := by
    rw [List.append_nil, Binary64.fixedDigits, if_neg (show ¬places = 0 by omega)]
  have value :
      digitsValue (natText (c / tenTo places) ++ padded places (c % tenTo places)) = c := by
    rw [digitsValue, List.filterMap_append, ofDigits_append, ofDigits_natText, ofDigits_padded,
      length_filterMap_of_digits fun _ => isSome_of_mem_padded, width]
    exact Nat.div_add_mod' c (tenTo places)
  have figures : ∀ x ∈ Binary64.fixedDigits places c, Figure x := by
    intro x hx
    rw [text, List.append_nil] at hx
    rcases List.mem_append.mp hx with hx | hx
    · exact .of_mem_natText hx
    · rcases List.mem_cons.mp hx with rfl | hx
      · exact .inr (by decide)
      · exact .inl (exists_digit_of_mem_padded hx)
  have plain : plain? (String.ofList (Binary64.fixedDigits places c)).toList =
      some (Binary64.fixedDigits places c) := by
    rw [String.toList_ofList, plain?_of_figures figures]
  refine parse?_unsigned plain ?_
  rw [text]
  exact finite?_point false (fun _ => isSome_of_mem_natText) (natText_ne_nil _)
    (fun _ => isSome_of_mem_padded) (.inl rfl) value rfl (by omega) within

end Decimal

end CommonPurse
