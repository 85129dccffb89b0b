import CommonPurse.Proofs.Entry.Amount
import CommonPurse.Proofs.Event.Recorded

/-!
# Rounding of amounts

An amount may be typed with any number of digits and any exponent. What is accepted is the nearest
number of hundredths, and of two that are as near the even one; half a hundredth is too little, and
whatever is more is enough. The amount is written with two places, and it is accepted again from
what is written.

## Main definitions

* `CommonPurse.Entry.RoundsTo` — what is accepted from a text.

## Main results

* `CommonPurse.Decimal.text_hundredths` — hundredths are written with two places.
* `CommonPurse.Entry.amount_nearest` — what becomes of every text that is read as a number.
-/

namespace CommonPurse

open Text

/-! ## Two places -/

namespace Decimal

lemma padded_two {m : Nat} (h : m < 100) :
    padded 2 m = [(m / 10).digitChar, (m % 10).digitChar] := by
  have all : ∀ m : Fin 100, padded 2 m = [(m.val / 10).digitChar, (m.val % 10).digitChar] := by
    decide
  exact all ⟨m, h⟩

/-- The last two digits of a number. -/
lemma natText_append {k : Nat} (h : 100 ≤ k) :
    natText k = natText (k / 100) ++ padded 2 (k % 100) := by
  rw [padded_two (Nat.mod_lt k (by decide)), natText, natText,
    Nat.toDigits_of_base_le (by decide) (by omega : 10 ≤ k),
    Nat.toDigits_of_base_le (by decide) (by omega : 10 ≤ k / 10), Nat.div_div_eq_div_mul,
    List.append_assoc, Nat.mod_mod_of_dvd k (by decide : 10 ∣ 100),
    show k % 100 / 10 = k / 10 % 10 by omega]
  rfl

/-- **Hundredths are written with two places** behind the point. -/
theorem text_hundredths (k : Nat) :
    (finite false k (-2)).text =
      String.ofList (natText (k / 100) ++ '.' :: padded 2 (k % 100)) := by
  have digits : 0 < (natText k).length := digitCount_pos k
  have first : -6 ≤ adjusted k (-2) := by
    rw [adjusted_eq]
    omega
  have places : (- -2 : Int).toNat = 2 := by decide
  rw [text, signed, if_neg (by decide), finiteText]
  simp only [first, places]
  rcases Nat.lt_or_ge k 100 with small | large
  · have short : (natText k).length ≤ 2 := (digitCount_le_iff (by decide)).mpr small
    have none : natText 0 = ['0'] := rfl
    rw [Nat.div_eq_of_lt small, Nat.mod_eq_of_lt small, none, padded]
    simp [Nat.not_lt.mpr short]
  · have long : 2 < (natText k).length :=
      Nat.lt_of_not_le fun short => large.not_gt ((digitCount_le_iff (by decide)).mp short)
    have two : (padded 2 (k % 100)).length = 2 :=
      length_padded (by decide) (Nat.mod_lt k (by decide))
    have whole : (natText k).length - 2 = (natText (k / 100)).length := by
      rw [natText_append large, List.length_append, two, Nat.add_sub_cancel]
    simp only [long, if_true, whole]
    rw [natText_append large, List.take_left, List.drop_left]
    rfl

end Decimal

/-! ## Amounts -/

namespace Entry

open Decimal

/-- What is accepted from a text that is read as `d`: `k` hundredths, which are at least one and at
most half a hundredth off. They are written with two places and accepted again. -/
structure RoundsTo (text : String) (d : Decimal) (k : Nat) : Prop where
  accepted : amount text = .ok (.finite false k (-2))
  least : 1 / 100 ≤ (finite false k (-2)).value
  near : |(finite false k (-2)).value - d.value| ≤ 1 / 200
  written :
    (finite false k (-2)).text = String.ofList (natText (k / 100) ++ '.' :: padded 2 (k % 100))
  again : amount (finite false k (-2)).text = .ok (.finite false k (-2))

variable {text : String} {d : Decimal}

/-- What is not above zero is refused. -/
lemma amount_of_not_pos (read : parse? text = some d)
    (none : ¬ (d.isFinite = true ∧ 0 < d.value)) :
    amount text = .error (refusedAmount "Amount must be greater than 0" text) := by
  have stop : (d.isFinite && d.isPositive) = false := by
    cases d with
    | finite n c e =>
      rw [← isPositive_iff] at none
      simpa [isFinite] using none
    | infinite n => rfl
    | nan n s p => rfl
  rw [amount, read]
  simp [stop]

/-- What is above zero is rounded to hundredths. -/
lemma amount_of_pos (read : parse? text = some d) (whole : d.isFinite = true) (pos : 0 < d.value) :
    amount text =
      if Binary64.halfEven (100 * d.value) < 10 ^ 28 then
        if Binary64.halfEven (100 * d.value) = 0 then
          .error (refusedAmount "Amount must be at least 0.01" text)
        else .ok (.finite false (Binary64.halfEven (100 * d.value)) (-2))
      else .error (.arithmetic .invalid) := by
  cases d with
  | infinite n => cases whole
  | nan n s p => cases whole
  | finite n c e =>
    have go := (isPositive_iff n c e).mpr pos
    obtain rfl : n = false := by
      cases n with
      | false => rfl
      | true => cases go
    have same : (finite false c e).value = size c e := rfl
    rw [amount, read, same]
    simp only [isFinite, go, Bool.and_self, if_true, toCents_eq]
    by_cases short : Binary64.halfEven (100 * size c e) < 10 ^ 28
    · rw [if_pos short, if_pos short]
      by_cases zero : Binary64.halfEven (100 * size c e) = 0
      · simp [zero, isPositive]
      · simp [zero, isPositive]
    · rw [if_neg short, if_neg short]

/-- Hundredths are accepted from what they are written as. -/
lemma amount_text_hundredths {k : Nat} (some : k ≠ 0) (short : k < 10 ^ 28) :
    amount (finite false k (-2)).text = .ok (.finite false k (-2)) := by
  have value : (finite false k (-2)).value = k / 100 := size_hundredths k
  have read : parse? (finite false k (-2)).text = Option.some (.finite false k (-2)) :=
    parse?_text (sound_hundredths false short)
  have pos : 0 < (finite false k (-2)).value := (isPositive_iff ..).mp (by simp [isPositive, some])
  have same : Binary64.halfEven (100 * (finite false k (-2)).value) = k := by
    rw [value, mul_div_cancel₀ (k : ℚ) (by norm_num), Binary64.halfEven_natCast]
  rw [amount_of_pos read rfl pos, same, if_pos short, if_neg some]

/-- An accepted amount is the nearest one. -/
lemma nearest_of_amount (read : parse? text = some d) {a : Decimal} (h : amount text = .ok a) :
    a = .finite false (Binary64.halfEven (100 * d.value)) (-2) := by
  by_cases pos : d.isFinite = true ∧ 0 < d.value
  · rw [amount_of_pos read pos.1 pos.2] at h
    split_ifs at h
    exact (Except.ok.inj h).symm
  · rw [amount_of_not_pos read pos] at h
    cases h

/-- **Amounts are rounded to the nearest hundredths.** Of a text that is read as a finite number
above half a hundredth, the nearest number of hundredths is accepted, and of two that are as near
the even one, as long as it has no more than 28 digits. Every other number is refused. Greater
numbers never give smaller amounts.

**Proof sketch.** To drop digits of a coefficient is to round a quotient of whole numbers to the
nearest one, whatever the exponent. More than a half is not rounded to zero, and a half is. -/
theorem amount_nearest (read : parse? text = some d) :
    (d.isFinite = true → 1 / 200 < d.value →
      ∃ k, (∀ j, Binary64.Closest j (100 * d.value) ↔ j = k) ∧
        if k < 10 ^ 28 then RoundsTo text d k else amount text = .error (.arithmetic .invalid)) ∧
    (¬ (d.isFinite = true ∧ 1 / 200 < d.value) →
      amount text = .error (refusedAmount
        (if d.isFinite = true ∧ 0 < d.value then "Amount must be at least 0.01"
        else "Amount must be greater than 0") text)) ∧
    (∀ {text' d' a a'}, parse? text' = some d' → amount text = .ok a → amount text' = .ok a' →
      d.value ≤ d'.value → a.value ≤ a'.value) := by
  refine ⟨fun whole more => ?_, fun less => ?_, fun read' accepted accepted' le => ?_⟩
  · have pos : 0 < d.value := by linarith
    have nonneg : 0 ≤ 100 * d.value := by linarith
    have rounded := amount_of_pos read whole pos
    refine ⟨_, fun _ => Binary64.closest_iff nonneg, ?_⟩
    have some := (Binary64.halfEven_ne_zero_iff nonneg).mpr (by linarith)
    have near := Binary64.abs_halfEven_sub_le nonneg
    generalize Binary64.halfEven (100 * d.value) = k at some near rounded ⊢
    have value : (finite false k (-2)).value = k / 100 := size_hundredths k
    split_ifs at rounded ⊢ with short
    · exact {
        accepted := rounded
        least := by
          have one : (1 : ℚ) ≤ k := by exact_mod_cast Nat.one_le_iff_ne_zero.mpr some
          rw [value]
          linarith
        near := by
          rw [abs_le] at near
          rw [value, abs_le]
          constructor <;> linarith
        written := text_hundredths k
        again := amount_text_hundredths some short }
    · exact rounded
  · by_cases pos : d.isFinite = true ∧ 0 < d.value
    · have nonneg : 0 ≤ 100 * d.value := by linarith [pos.2]
      have none : Binary64.halfEven (100 * d.value) = 0 := by
        by_contra some
        have more := (Binary64.halfEven_ne_zero_iff nonneg).mp some
        exact less ⟨pos.1, by linarith⟩
      rw [if_pos pos, amount_of_pos read pos.1 pos.2, none, if_pos (by norm_num), if_pos rfl]
    · rw [if_neg pos, amount_of_not_pos read pos]
  · have value : ∀ k : Nat, (finite false k (-2)).value = k / 100 := size_hundredths
    have order := Binary64.halfEven_mono (show 100 * d.value ≤ 100 * _ by linarith)
    rw [nearest_of_amount read accepted, nearest_of_amount read' accepted', value, value]
    gcongr

/-- Of twelve and a half hundredths twelve are accepted. -/
theorem amount_nearest_tie : parse? "0.125" = some (.finite false 125 (-3)) ∧
    RoundsTo "0.125" (.finite false 125 (-3)) 12 := by
  have read : parse? "0.125" = some (.finite false 125 (-3)) := by decide
  have value : (finite false 125 (-3)).value = 1 / 8 := by
    show (125 : ℚ) * 10 ^ (-3 : Int) = 1 / 8
    norm_num
  obtain ⟨k, closest, rounded⟩ := (amount_nearest read).1 rfl (by rw [value]; norm_num)
  have twelve : Binary64.Closest 12 (100 * (finite false 125 (-3)).value) := by
    rw [value, Binary64.closest_iff (by norm_num)]
    norm_num [Binary64.halfEven]
  obtain rfl := (closest 12).mp twelve
  exact ⟨read, rounded⟩

end Entry

end CommonPurse
