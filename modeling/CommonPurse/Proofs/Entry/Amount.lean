import CommonPurse.Entry
import CommonPurse.Proofs.Number.Rounding

/-!
# Amounts that are accepted

An amount that people type is accepted when it is above zero in hundredths, and then it has at most
28 digits.

## Main results

* `CommonPurse.Entry.exists_of_amount` — an accepted amount is a number of hundredths.
-/

namespace CommonPurse.Entry

open CommonPurse.Decimal

/-- **An accepted amount is a number of hundredths**: at least one, and as many as 28 digits
can write. -/
theorem exists_of_amount {value : String} {a : Decimal} (h : amount value = .ok a) :
    ∃ k, 0 < k ∧ k < 10 ^ 28 ∧ a = .finite false k (-2) := by
  unfold amount at h
  cases hp : Decimal.parse? value with
  | none => simp [hp] at h
  | some d =>
    simp only [hp] at h
    split at h
    next positive =>
      cases hc : d.toCents with
      | error f => simp [hc] at h
      | ok cents =>
        simp only [hc] at h
        split at h
        next some =>
          obtain rfl := Except.ok.inj h
          cases d with
          | finite n c e =>
            obtain ⟨q, rfl, short, -, -⟩ := toCents_spec hc
            simp only [Decimal.isPositive, Bool.and_eq_true, Bool.not_eq_true', bne_iff_ne] at some
            obtain ⟨rfl, ne⟩ := some
            exact ⟨q, Nat.pos_of_ne_zero ne, short, rfl⟩
          | infinite n => cases positive
          | nan n s p => cases positive
        next => cases h
    next => cases h

/-- An accepted amount is a number of hundredths. -/
lemma hundredths_of_amount {value : String} {a : Decimal} (h : amount value = .ok a) :
    ∃ k, a = .finite false k (-2) := by
  obtain ⟨k, -, -, rfl⟩ := exists_of_amount h
  exact ⟨k, rfl⟩

end CommonPurse.Entry
