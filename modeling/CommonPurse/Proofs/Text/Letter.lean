import CommonPurse.Text.Letter
import Mathlib.Tactic.Lemma

/-!
# Lower case stays

A text in lower case is its own lower-case form. No character that is the lower-case form of
another one has a lower-case form of its own; for the ranges of the table this is decided range by
range, from their ends and their steps.

## Main definitions

* `CommonPurse.Text.apart` — no lower-case form from one range lies in another range.

## Main results

* `CommonPurse.Text.lower_lower` — a text in lower case stays as it is.
-/

namespace CommonPurse.Text

/-- The code point of the letter whose lower-case form has two characters, as a range. -/
def dotted : Nat × Nat × Nat × Int := (0x130, 0x130, 1, 0)

/-- No lower-case form from the first range lies in the second one: the forms come before it or
behind it, or they fall between its characters, of which it holds every other one. -/
def apart (r q : Nat × Nat × Nat × Int) : Bool :=
  (r.2.1 : Int) + r.2.2.2 < q.1 || (q.2.1 : Int) < r.1 + r.2.2.2 ||
    (q.2.2.1 == 2 && (r.2.2.1 == 2 || r.1 == r.2.1) && (r.1 + r.2.2.2 - q.1) % 2 == 1)

/-- The lower-case forms from a range are characters. -/
def valid (r : Nat × Nat × Nat × Int) : Bool :=
  0 ≤ (r.1 : Int) + r.2.2.2 &&
    ((r.2.1 : Int) + r.2.2.2 < 0xd800 ||
      (0xdfff < (r.1 : Int) + r.2.2.2 && (r.2.1 : Int) + r.2.2.2 < 0x110000))

set_option maxRecDepth 4000 in
lemma apart_of_mem : ∀ r ∈ lowerRanges, ∀ q ∈ dotted :: lowerRanges, apart r q = true := by
  have all : (lowerRanges.all fun r => (dotted :: lowerRanges).all (apart r)) = true := by
    decide +kernel
  intro r hr q hq
  exact List.all_eq_true.mp (List.all_eq_true.mp all r hr) q hq

lemma valid_of_mem : ∀ r ∈ lowerRanges, valid r = true := by
  have all : lowerRanges.all valid = true := by decide +kernel
  exact List.all_eq_true.mp all

/-- A range holds a code point. -/
def Holds (r : Nat × Nat × Nat × Int) (n : Nat) : Prop :=
  r.1 ≤ n ∧ n ≤ r.2.1 ∧ (n - r.1) % r.2.2.1 = 0

lemma shiftIn_eq_some {ranges : List (Nat × Nat × Nat × Int)} {n m : Nat}
    (h : shiftIn ranges n = some m) :
    ∃ r ∈ ranges, Holds r n ∧ m = ((n : Int) + r.2.2.2).toNat := by
  obtain ⟨r, hr, rfl⟩ := Option.map_eq_some_iff.mp h
  have holds := List.find?_some hr
  simp only [Bool.and_eq_true, decide_eq_true_eq, beq_iff_eq] at holds
  exact ⟨r, List.mem_of_find?_eq_some hr, ⟨holds.1.1, holds.1.2, holds.2⟩, rfl⟩

/-- A lower-case form does not lie in a range that is apart. -/
lemma not_holds_of_apart {r q : Nat × Nat × Nat × Int} (ha : apart r q = true)
    (hv : valid r = true) {n : Nat} (hn : Holds r n) :
    ¬ Holds q ((n : Int) + r.2.2.2).toNat := by
  obtain ⟨first, last, step, offset⟩ := r
  obtain ⟨first', last', step', offset'⟩ := q
  simp only [apart, valid, Bool.or_eq_true, Bool.and_eq_true, decide_eq_true_eq,
    beq_iff_eq] at ha hv
  rintro ⟨hlow, hhigh, hstep⟩
  obtain ⟨hlow', hhigh', hstep'⟩ := hn
  dsimp only at *
  rcases ha with (before | behind) | ⟨⟨rfl, hr⟩, odd⟩
  · omega
  · omega
  · -- every other character: the parities differ
    rcases hr with rfl | rfl
    · omega
    · omega

/-- A lower-case form that the table gives is a character, and the table gives none for it. -/
lemma shifted {n m : Nat} (h : shiftIn lowerRanges n = some m) :
    (Char.ofNat m).toNat = m ∧ m ≠ 0x3a3 ∧ m ≠ 0x130 ∧ shiftIn lowerRanges m = none := by
  obtain ⟨r, hr, hn, rfl⟩ := shiftIn_eq_some h
  have hv := valid_of_mem r hr
  have out : ∀ q ∈ dotted :: lowerRanges, ¬ Holds q ((n : Int) + r.2.2.2).toNat := fun q hq =>
    not_holds_of_apart (apart_of_mem r hr q hq) hv hn
  refine ⟨?_, ?_, ?_, ?_⟩
  · have hchar : (((n : Int) + r.2.2.2).toNat).isValidChar := by
      obtain ⟨hlow, hhigh, -⟩ := hn
      simp only [valid, Bool.or_eq_true, Bool.and_eq_true, decide_eq_true_eq] at hv
      simp only [Nat.isValidChar]
      omega
    rw [Char.ofNat, dif_pos hchar]
    rfl
  · intro heq
    exact out (0x3a3, 0x3ab, 1, 32) (by decide) (by rw [heq]; exact ⟨by decide, by decide, rfl⟩)
  · intro heq
    exact out dotted List.mem_cons_self (by rw [heq]; exact ⟨Nat.le_refl _, Nat.le_refl _, rfl⟩)
  · cases hm : shiftIn lowerRanges ((n : Int) + r.2.2.2).toNat with
    | none => rfl
    | some k =>
      obtain ⟨q, hq, hholds, -⟩ := shiftIn_eq_some hm
      exact absurd hholds (out q (List.mem_cons_of_mem _ hq))

/-! ## Characters in lower case -/

/-- A character that is its own lower-case form, wherever it stands. -/
def IsLower (c : Char) : Prop :=
  c.toNat ≠ 0x3a3 ∧ c.toNat ≠ 0x130 ∧ shiftIn lowerRanges c.toNat = none

lemma lowerBetween_of_isLower {c : Char} (h : IsLower c) (before after : List Char) :
    lowerBetween before c after = [c] := by
  rw [lowerBetween, if_neg h.1, if_neg h.2.1, h.2.2]

/-- What stands for a character in lower case is in lower case. -/
lemma isLower_of_mem_lowerBetween {before after : List Char} {c d : Char}
    (h : d ∈ lowerBetween before c after) : IsLower d := by
  by_cases sigma : c.toNat = 0x3a3
  · rw [lowerBetween, if_pos sigma, List.mem_singleton] at h
    subst h
    split <;> exact ⟨by decide, by decide, by decide⟩
  by_cases dot : c.toNat = 0x130
  · rw [lowerBetween, if_neg sigma, if_pos dot, List.mem_cons, List.mem_singleton] at h
    rcases h with rfl | rfl <;> exact ⟨by decide, by decide, by decide⟩
  rw [lowerBetween, if_neg sigma, if_neg dot] at h
  cases hm : shiftIn lowerRanges c.toNat with
  | none =>
    rw [hm, List.mem_singleton] at h
    exact h ▸ ⟨sigma, dot, hm⟩
  | some m =>
    rw [hm, List.mem_singleton] at h
    obtain ⟨hchar, hsigma, hdot, hnone⟩ := shifted hm
    rw [h, IsLower, hchar]
    exact ⟨hsigma, hdot, hnone⟩

lemma isLower_of_mem_lowerFrom {before s : List Char} {d : Char}
    (h : d ∈ lowerFrom before s) : IsLower d := by
  induction s generalizing before with
  | nil => simp [lowerFrom] at h
  | cons c after ih =>
    rw [lowerFrom, List.mem_append] at h
    exact h.elim isLower_of_mem_lowerBetween ih

lemma lowerFrom_of_isLower {s : List Char} (h : ∀ c ∈ s, IsLower c) (before : List Char) :
    lowerFrom before s = s := by
  induction s generalizing before with
  | nil => rfl
  | cons c after ih =>
    rw [lowerFrom, lowerBetween_of_isLower (h c List.mem_cons_self),
      ih fun x hx => h x (List.mem_cons_of_mem _ hx), List.singleton_append]

/-- **A text in lower case stays as it is.** -/
theorem lower_lower (s : String) : lower (lower s) = lower s := by
  have fixed : lowerFrom [] (lowerFrom [] s.toList) = lowerFrom [] s.toList :=
    lowerFrom_of_isLower (fun _ => isLower_of_mem_lowerFrom) []
  rw [lower, lower, String.toList_ofList, fixed]

end CommonPurse.Text
