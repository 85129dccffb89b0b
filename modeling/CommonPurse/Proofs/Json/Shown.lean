import CommonPurse.Json.Shown
import CommonPurse.Proofs.Json.RoundTrip
import Mathlib.Order.Lattice

/-!
# Which values have a text

A value that is legible has a text, if there is room for its nesting. A whole number of too many
digits has none.

## Main results

* `CommonPurse.Json.Legible.toText_eq` — a legible value that is not nested too deep has a text.
* `CommonPurse.Json.toText_integer` — a whole number of too many digits has none.
-/

namespace CommonPurse.Json

open CommonPurse.Text

/-! ## Values that are shown -/

lemma unshownItems?_eq_none_iff {room : ℕ} {items : List Json} :
    unshownItems? room items = none ↔ ∀ v ∈ items, v.unshown? room = none := by
  induction items with
  | nil => simp [unshownItems?]
  | cons v rest ih => rw [unshownItems?, Option.or_eq_none_iff, ih, List.forall_mem_cons]

lemma unshownMembers?_eq_none_iff {room : ℕ} {members : List (String × Json)} :
    unshownMembers? room members = none ↔ ∀ m ∈ members, m.2.unshown? room = none := by
  induction members with
  | nil => simp [unshownMembers?]
  | cons m rest ih => rw [unshownMembers?, Option.or_eq_none_iff, ih, List.forall_mem_cons]

lemma depth_le_depthItems {items : List Json} {v : Json} (h : v ∈ items) :
    v.depth ≤ depthItems items := by
  induction items with
  | nil => cases h
  | cons w rest ih =>
    rw [depthItems]
    rcases List.mem_cons.mp h with rfl | h
    · exact le_max_left ..
    · exact (ih h).trans (le_max_right ..)

lemma depth_le_depthMembers {members : List (String × Json)} {m : String × Json}
    (h : m ∈ members) : m.2.depth ≤ depthMembers members := by
  induction members with
  | nil => cases h
  | cons k rest ih =>
    rw [depthMembers]
    rcases List.mem_cons.mp h with rfl | h
    · exact le_max_left ..
    · exact (ih h).trans (le_max_right ..)

/-- Nothing stands in the way of the text of a legible value that is not nested too deep. -/
lemma Legible.unshown?_eq_none {v : Json} (h : v.Legible) {room : ℕ} (shallow : v.depth ≤ room) :
    v.unshown? (room + 1) = none := by
  induction h generalizing room with
  | null | bool b | real x | text s => rfl
  | @integer n short =>
    have few : (natText n.natAbs).length ≤ mostDigits := short
    rw [unshown?, if_neg (Nat.not_lt.mpr few)]
  | @array items _ ih =>
    obtain ⟨room, rfl⟩ := Nat.exists_eq_add_of_le' shallow
    rw [unshown?, unshownItems?_eq_none_iff, depth, ← Nat.add_assoc]
    refine fun v hv => ih v hv ((depth_le_depthItems hv).trans ?_)
    exact Nat.le_add_left ..
  | @object members _ ih =>
    obtain ⟨room, rfl⟩ := Nat.exists_eq_add_of_le' shallow
    rw [unshown?, unshownMembers?_eq_none_iff, depth, ← Nat.add_assoc]
    refine fun m hm => ih m hm ((depth_le_depthMembers hm).trans ?_)
    exact Nat.le_add_left ..

/-- **A legible value has a text**, if it is not nested too deep. -/
theorem Legible.toText_eq {v : Json} (h : v.Legible) {room : ℕ} (shallow : v.depth ≤ room) :
    v.toText (room + 1) = .ok v.plainShown := by
  rw [toText, h.unshown?_eq_none shallow]

/-! ## Whole numbers that are too long -/

/-- A whole number of too many digits has no text. -/
theorem toText_integer (room : ℕ) {n : ℤ} (long : mostDigits < (natText n.natAbs).length) :
    (integer n).toText (room + 1) = .error .long := by
  rw [toText, unshown?, if_pos long]

/-- A power of ten has one digit more than its exponent says. -/
lemma lt_length_natText_pow (n : ℕ) : n < (natText ((10 ^ n : ℕ) : ℤ).natAbs).length := by
  rw [Int.natAbs_natCast]
  rcases Nat.eq_zero_or_pos n with rfl | pos
  · decide
  · exact not_le.mp fun few => lt_irrefl _ ((Nat.length_toDigits_le_iff (by decide) pos).mp few)

end CommonPurse.Json
