import CommonPurse.Id
import CommonPurse.Proofs.Text.Digits

/-!
# Texts of identifiers

An identifier is read back from its five groups of hexadecimal digits.

## Main results

* `CommonPurse.Id.parse?_text` — reading the text of an identifier.
* `CommonPurse.Id.text_injective` — different identifiers have different texts.
-/

namespace CommonPurse.Id

open CommonPurse.Text

lemma length_hex (i : Id) : i.hex.length = 32 :=
  length_paddedHex (by decide) i.value.isLt

/-- The digits of an identifier name it. -/
lemma ofHex?_hex (i : Id) : ofHex? i.hex = some i := by
  have digits : i.hex.mapM asciiHex? = some (i.hex.filterMap asciiHex?) :=
    mapM_asciiHex? fun _ => exists_digit_of_mem_paddedHex
  have value : ofDigits 16 (i.hex.filterMap asciiHex?) = i.value := ofDigits_paddedHex 32 i.value
  rw [ofHex?, if_pos i.length_hex, digits, Option.map_some, value]
  simp [ofNat]

/-- Five groups of 8, 4, 4, 4 and 12 characters are read as one text. -/
lemma ofGroups?_groups {a b c d e : List Char} (ha : a.length = 8) (hb : b.length = 4)
    (hc : c.length = 4) (hd : d.length = 4) (he : e.length = 12) :
    ofGroups? (a ++ '-' :: b ++ '-' :: c ++ '-' :: d ++ '-' :: e) =
      ofHex? (a ++ b ++ c ++ d ++ e) := by
  rw [ofGroups?, if_pos]
  · congr 1
    simp [List.drop_append, ha, hb, hc, hd, List.drop_of_length_le]
  · simp [ha, hb, hc, hd, he]

lemma groups_eq (h : List Char) :
    h.take 8 ++ (h.drop 8).take 4 ++ (h.drop 12).take 4 ++ (h.drop 16).take 4 ++ h.drop 20 =
      h := by
  have last : (h.drop 16).take 4 ++ h.drop 20 = h.drop 16 := by
    simpa using List.take_append_drop 4 (h.drop 16)
  have middle : (h.drop 12).take 4 ++ h.drop 16 = h.drop 12 := by
    simpa using List.take_append_drop 4 (h.drop 12)
  have second : (h.drop 8).take 4 ++ h.drop 12 = h.drop 8 := by
    simpa using List.take_append_drop 4 (h.drop 8)
  simp only [List.append_assoc, last, middle, second, List.take_append_drop]

/-- The groups of an identifier are read back. -/
lemma ofGroups?_text (i : Id) : ofGroups? i.text.toList = some i := by
  have len := i.length_hex
  rw [text, String.toList_ofList, ofGroups?_groups, groups_eq, ofHex?_hex]
  all_goals simp [len]

/-- No digit is the first letter of the mark `urn:uuid:`. -/
lemma isPrefixOf_urnMark (i : Id) : urnMark.isPrefixOf i.text.toList = false := by
  obtain ⟨c, t, hc⟩ := List.exists_cons_of_length_eq_add_one i.length_hex
  have digit : c ∈ paddedHex 32 i.value := by
    rw [← hex, hc]
    simp
  obtain ⟨d, hd, rfl⟩ := exists_digit_of_mem_paddedHex digit
  have all : ∀ d : Fin 16, 'u' ≠ Nat.digitChar d := by decide
  have other : 'u' ≠ Nat.digitChar d := all ⟨d, hd⟩
  have mark : urnMark = "urn:uuid:".toList := rfl
  have first : ∀ s, urnMark.isPrefixOf (d.digitChar :: s) = false := by
    intro s
    rw [mark]
    simp [List.isPrefixOf, other]
  simp [text, hc, first]

/-- **An identifier is read back from its text.** -/
theorem parse?_text (i : Id) : parse? i.text = some i := by
  have len : i.text.toList.length = 36 := by simp [text, i.length_hex]
  have bare : ¬i.text.toList.length = 32 := by omega
  have braces : ¬(i.text.toList.length = 38 ∧ i.text.toList.head? = some '\x7b' ∧
      i.text.toList.getLast? = some '\x7d') := by omega
  rw [parse?, if_neg bare, if_neg braces, isPrefixOf_urnMark, ofGroups?_text]
  rfl

theorem text_injective : Function.Injective text := by
  intro i j h
  have read := parse?_text i
  rw [h, parse?_text] at read
  exact (Option.some.inj read).symm

end CommonPurse.Id
