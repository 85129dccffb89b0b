import CommonPurse.Announcement
import CommonPurse.Color
import CommonPurse.Proofs.Id
import CommonPurse.Proofs.Number.Decimal

/-!
# Numerals that are read back

The readers of numerals take blanks, signs, underscores and marks. None of them stands in the
digits that are written, so what is written is read back: integers, the texts of colours, and the
identifiers of announcements.

## Main results

* `CommonPurse.Text.readInteger?_natText`, `CommonPurse.Text.readHex?_paddedHex` — a number is read
  back from its digits.
* `CommonPurse.Color.parse_text` — a colour is read back from its text.
* `CommonPurse.Announcement.read?_text` — so is an announced identifier.
-/

namespace CommonPurse

namespace Text

/-! ## Characters of digits -/

/-- A digit is no blank, no brace, no sign, no mark and no comma. -/
lemma digitChar_plain {d : Nat} (h : d < 16) :
    isBlank d.digitChar = false ∧ isNumeralBlank d.digitChar = false ∧
      Announcement.isBrace d.digitChar = false ∧
      d.digitChar ∉ ['_', '-', '+', ',', 'u', 'x', 'X'] := by
  have all : ∀ d : Fin 16, isBlank (Nat.digitChar d) = false ∧
      isNumeralBlank (Nat.digitChar d) = false ∧ Announcement.isBrace (Nat.digitChar d) = false ∧
      Nat.digitChar d ∉ ['_', '-', '+', ',', 'u', 'x', 'X'] := by decide
  exact all ⟨d, h⟩

/-- The readers that know the digits of all scripts know the plain ones. -/
lemma digitValue?_digitChar {d : Nat} (h : d < 10) : digitValue? d.digitChar = some d := by
  have all : ∀ d : Fin 10, digitValue? (Nat.digitChar d) = some d.val := by decide
  exact all ⟨d, h⟩

lemma hexValue?_digitChar {d : Nat} (h : d < 16) : hexValue? d.digitChar = some d := by
  have all : ∀ d : Fin 16, hexValue? (Nat.digitChar d) = some d.val := by decide
  exact all ⟨d, h⟩

/-- A text of digits: what numerals are written with. -/
def Digits (s : List Char) : Prop := ∀ c ∈ s, ∃ d, d < 16 ∧ c = d.digitChar

lemma digits_paddedHex (w n : Nat) : Digits (paddedHex w n) :=
  fun _ => exists_digit_of_mem_paddedHex

lemma digits_natText (n : Nat) : Digits (natText n) := by
  intro c hc
  obtain ⟨d, hd, rfl⟩ := exists_digit_of_mem_natText hc
  exact ⟨d, by omega, rfl⟩

lemma Digits.notMem {s : List Char} (h : Digits s) {x : Char}
    (hx : x ∈ ['_', '-', '+', ',', 'u', 'x', 'X']) : x ∉ s := by
  intro hs
  obtain ⟨d, hd, rfl⟩ := h x hs
  exact (digitChar_plain hd).2.2.2 hx

/-! ## Readers -/

/-- Nothing is trimmed from a text without characters of the class. -/
lemma trimBy_of_forall {p : Char → Bool} {s : List Char} (h : ∀ c ∈ s, p c = false) :
    trimBy p s = s := by
  rw [trimBy, Decimal.dropWhile_of_forall h,
    Decimal.dropWhile_of_forall fun c hc => h c (List.mem_reverse.mp hc), List.reverse_reverse]

lemma Digits.trim {s : List Char} (h : Digits s) : Text.trim s = s := by
  refine trimBy_of_forall fun c hc => ?_
  obtain ⟨d, hd, rfl⟩ := h c hc
  exact (digitChar_plain hd).1

lemma Digits.trimBy_isNumeralBlank {s : List Char} (h : Digits s) :
    trimBy isNumeralBlank s = s := by
  refine trimBy_of_forall fun c hc => ?_
  obtain ⟨d, hd, rfl⟩ := h c hc
  exact (digitChar_plain hd).2.1

lemma Digits.splitSign {s : List Char} (h : Digits s) : Text.splitSign s = (false, s) := by
  unfold Text.splitSign
  split
  · exact absurd List.mem_cons_self (h.notMem (by decide))
  · exact absurd List.mem_cons_self (h.notMem (by decide))
  · rfl

lemma Digits.dropHexMark {s : List Char} (h : Digits s) : Text.dropHexMark s = s := by
  unfold Text.dropHexMark
  split
  next x rest =>
    have small := h.notMem (x := 'x') (by decide)
    have capital := h.notMem (x := 'X') (by decide)
    rw [if_neg]
    rintro (rfl | rfl)
    · exact small (by simp)
    · exact capital (by simp)
  · rfl

/-- The values of characters that all have one, when no underscore divides them. -/
lemma digits?_of_forall {value? known? : Char → Option Nat} {s : List Char} (hne : s ≠ [])
    (hs : '_' ∉ s) (h : ∀ c ∈ s, ∃ d, value? c = some d ∧ known? c = some d) :
    digits? value? s = some (s.filterMap known?) := by
  induction s with
  | nil => exact absurd rfl hne
  | cons c rest ih =>
    obtain ⟨d, hv, hk⟩ := h c List.mem_cons_self
    rw [List.mem_cons, not_or] at hs
    rw [List.filterMap_cons, hk, digits?, hv]
    cases rest with
    | nil => rfl
    | cons next more =>
      rw [List.mem_cons, not_or] at hs
      have read := ih (by simp) (by simp [hs.2]) fun x hx => h x (List.mem_cons_of_mem _ hx)
      dsimp only
      split
      next heq => cases heq
      next heq => exact absurd (List.cons.inj heq).1.symm hs.2.1
      next heq => rw [← heq, read, Option.map_some]

/-- **A number of at most 4300 digits is read back.** -/
theorem readInteger?_natText {n : Nat} (h : (natText n).length ≤ maxNumeralDigits) :
    readInteger? (natText n) = some (n : Int) := by
  have digits := digits_natText n
  have values : ∀ c ∈ natText n, ∃ d, digitValue? c = some d ∧ asciiDigit? c = some d := by
    intro c hc
    obtain ⟨d, hd, rfl⟩ := exists_digit_of_mem_natText hc
    exact ⟨d, digitValue?_digitChar hd, asciiDigit?_digitChar hd⟩
  have read := digits?_of_forall (natText_ne_nil n) (digits.notMem (by decide)) values
  have len := length_filterMap_of_digits fun c (hc : c ∈ natText n) => isSome_of_mem_natText hc
  rw [readInteger?, digits.trimBy_isNumeralBlank, digits.splitSign]
  simp only [read, len, h, if_true, ofDigits_natText]
  rfl

/-- **A number is read back from its hexadecimal digits** behind zeros. -/
theorem readHex?_paddedHex {w n : Nat} (hw : 0 < w) (hn : n < 16 ^ w) :
    readHex? (paddedHex w n) = some (n : Int) := by
  have digits := digits_paddedHex w n
  have full : paddedHex w n ≠ [] := by
    rw [ne_eq, ← List.length_eq_zero_iff, length_paddedHex hw hn]
    omega
  have values : ∀ c ∈ paddedHex w n, ∃ d, hexValue? c = some d ∧ asciiHex? c = some d := by
    intro c hc
    obtain ⟨d, hd, rfl⟩ := digits c hc
    exact ⟨d, hexValue?_digitChar hd, asciiHex?_digitChar hd⟩
  rw [readHex?, digits.trimBy_isNumeralBlank, digits.splitSign]
  simp only [digits.dropHexMark, digits?_of_forall full (digits.notMem (by decide)) values,
    Option.map_some, ofDigits_paddedHex]
  rfl

end Text

open Text

/-! ## Colours -/

namespace Color

lemma splitCommas_of_notMem {s : List Char} (h : ',' ∉ s) : splitCommas s = [s] := by
  induction s with
  | nil => rfl
  | cons c rest ih =>
    rw [List.mem_cons, not_or] at h
    rw [splitCommas, if_neg (Ne.symm h.1), ih h.2]

lemma splitCommas_append {s : List Char} (h : ',' ∉ s) (rest : List Char) :
    splitCommas (s ++ ',' :: rest) = s :: splitCommas rest := by
  induction s with
  | nil => rw [List.nil_append, splitCommas, if_pos rfl]
  | cons c s ih =>
    rw [List.mem_cons, not_or] at h
    rw [List.cons_append, splitCommas, if_neg (Ne.symm h.1), ih h.2]

/-- A component has at most three digits. -/
lemma length_component (n : Fin 256) : (natText n).length ≤ 3 :=
  (Nat.length_toDigits_le_iff (by decide) (by decide)).mpr (by omega)

/-- A component is read back. -/
lemma readInteger?_component (n : Fin 256) : readInteger? (natText n) = some (n : Int) :=
  readInteger?_natText (Nat.le_trans (length_component n) (by decide))

lemma component?_coe (n : Fin 256) : component? (n : Int) = some n := by
  have range : (0 : Int) ≤ n ∧ (n : Int) ≤ 255 := by omega
  rw [component?, dif_pos range]
  rfl

/-- **A colour is read back from its text.** -/
theorem parse_text (c : Color) : parse (some c.text) = .ok c := by
  have digits := digits_natText
  have comma : ∀ n, ',' ∉ natText n := fun n => (digits n).notMem (by decide)
  have parts : (splitCommas c.text.toList).map trim =
      [natText c.red, natText c.green, natText c.blue] := by
    rw [text, String.toList_ofList, List.append_assoc, List.cons_append,
      splitCommas_append (comma c.red),
      splitCommas_append (comma c.green), splitCommas_of_notMem (comma c.blue)]
    simp only [List.map_cons, List.map_nil, (digits _).trim]
  have visible : isBlankText c.text = false := by
    rw [isBlankText, text, String.toList_ofList, List.all_append, Bool.and_eq_false_iff]
    right
    rfl
  rw [parse, visible, parseParts, parts]
  simp only [Bool.false_eq_true, if_false, readInteger?_component, component?_coe]

end Color

/-! ## Announced identifiers -/

namespace Announcement

/-- A word that begins with a letter that is not there is not removed. -/
lemma without_of_notMem {first : Char} (more : List Char) {s : List Char} (h : first ∉ s) :
    without first more s = s := by
  induction s with
  | nil => rw [without]
  | cons c rest ih =>
    rw [List.mem_cons, not_or] at h
    rw [without, if_neg fun hc => h.1 hc.1.symm, ih h.2]

lemma mem_text {i : Id} {c : Char} (h : c ∈ i.text.toList) : c ∈ i.hex ∨ c = '-' := by
  rw [Id.text, String.toList_ofList] at h
  simp only [List.mem_append, List.mem_cons] at h
  rcases h with (((h | h | h) | h | h) | h | h) | h | h
  · exact .inl (List.mem_of_mem_take h)
  · exact .inr h
  · exact .inl (List.mem_of_mem_drop (List.mem_of_mem_take h))
  · exact .inr h
  · exact .inl (List.mem_of_mem_drop (List.mem_of_mem_take h))
  · exact .inr h
  · exact .inl (List.mem_of_mem_drop (List.mem_of_mem_take h))
  · exact .inr h
  · exact .inl (List.mem_of_mem_drop h)

/-- The digits of an announced identifier are its digits. -/
lemma core_text (i : Id) : core i.text.toList = i.hex := by
  have digits : Digits i.hex := digits_paddedHex 32 i.value
  have letter : 'u' ∉ i.text.toList := by
    intro h
    rcases mem_text h with h | h
    · exact digits.notMem (by decide) h
    · exact absurd h (by decide)
  have brace : ∀ c ∈ i.text.toList, isBrace c = false := by
    intro c hc
    rcases mem_text hc with h | rfl
    · obtain ⟨d, hd, rfl⟩ := digits c h
      exact (digitChar_plain hd).2.2.1
    · rfl
  have keep : ∀ {s : List Char}, (∀ c ∈ s, c ∈ i.hex) → s.filter (· ≠ '-') = s := by
    intro s hs
    refine List.filter_eq_self.mpr fun c hc => ?_
    simpa using fun h : c = '-' => digits.notMem (x := '-') (by decide) (h ▸ hs c hc)
  rw [core, without_of_notMem _ letter, without_of_notMem _ letter, trimBy_of_forall brace,
    Id.text, String.toList_ofList]
  simp only [List.filter_append, List.filter_cons]
  rw [keep fun _ => List.mem_of_mem_take,
    keep fun _ hc => List.mem_of_mem_drop (List.mem_of_mem_take hc),
    keep fun _ hc => List.mem_of_mem_drop (List.mem_of_mem_take hc),
    keep fun _ hc => List.mem_of_mem_drop (List.mem_of_mem_take hc),
    keep fun _ => List.mem_of_mem_drop]
  simpa using Id.groups_eq i.hex

/-- **An identifier is read back from its announcement.** -/
theorem read?_text (i : Id) : read? i.text = some i := by
  have number : readHex? i.hex = some (i.value.val : Int) :=
    readHex?_paddedHex (by decide) i.value.isLt
  have range : (0 : Int) ≤ i.value.val ∧ (i.value.val : Int) < idCount := by
    have bound := i.value.isLt
    omega
  rw [read?, core_text, if_pos i.length_hex, number]
  simp only [range, and_self, if_true, Int.toNat_natCast]
  simp [Id.ofNat]

end Announcement

end CommonPurse
