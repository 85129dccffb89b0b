import CommonPurse.Number.Decimal
import CommonPurse.Proofs.Text.Digits
import Mathlib.Tactic.SplitIfs

/-!
# Texts of decimal numbers

A finite decimal is read back from its text with its sign, its coefficient and its exponent,
whether the text is positional or scientific.

## Main definitions

* `CommonPurse.Decimal.Sound` — the finite decimals that a text can name.

## Main results

* `CommonPurse.Decimal.parse?_text` — a sound decimal is read back.
* `CommonPurse.Decimal.sound_of_parse?` — a finite decimal that is read is sound.
-/

namespace CommonPurse.Decimal

open CommonPurse.Text

/-- A finite decimal whose digits lie within the exponents that a text may have. -/
def Sound : Decimal → Prop
  | finite _ c e => withinText c e = true
  | infinite _ => False
  | nan .. => False

instance : (d : Decimal) → Decidable d.Sound
  | finite _ c e => inferInstanceAs (Decidable (withinText c e = true))
  | infinite _ => inferInstanceAs (Decidable False)
  | nan .. => inferInstanceAs (Decidable False)

lemma Sound.isFinite {d : Decimal} (h : d.Sound) : d.isFinite = true := by
  cases d with
  | finite n c e => rfl
  | infinite n => exact h.elim
  | nan n s p => exact h.elim

/-! ## Characters -/

/-- The characters of the text of a finite decimal. -/
def Figure (c : Char) : Prop :=
  (∃ d, d < 10 ∧ c = d.digitChar) ∨ c ∈ ['.', 'E', '+', '-']

lemma Figure.of_mem_natText {n : Nat} {c : Char} (h : c ∈ natText n) : Figure c :=
  .inl (exists_digit_of_mem_natText h)

/-- Such a character is no blank and stands for itself. -/
lemma Figure.plainChar {c : Char} (h : Figure c) :
    isBlank c = false ∧ Decimal.plainChar c = some [c] := by
  rcases h with ⟨d, hd, rfl⟩ | h
  · have all : ∀ d : Fin 10, isBlank (Nat.digitChar d) = false ∧
        Decimal.plainChar (Nat.digitChar d) = some [Nat.digitChar d] := by decide
    exact all ⟨d, hd⟩
  · simp only [List.mem_cons, List.not_mem_nil, or_false] at h
    rcases h with rfl | rfl | rfl | rfl <;> decide

lemma dropWhile_of_forall {p : Char → Bool} {s : List Char} (h : ∀ c ∈ s, p c = false) :
    s.dropWhile p = s := by
  cases s with
  | nil => rfl
  | cons c s => rw [List.dropWhile_cons, h c (by simp)]; rfl

lemma plain?_of_figures {s : List Char} (h : ∀ c ∈ s, Figure c) : plain? s = some s := by
  have blank : ∀ c ∈ s, isBlank c = false := fun c hc => (h c hc).plainChar.1
  have trimmed : trim s = s := by
    rw [trim, trimBy, dropWhile_of_forall blank,
      dropWhile_of_forall fun c hc => blank c (List.mem_reverse.mp hc), List.reverse_reverse]
  have chars : s.mapM Decimal.plainChar = some (s.map fun c => [c]) := by
    clear blank trimmed
    induction s with
    | nil => rfl
    | cons c s ih =>
      rw [List.mapM_cons, (h c (by simp)).plainChar.2, ih fun x hx => h x (by simp [hx])]
      rfl
  have joined : (s.map fun c => [c]).flatten = s := by
    clear blank trimmed chars h
    induction s with
    | nil => rfl
    | cons c s ih => rw [List.map_cons, List.flatten_cons, ih]; rfl
  rw [plain?, trimmed, chars, Option.map_some, joined]

/-! ## Digits with a point and an exponent -/

/-- What stands behind the digits of a number: nothing or an exponent. -/
def Tail (tail : List Char) : Prop := tail = [] ∨ ∃ t, tail = 'E' :: t

lemma spanDigits_append {s rest : List Char} (hs : ∀ c ∈ s, (asciiDigit? c).isSome = true)
    (hr : ∀ c ∈ rest.head?, (asciiDigit? c).isSome = false) :
    spanDigits (s ++ rest) = (s, rest) := by
  obtain ⟨taken, left⟩ := span_append hs hr
  rw [spanDigits, taken, left]

lemma Tail.head {tail : List Char} (h : Tail tail) :
    ∀ c ∈ tail.head?, (asciiDigit? c).isSome = false := by
  rcases h with rfl | ⟨t, rfl⟩
  · simp
  · intro c hc
    rw [List.head?_cons, Option.mem_some_iff] at hc
    rw [← hc]
    decide

/-- Digits without a point are read as they stand. -/
lemma finite?_whole {whole tail : List Char} {c : Nat} {e : Int} (n : Bool)
    (hw : ∀ c ∈ whole, (asciiDigit? c).isSome = true) (hne : whole ≠ []) (ht : Tail tail)
    (hc : digitsValue whole = c) (he : exponent? tail = some e)
    (within : withinText c e = true) : finite? n (whole ++ tail) = some (.finite n c e) := by
  rw [finite?, spanDigits_append hw ht.head]
  rcases ht with rfl | ⟨t, rfl⟩
  · simp [hne, hc, he, within]
  · simp [hne, hc, he, within]

/-- Digits on both sides of a point are read as one number, the places behind the point being
counted against the exponent. -/
lemma finite?_point {whole part tail : List Char} {c : Nat} {e x : Int} (n : Bool)
    (hw : ∀ c ∈ whole, (asciiDigit? c).isSome = true) (hne : whole ≠ [])
    (hp : ∀ c ∈ part, (asciiDigit? c).isSome = true) (ht : Tail tail)
    (hc : digitsValue (whole ++ part) = c) (he : exponent? tail = some x)
    (hx : x - part.length = e) (within : withinText c e = true) :
    finite? n (whole ++ '.' :: (part ++ tail)) = some (.finite n c e) := by
  have point : ∀ c ∈ ('.' :: (part ++ tail)).head?, (asciiDigit? c).isSome = false := by
    intro c hc
    rw [List.head?_cons, Option.mem_some_iff] at hc
    rw [← hc]
    decide
  rw [finite?, spanDigits_append hw point]
  simp only [spanDigits_append hp ht.head]
  simp [hne, hc, he, hx, within]

/-! ## Values of the digits -/

lemma digitsValue_natText (c : Nat) : digitsValue (natText c) = c := ofDigits_natText c

/-- Zeros in front of the digits of a number change nothing. -/
lemma digitsValue_zeros (n c : Nat) :
    digitsValue (List.replicate n '0' ++ natText c) = c := by
  rw [digitsValue, List.filterMap_append, List.filterMap_replicate_of_some (b := 0) (by decide),
    ofDigits_replicate_zero_append, ofDigits_natText]

/-- An exponent is read back. -/
lemma exponent?_text (e : Int) :
    exponent? ('E' :: (if e < 0 then '-' else '+') :: natText e.natAbs) = some e := by
  have digits : spanDigits (natText e.natAbs) = (natText e.natAbs, []) := by
    have taken : spanDigits (natText e.natAbs ++ []) = (natText e.natAbs, []) :=
      spanDigits_append (fun _ => isSome_of_mem_natText) (by simp)
    rwa [List.append_nil] at taken
  have full : (natText e.natAbs).isEmpty = false := by simpa using natText_ne_nil e.natAbs
  by_cases neg : e < 0
  · have value : -(e.natAbs : Int) = e := by omega
    simp only [exponent?, neg, if_true, digits, full, digitsValue_natText, value]
    rfl
  · have value : (e.natAbs : Int) = e := by omega
    simp only [exponent?, neg, if_false, digits, full, digitsValue_natText, value]
    rfl

/-! ## Finite decimals -/

lemma adjusted_eq (c : Nat) (e : Int) : adjusted c e = e + (natText c).length - 1 := rfl

/-- The positional text of a finite decimal is read back.

**Proof sketch.** There is no place behind the point, or there are fewer places than digits, or
the digits are filled up with zeros behind the point. -/
lemma finite?_positional (n : Bool) {c : Nat} {e : Int} (within : withinText c e = true)
    (h : e ≤ 0 ∧ -6 ≤ adjusted c e) : finite? n (finiteText c e) = some (.finite n c e) := by
  have digit : ∀ x ∈ natText c, (asciiDigit? x).isSome = true := fun x => isSome_of_mem_natText
  have value := digitsValue_natText c
  have none : exponent? [] = some 0 := rfl
  have places : ((-e).toNat : Int) = -e := by omega
  rw [finiteText]
  simp only [h, and_self, if_true]
  split_ifs with whole inside
  · have zero : e = 0 := by omega
    rw [← List.append_nil (natText c)]
    exact finite?_whole n digit (natText_ne_nil c) (.inl rfl) value (zero ▸ none) within
  · have front : (natText c).take ((natText c).length - (-e).toNat) ≠ [] := by
      rw [ne_eq, ← List.length_eq_zero_iff, List.length_take]
      omega
    have len : (((natText c).drop ((natText c).length - (-e).toNat)).length : Int) = -e := by
      rw [List.length_drop]
      omega
    rw [← List.append_nil ((natText c).drop _)]
    exact finite?_point n (fun x hx => digit x (List.mem_of_mem_take hx)) front
      (fun x hx => digit x (List.mem_of_mem_drop hx)) (.inl rfl)
      (by rw [List.take_append_drop, value]) none (by omega) within
  · have filled : ∀ x ∈ List.replicate ((-e).toNat - (natText c).length) '0' ++ natText c,
        (asciiDigit? x).isSome = true := by
      intro x hx
      rcases List.mem_append.mp hx with hx | hx
      · rw [List.eq_of_mem_replicate hx]
        decide
      · exact digit x hx
    have len : ((List.replicate ((-e).toNat - (natText c).length) '0' ++
        natText c).length : Int) = -e := by
      rw [List.length_append, List.length_replicate]
      omega
    have text : '0' :: '.' :: List.replicate ((-e).toNat - (natText c).length) '0' ++ natText c =
        ['0'] ++ '.' :: ((List.replicate ((-e).toNat - (natText c).length) '0' ++ natText c) ++
          []) := by simp
    rw [text]
    have zero : ∀ x ∈ ['0'], (asciiDigit? x).isSome = true := fun x hx => by
      rw [List.mem_singleton.mp hx]
      decide
    refine finite?_point n zero (by simp) filled (.inl rfl) ?_ none (by omega) within
    have zeros := digitsValue_zeros ((-e).toNat - (natText c).length + 1) c
    rwa [List.replicate_succ, List.cons_append] at zeros

/-- The scientific text of a finite decimal is read back: one digit, or one digit in front of the
point and the others behind it. -/
lemma finite?_scientific (n : Bool) {c : Nat} {e : Int} (within : withinText c e = true)
    (h : ¬(e ≤ 0 ∧ -6 ≤ adjusted c e)) : finite? n (finiteText c e) = some (.finite n c e) := by
  have digit : ∀ x ∈ natText c, (asciiDigit? x).isSome = true := fun x => isSome_of_mem_natText
  have value := digitsValue_natText c
  have first := adjusted_eq c e
  have tail := exponent?_text (adjusted c e)
  rw [finiteText]
  simp only [h, if_false]
  cases hc : natText c with
  | nil => exact absurd hc (natText_ne_nil c)
  | cons d rest =>
    rw [hc] at digit value first
    cases rest with
    | nil =>
      have one : adjusted c e = e := by simpa using first
      exact finite?_whole n digit (by simp) (.inr ⟨_, rfl⟩) value
        (tail.trans (congrArg some one)) within
    | cons d' rest =>
      have len : adjusted c e - ((d' :: rest).length : Int) = e := by
        rw [first, List.length_cons]
        omega
      have front : ∀ x ∈ [d], (asciiDigit? x).isSome = true := by simpa using digit d
      exact finite?_point n front (by simp) (fun x hx => digit x (List.mem_cons_of_mem d hx))
        (.inr ⟨_, rfl⟩) value tail len within

/-! ## Whole texts -/

lemma finite?_finiteText (n : Bool) {c : Nat} {e : Int} (within : withinText c e = true) :
    finite? n (finiteText c e) = some (.finite n c e) := by
  by_cases h : e ≤ 0 ∧ -6 ≤ adjusted c e
  · exact finite?_positional n within h
  · exact finite?_scientific n within h

lemma Figure.of_mem_finiteText {c : Nat} {e : Int} {x : Char} (h : x ∈ finiteText c e) :
    Figure x := by
  have digit : ∀ {n x}, x ∈ natText n → Figure x := Figure.of_mem_natText
  have mark : ∀ x ∈ ['.', 'E', '+', '-'], Figure x := fun x hx => .inr hx
  rw [finiteText] at h
  by_cases positional : e ≤ 0 ∧ -6 ≤ adjusted c e
  · simp only [positional, and_self, if_true] at h
    split_ifs at h
    · exact digit h
    · rcases List.mem_append.mp h with h | h
      · exact digit (List.mem_of_mem_take h)
      · rcases List.mem_cons.mp h with rfl | h
        · exact mark _ (by decide)
        · exact digit (List.mem_of_mem_drop h)
    · simp only [List.cons_append, List.mem_cons, List.mem_append, List.mem_replicate] at h
      rcases h with rfl | rfl | ⟨-, rfl⟩ | h
      · exact .inl ⟨0, by decide, rfl⟩
      · exact mark _ (by decide)
      · exact .inl ⟨0, by decide, rfl⟩
      · exact digit h
  · simp only [positional, if_false, List.mem_append, List.mem_cons] at h
    rcases h with h | rfl | h | h
    · split at h
      next => exact absurd h (by simp)
      next d hd => exact digit (hd ▸ h)
      next d rest _ hd =>
        rcases List.mem_cons.mp h with rfl | h
        · exact digit (n := c) (by rw [hd]; simp)
        · rcases List.mem_cons.mp h with rfl | h
          · exact mark _ (by decide)
          · exact digit (n := c) (by rw [hd]; simp [h])
    · exact mark _ (by decide)
    · rw [h]
      split
      · exact mark _ (by decide)
      · exact mark _ (by decide)
    · exact digit h

/-- No number begins with a sign behind its sign. -/
lemma finite?_sign (n : Bool) (s : List Char) :
    finite? n ('-' :: s) = none ∧ finite? n ('+' :: s) = none := by
  simp [finite?, spanDigits, asciiDigit?]

/-- A number without a sign is positive. -/
lemma parse?_unsigned {s : String} {t : List Char} {d : Decimal}
    (plain : plain? s.toList = some t) (read : finite? false t = some d) :
    parse? s = some d := by
  have minus : ∀ more, t ≠ '-' :: more := by
    rintro more rfl
    rw [(finite?_sign false more).1] at read
    exact absurd read (by simp)
  have plus : ∀ more, t ≠ '+' :: more := by
    rintro more rfl
    rw [(finite?_sign false more).2] at read
    exact absurd read (by simp)
  rw [parse?, plain]
  cases t with
  | nil => simp [read]
  | cons c t => simp [read]

/-- **A sound decimal is read back from its text**, with its sign, coefficient and exponent. -/
theorem parse?_text {d : Decimal} (h : d.Sound) : parse? d.text = some d := by
  cases d with
  | infinite n => exact h.elim
  | nan n s p => exact h.elim
  | finite n c e =>
    have within : withinText c e = true := h
    have figures : ∀ x ∈ Decimal.signed n (finiteText c e), Figure x := by
      intro x hx
      cases n with
      | false => exact Figure.of_mem_finiteText hx
      | true =>
        rcases List.mem_cons.mp hx with rfl | hx
        · exact .inr (by decide)
        · exact Figure.of_mem_finiteText hx
    have plain : plain? (text (.finite n c e)).toList =
        some (Decimal.signed n (finiteText c e)) := by
      rw [text, String.toList_ofList, plain?_of_figures figures]
    have read := finite?_finiteText n within
    cases n with
    | true => simp [parse?, plain, Decimal.signed, read]
    | false => exact parse?_unsigned plain read

/-! ## What is read -/

lemma sound_of_finite? {n : Bool} {s : List Char} {d : Decimal} (h : finite? n s = some d) :
    d.Sound := by
  simp only [finite?, Option.ite_none_left_eq_some] at h
  obtain ⟨-, h⟩ := h
  split at h
  · cases h
  · rw [Option.ite_none_right_eq_some] at h
    obtain ⟨within, h⟩ := h
    cases h
    exact within

/-- The words are those of values that are not finite. -/
lemma isFinite_of_special? {n : Bool} {s : List Char} {d : Decimal} (h : special? n s = some d) :
    d.isFinite = false := by
  simp only [special?] at h
  split_ifs at h
  · cases h
    rfl
  · obtain ⟨p, -, rfl⟩ := Option.map_eq_some_iff.mp h
    rfl
  · obtain ⟨p, -, rfl⟩ := Option.map_eq_some_iff.mp h
    rfl

/-- **A finite decimal that is read is sound.** -/
theorem sound_of_parse? {s : String} {d : Decimal} (h : parse? s = some d)
    (finite : d.isFinite = true) : d.Sound := by
  simp only [parse?] at h
  split at h
  · cases h
  · split at h
    next number =>
      cases h
      exact sound_of_finite? number
    next =>
      rw [isFinite_of_special? h] at finite
      cases finite

end CommonPurse.Decimal
