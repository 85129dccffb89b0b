import CommonPurse.Text.Digit
import Mathlib.Algebra.Group.Nat.Defs
import Mathlib.Tactic.Lemma

/-!
# Numbers and their digits

Reading the digits of a number gives the number back, in base ten and in base sixteen, with and
without zeros in front.

## Main results

* `CommonPurse.Text.ofDigits_natText` — the digits of a number write the number.
* `CommonPurse.Text.ofDigits_padded` — so do its digits behind zeros.
* `CommonPurse.Text.mapM_paddedHex` — hexadecimal digits behind zeros.
-/

namespace CommonPurse.Text

/-! ## Values of single digits -/

lemma asciiDigit?_digitChar {d : Nat} (h : d < 10) : asciiDigit? d.digitChar = some d := by
  have all : ∀ d : Fin 10, asciiDigit? (Nat.digitChar d) = some d.val := by decide
  exact all ⟨d, h⟩

lemma asciiHex?_digitChar {d : Nat} (h : d < 16) : asciiHex? d.digitChar = some d := by
  have all : ∀ d : Fin 16, asciiHex? (Nat.digitChar d) = some d.val := by decide
  exact all ⟨d, h⟩

lemma asciiDigit?_lt {c : Char} {d : Nat} (h : asciiDigit? c = some d) : d < 10 := by
  rw [asciiDigit?, Option.ite_none_right_eq_some] at h
  obtain ⟨⟨-, high⟩, value⟩ := h
  have nine : c.toNat ≤ 57 := high
  have zero : '0'.toNat = 48 := rfl
  have difference : c.toNat - '0'.toNat = d := Option.some.inj value
  omega

/-! ## The number that digits write -/

lemma foldl_digits (base : Nat) (ds : List Nat) (n : Nat) :
    ds.foldl (fun n d => base * n + d) n = n * base ^ ds.length + ofDigits base ds := by
  induction ds generalizing n with
  | nil => simp [ofDigits]
  | cons d ds ih =>
    have head : ofDigits base (d :: ds) = (base * 0 + d) * base ^ ds.length + ofDigits base ds :=
      ih (base * 0 + d)
    rw [List.foldl_cons, ih, head, List.length_cons, Nat.pow_succ, Nat.add_mul,
      Nat.mul_comm base n, Nat.mul_assoc, Nat.mul_comm base, Nat.mul_zero, Nat.zero_add]
    omega

lemma ofDigits_append (base : Nat) (ds es : List Nat) :
    ofDigits base (ds ++ es) = ofDigits base ds * base ^ es.length + ofDigits base es := by
  rw [ofDigits, List.foldl_append, foldl_digits]
  rfl

/-- Digits below the base write a number that has no more digits. -/
lemma ofDigits_lt {base : Nat} {ds : List Nat} (h : ∀ d ∈ ds, d < base) :
    ofDigits base ds < base ^ ds.length := by
  induction ds with
  | nil => simp [ofDigits]
  | cons d ds ih =>
    have rest := ih fun x hx => h x (by simp [hx])
    have first : (d + 1) * base ^ ds.length ≤ base * base ^ ds.length :=
      Nat.mul_le_mul_right _ (h d (by simp))
    rw [ofDigits, List.foldl_cons, foldl_digits, List.length_cons, Nat.pow_succ, Nat.mul_zero,
      Nat.zero_add, Nat.mul_comm _ base]
    rw [Nat.add_mul, Nat.one_mul] at first
    omega

/-- Zeros in front of digits change nothing. -/
lemma ofDigits_replicate_zero_append (base n : Nat) (ds : List Nat) :
    ofDigits base (List.replicate n 0 ++ ds) = ofDigits base ds := by
  have zeros : ofDigits base (List.replicate n 0) = 0 := by
    induction n with
    | zero => rfl
    | succ n ih =>
      rw [List.replicate_succ, ← List.singleton_append, ofDigits_append, ih]
      simp [ofDigits]
  rw [ofDigits_append, zeros]
  omega

/-- Digits below the base, read one by one and in their order, write the number that they were
taken from.

**Proof sketch.** Induct on the number. One digit below the base stands for itself; a greater
number is the number without its last digit, to which the induction applies, and that digit. -/
lemma ofDigits_toDigits {base : Nat} (hb : 1 < base) (value? : Char → Option Nat)
    (hv : ∀ d, d < base → value? d.digitChar = some d) (n : Nat) :
    ofDigits base ((Nat.toDigits base n).filterMap value?) = n := by
  induction n using Nat.strongRecOn with
  | ind n ih =>
    by_cases h : n < base
    · rw [Nat.toDigits_of_lt_base h]
      simp [hv n h, ofDigits]
    · have hle : base ≤ n := by omega
      have hlt : n / base < n := Nat.div_lt_self (by omega) hb
      rw [Nat.toDigits_of_base_le hb hle, List.filterMap_append, ofDigits_append, ih _ hlt]
      simp only [List.filterMap_cons, hv _ (Nat.mod_lt n (by omega)), List.filterMap_nil,
        List.length_singleton, Nat.pow_one, ofDigits, List.foldl_cons, List.foldl_nil]
      have := Nat.div_add_mod' n base
      omega

/-- Every character of the digits of a number is the character of a digit below the base. -/
lemma exists_digit_of_mem_toDigits {base : Nat} (hb : 1 < base) {n : Nat} {c : Char}
    (h : c ∈ Nat.toDigits base n) : ∃ d, d < base ∧ c = d.digitChar := by
  induction n using Nat.strongRecOn with
  | ind n ih =>
    by_cases hn : n < base
    · rw [Nat.toDigits_of_lt_base hn, List.mem_singleton] at h
      exact ⟨n, hn, h⟩
    · have hlt : n / base < n := Nat.div_lt_self (by omega) hb
      rw [Nat.toDigits_of_base_le hb (by omega), List.mem_append, List.mem_singleton] at h
      rcases h with h | h
      · exact ih _ hlt h
      · exact ⟨n % base, Nat.mod_lt n (by omega), h⟩

/-! ## Decimal texts -/

/-- **The digits of a number write the number.** -/
theorem ofDigits_natText (n : Nat) : ofDigits 10 ((natText n).filterMap asciiDigit?) = n :=
  ofDigits_toDigits (by decide) _ (fun _ => asciiDigit?_digitChar) n

lemma exists_digit_of_mem_natText {n : Nat} {c : Char} (h : c ∈ natText n) :
    ∃ d, d < 10 ∧ c = d.digitChar :=
  exists_digit_of_mem_toDigits (by decide) h

lemma isSome_of_exists_digit {c : Char} (h : ∃ d, d < 10 ∧ c = d.digitChar) :
    (asciiDigit? c).isSome = true := by
  obtain ⟨d, hd, rfl⟩ := h
  rw [asciiDigit?_digitChar hd]
  rfl

/-- What a number is written with are plain digits. -/
lemma isSome_of_mem_natText {n : Nat} {c : Char} (h : c ∈ natText n) :
    (asciiDigit? c).isSome = true :=
  isSome_of_exists_digit (exists_digit_of_mem_natText h)

lemma natText_ne_nil (n : Nat) : natText n ≠ [] := Nat.toDigits_ne_nil

/-- A list of plain digits has as many values as characters. -/
lemma length_filterMap_of_digits {s : List Char}
    (h : ∀ c ∈ s, (asciiDigit? c).isSome = true) :
    (s.filterMap asciiDigit?).length = s.length := by
  induction s with
  | nil => rfl
  | cons c s ih =>
    obtain ⟨d, hd⟩ := Option.isSome_iff_exists.mp (h c (by simp))
    rw [List.filterMap_cons, hd, List.length_cons, List.length_cons,
      ih fun x hx => h x (by simp [hx])]

/-- The digits of a number other than zero begin with another digit than zero. -/
lemma natText_eq_cons {n : Nat} (hn : n ≠ 0) :
    ∃ c rest, natText n = c :: rest ∧ c ≠ '0' := by
  induction n using Nat.strongRecOn with
  | ind n ih =>
    by_cases h : n < 10
    · refine ⟨n.digitChar, [], Nat.toDigits_of_lt_base h, ?_⟩
      rw [ne_eq, Nat.digitChar_eq_zero]
      exact hn
    · obtain ⟨c, rest, hc, hz⟩ := ih (n / 10) (by omega) (by omega)
      refine ⟨c, rest ++ [(n % 10).digitChar], ?_, hz⟩
      rw [natText, Nat.toDigits_of_base_le (by decide) (by omega)]
      rw [natText] at hc
      rw [hc, List.cons_append]

/-- Characters of a class are split off in front of what is not of the class. -/
lemma span_append {p : Char → Bool} {s rest : List Char} (hs : ∀ c ∈ s, p c = true)
    (hr : ∀ c ∈ rest.head?, p c = false) :
    (s ++ rest).takeWhile p = s ∧ (s ++ rest).dropWhile p = rest := by
  have stop : rest.takeWhile p = [] ∧ rest.dropWhile p = rest := by
    cases rest with
    | nil => exact ⟨rfl, rfl⟩
    | cons c rest => simp [hr c (by simp)]
  rw [List.takeWhile_append_of_pos hs, List.dropWhile_append_of_pos hs, stop.1, stop.2]
  exact ⟨List.append_nil s, rfl⟩

/-! ## Texts of a fixed width -/

lemma exists_digit_of_mem_padded {w n : Nat} {c : Char} (h : c ∈ padded w n) :
    ∃ d, d < 10 ∧ c = d.digitChar := by
  rw [padded, List.mem_append] at h
  rcases h with h | h
  · exact ⟨0, by decide, List.eq_of_mem_replicate h⟩
  · exact exists_digit_of_mem_natText h

lemma isSome_of_mem_padded {w n : Nat} {c : Char} (h : c ∈ padded w n) :
    (asciiDigit? c).isSome = true :=
  isSome_of_exists_digit (exists_digit_of_mem_padded h)

/-- The digits of a number behind zeros write the number. -/
theorem ofDigits_padded (w n : Nat) : ofDigits 10 ((padded w n).filterMap asciiDigit?) = n := by
  rw [padded, List.filterMap_append, List.filterMap_replicate_of_some (b := 0) (by decide),
    ofDigits_replicate_zero_append]
  exact ofDigits_natText n

lemma length_padded {w n : Nat} (hw : 0 < w) (h : n < 10 ^ w) : (padded w n).length = w := by
  have short : (natText n).length ≤ w := (Nat.length_toDigits_le_iff (by decide) hw).mpr h
  rw [padded, List.length_append, List.length_replicate]
  omega

lemma length_paddedHex {w n : Nat} (hw : 0 < w) (h : n < 16 ^ w) :
    (paddedHex w n).length = w := by
  have short : (Nat.toDigits 16 n).length ≤ w :=
    (Nat.length_toDigits_le_iff (by decide) hw).mpr h
  rw [paddedHex, List.length_append, List.length_replicate]
  omega

lemma exists_digit_of_mem_paddedHex {w n : Nat} {c : Char} (h : c ∈ paddedHex w n) :
    ∃ d, d < 16 ∧ c = d.digitChar := by
  rw [paddedHex, List.mem_append] at h
  rcases h with h | h
  · exact ⟨0, by decide, List.eq_of_mem_replicate h⟩
  · exact exists_digit_of_mem_toDigits (by decide) h

/-- The hexadecimal digits of a number behind zeros write the number. -/
theorem ofDigits_paddedHex (w n : Nat) :
    ofDigits 16 ((paddedHex w n).filterMap asciiHex?) = n := by
  rw [paddedHex, List.filterMap_append, List.filterMap_replicate_of_some (b := 0) (by decide),
    ofDigits_replicate_zero_append]
  exact ofDigits_toDigits (by decide) _ (fun _ => asciiHex?_digitChar) n

/-- Each hexadecimal digit of a text has a value. -/
lemma mapM_asciiHex? {s : List Char} (h : ∀ c ∈ s, ∃ d, d < 16 ∧ c = d.digitChar) :
    s.mapM asciiHex? = some (s.filterMap asciiHex?) := by
  induction s with
  | nil => rfl
  | cons c s ih =>
    obtain ⟨d, hd, rfl⟩ := h c (by simp)
    rw [List.mapM_cons, ih fun x hx => h x (by simp [hx]), asciiHex?_digitChar hd]
    simp [asciiHex?_digitChar hd]

end CommonPurse.Text
