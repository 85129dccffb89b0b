import CommonPurse.Proofs.Text.Numeral
import Mathlib.Data.List.TakeWhile
import Mathlib.Data.Nat.Digits.Defs

/-!
# The grammar of integers

What can be typed for an integer, as a grammar: blanks on either side, at most one sign, and digits
of any script, of which two may have a single underscore between them. Zeros may stand in front, but
they count among the digits, of which there are at most 4300. The reader takes exactly these texts.

## Main definitions

* `CommonPurse.Text.IsDigit` — the digits of all scripts, with their values.
* `CommonPurse.Text.DigitRun` — digits between which single underscores may stand.
* `CommonPurse.Text.Sign`, `CommonPurse.Text.Numeral` — the texts of integers.

## Main results

* `CommonPurse.Text.digitValue?_eq_some_iff` — which characters are digits.
* `CommonPurse.Text.digits?_eq_some_iff` — which texts are runs of digits.
* `CommonPurse.Text.readInteger?_eq_some_iff` — which texts are read as an integer.
-/

namespace CommonPurse.Text

/-! ## Digits -/

/-- A digit of some script: the digits of a script stand in ascending order behind its zero. -/
def IsDigit (c : Char) (d : ℕ) : Prop := d ≤ 9 ∧ ∃ z ∈ digitZeros, c.toNat = z + d

/-- No two scripts share a digit. -/
lemma digitZeros_apart :
    ∀ y ∈ digitZeros, ∀ z ∈ digitZeros, y = z ∨ y + 9 < z ∨ z + 9 < y := by
  decide +kernel

/-- **The reader knows the digits of all scripts, and nothing else.** -/
theorem digitValue?_eq_some_iff {c : Char} {d : ℕ} : digitValue? c = some d ↔ IsDigit c d := by
  constructor
  · intro h
    obtain ⟨z, found, rfl⟩ := Option.map_eq_some_iff.mp h
    have range := List.find?_some found
    simp only [Bool.and_eq_true, decide_eq_true_eq] at range
    exact ⟨by omega, z, List.mem_of_find?_eq_some found, by omega⟩
  · rintro ⟨small, z, mem, place⟩
    cases found : digitZeros.find? fun z => z ≤ c.toNat && c.toNat ≤ z + 9 with
    | none =>
      have out := List.find?_eq_none.mp found z mem
      simp only [Bool.and_eq_true, decide_eq_true_eq] at out
      omega
    | some y =>
      have range := List.find?_some found
      simp only [Bool.and_eq_true, decide_eq_true_eq] at range
      have apart := digitZeros_apart y (List.mem_of_find?_eq_some found) z mem
      rw [digitValue?, found, Option.map_some, Option.some_inj]
      omega

/-- A digit is no blank, no underscore, no sign and no comma. -/
lemma IsDigit.plain {c : Char} {d : ℕ} (h : IsDigit c d) :
    isBlank c = false ∧ c ∉ ['_', '-', '+', ','] := by
  obtain ⟨small, z, mem, place⟩ := h
  have all : ∀ z ∈ digitZeros, ∀ d ∈ List.range 10, isBlank (Char.ofNat (z + d)) = false ∧
      Char.ofNat (z + d) ∉ ['_', '-', '+', ','] := by decide +kernel
  rw [← Char.ofNat_toNat c, place]
  exact all z mem d (List.mem_range.mpr (by omega))

/-- Digits with their values. Single underscores may stand between two of them. -/
inductive DigitRun : List Char → List ℕ → Prop where
  | last {c : Char} {d : ℕ} (digit : IsDigit c d) : DigitRun [c] [d]
  | next {c : Char} {d : ℕ} {s : List Char} {ds : List ℕ} (digit : IsDigit c d)
      (rest : DigitRun s ds) : DigitRun (c :: s) (d :: ds)
  | divided {c : Char} {d : ℕ} {s : List Char} {ds : List ℕ} (digit : IsDigit c d)
      (rest : DigitRun s ds) : DigitRun (c :: '_' :: s) (d :: ds)

namespace DigitRun

variable {s : List Char} {ds : List ℕ}

/-- A run begins with a digit. -/
lemma first (h : DigitRun s ds) : ∃ c t d, s = c :: t ∧ IsDigit c d := by
  cases h with
  | last digit => exact ⟨_, _, _, rfl, digit⟩
  | next digit _ => exact ⟨_, _, _, rfl, digit⟩
  | divided digit _ => exact ⟨_, _, _, rfl, digit⟩

/-- A run ends with a digit. -/
lemma final (h : DigitRun s ds) : ∃ c t d, s = t ++ [c] ∧ IsDigit c d := by
  induction h with
  | last digit => exact ⟨_, [], _, rfl, digit⟩
  | next _ _ ih =>
    obtain ⟨c, t, d, rfl, digit⟩ := ih
    exact ⟨c, _ :: t, d, rfl, digit⟩
  | divided _ _ ih =>
    obtain ⟨c, t, d, rfl, digit⟩ := ih
    exact ⟨c, _ :: '_' :: t, d, rfl, digit⟩

end DigitRun

/-- **The reader of digits takes exactly the runs.** -/
theorem digits?_eq_some_iff {s : List Char} {ds : List ℕ} :
    digits? digitValue? s = some ds ↔ DigitRun s ds := by
  constructor
  · intro h
    fun_induction digits? digitValue? s generalizing ds with
    | case1 => cases h
    | case2 => cases h
    | case3 c d value =>
      obtain rfl := Option.some.inj h
      exact .last (digitValue?_eq_some_iff.mp value)
    | case4 c d value more ih =>
      obtain ⟨es, read, rfl⟩ := Option.map_eq_some_iff.mp h
      exact .divided (digitValue?_eq_some_iff.mp value) (ih read)
    | case5 c d value next more _ ih =>
      obtain ⟨es, read, rfl⟩ := Option.map_eq_some_iff.mp h
      exact .next (digitValue?_eq_some_iff.mp value) (ih read)
  · intro h
    induction h with
    | last digit => simp [digits?, digitValue?_eq_some_iff.mpr digit]
    | @next c d s ds digit rest ih =>
      obtain ⟨c', t, d', rfl, digit'⟩ := rest.first
      -- No underscore follows the first digit, which leaves the last case of the reader.
      have visible : c' ≠ '_' := fun h => digit'.plain.2 (by simp [h])
      rw [digits?.eq_def]
      simp only [digitValue?_eq_some_iff.mpr digit]
      rw [ih, Option.map_some]
    | divided digit _ ih =>
      rw [digits?.eq_def]
      simp [digitValue?_eq_some_iff.mpr digit, ih]

/-- The number that digits write is the one of positional notation. -/
lemma ofDigits_eq_natOfDigits (base : ℕ) (ds : List ℕ) :
    ofDigits base ds = Nat.ofDigits base ds.reverse := by
  rw [ofDigits, Nat.ofDigits_eq_foldr, List.foldr_reverse]
  simp [Nat.add_comm]

/-! ## Blanks at the ends -/

/-- What is trimmed from a text are characters of the class at its two ends. -/
lemma exists_trimBy (p : Char → Bool) (s : List Char) :
    ∃ before after, s = before ++ trimBy p s ++ after ∧ (∀ c ∈ before, p c = true) ∧
      ∀ c ∈ after, p c = true := by
  refine ⟨s.takeWhile p, ((s.dropWhile p).reverse.takeWhile p).reverse, ?_, ?_, ?_⟩
  · rw [List.append_assoc, trimBy, ← List.reverse_append, List.takeWhile_append_dropWhile,
      List.reverse_reverse, List.takeWhile_append_dropWhile]
  · exact fun c hc => List.mem_takeWhile_imp hc
  · exact fun c hc => List.mem_takeWhile_imp (List.mem_reverse.mp hc)

/-- A text that neither begins nor ends with a character of the class is what is left of it between
such characters. -/
lemma trimBy_append {p : Char → Bool} {before core after : List Char}
    (left : ∀ c ∈ before, p c = true) (right : ∀ c ∈ after, p c = true)
    (first : ∀ c ∈ core.head?, p c = false) (final : ∀ c ∈ core.getLast?, p c = false) :
    trimBy p (before ++ core ++ after) = core := by
  have stop : ∀ {s : List Char}, (∀ c ∈ s.head?, p c = false) → s.dropWhile p = s := by
    intro s h
    cases s with
    | nil => rfl
    | cons c s => rw [List.dropWhile_cons, h c rfl]; rfl
  have right' : ∀ c ∈ after.reverse, p c = true := fun c hc => right c (List.mem_reverse.mp hc)
  rw [trimBy, List.append_assoc, List.dropWhile_append_of_pos left]
  cases core with
  | nil =>
    rw [List.nil_append, List.dropWhile_eq_nil_iff.mpr right]
    rfl
  | cons c core =>
    have kept : (c :: core ++ after).dropWhile p = c :: core ++ after := stop first
    rw [kept, List.reverse_append, List.dropWhile_append_of_pos right',
      stop (by rwa [List.head?_reverse]), List.reverse_reverse]

/-! ## Integers -/

/-- What may stand in front of digits, and the factor that it stands for. -/
inductive Sign : List Char → ℤ → Prop where
  | none : Sign [] 1
  | plus : Sign ['+'] 1
  | minus : Sign ['-'] (-1)

/-- The texts of an integer: between blanks a sign, if there is one, and at most 4300 digits. -/
inductive Numeral : List Char → ℤ → Prop where
  | intro {before sign run after : List Char} {factor : ℤ} {ds : List ℕ}
      (left : ∀ c ∈ before, isNumeralBlank c = true)
      (right : ∀ c ∈ after, isNumeralBlank c = true)
      (signed : Sign sign factor) (digits : DigitRun run ds) (short : ds.length ≤ 4300) :
      Numeral (before ++ (sign ++ run) ++ after) (factor * (Nat.ofDigits 10 ds.reverse : ℕ))

/-- A sign with digits behind it neither begins nor ends with a blank. -/
lemma Sign.ends {sign run : List Char} {factor : ℤ} {ds : List ℕ} (signed : Sign sign factor)
    (digits : DigitRun run ds) :
    (∀ c ∈ (sign ++ run).head?, isBlank c = false) ∧
      ∀ c ∈ (sign ++ run).getLast?, isBlank c = false := by
  obtain ⟨a, s, d, rfl, first⟩ := digits.first
  obtain ⟨b, t, e, same, final⟩ := digits.final
  constructor
  · rintro c hc
    cases signed with
    | none =>
      obtain rfl : a = c := by simpa using hc
      exact first.plain.1
    | plus =>
      obtain rfl : '+' = c := by simpa using hc
      decide
    | minus =>
      obtain rfl : '-' = c := by simpa using hc
      decide
  · rw [same, ← List.append_assoc]
    simpa using final.plain.1

/-- A sign is told apart from the digits behind it. -/
lemma Sign.splitSign {sign run : List Char} {factor : ℤ} {ds : List ℕ} (signed : Sign sign factor)
    (digits : DigitRun run ds) :
    ∃ negative, Text.splitSign (sign ++ run) = (negative, run) ∧
      ∀ n, Text.signed negative n = factor * n := by
  cases signed with
  | none =>
    obtain ⟨c, s, d, rfl, first⟩ := digits.first
    refine ⟨false, ?_, by simp [Text.signed]⟩
    have plain := first.plain.2
    simp only [List.mem_cons, not_or] at plain
    rw [List.nil_append]
    unfold Text.splitSign
    split
    next same => exact absurd (List.cons.inj same).1 plain.2.1
    next same => exact absurd (List.cons.inj same).1 plain.2.2.1
    next => rfl
  | plus => exact ⟨false, rfl, by simp [Text.signed]⟩
  | minus => exact ⟨true, rfl, by simp [Text.signed]⟩

/-- What is split off as a sign is one. -/
lemma exists_sign (s : List Char) :
    ∃ sign factor, Sign sign factor ∧ s = sign ++ (splitSign s).2 ∧
      ∀ n, signed (splitSign s).1 n = factor * n := by
  unfold splitSign
  split
  · exact ⟨_, _, .minus, rfl, by simp [signed]⟩
  · exact ⟨_, _, .plus, rfl, by simp [signed]⟩
  · exact ⟨_, _, .none, rfl, by simp [signed]⟩

/-- **The reader of integers takes exactly the texts of integers.** -/
theorem readInteger?_eq_some_iff {s : List Char} {n : ℤ} :
    readInteger? s = some n ↔ Numeral s n := by
  constructor
  · intro h
    obtain ⟨before, after, whole, left, right⟩ := exists_trimBy isNumeralBlank s
    obtain ⟨sign, factor, signed, core, value⟩ := exists_sign (trimBy isNumeralBlank s)
    unfold readInteger? at h
    cases read : digits? digitValue? (splitSign (trimBy isNumeralBlank s)).2 with
    | none => simp [read] at h
    | some ds =>
      simp only [read, Option.ite_none_right_eq_some, Option.some.injEq] at h
      obtain ⟨short, rfl⟩ := h
      rw [value, ofDigits_eq_natOfDigits, whole, core]
      exact .intro left right signed (digits?_eq_some_iff.mp read) short
  · rintro ⟨left, right, signed, digits, short⟩
    obtain ⟨first, final⟩ := signed.ends digits
    have plain : ∀ {c}, isBlank c = false → isNumeralBlank c = false := by
      intro c h
      rw [isNumeralBlank, h, Bool.false_and]
    have core := trimBy_append left right (fun c hc => plain (first c hc))
      fun c hc => plain (final c hc)
    obtain ⟨negative, split, value⟩ := signed.splitSign digits
    have length : _ ≤ maxNumeralDigits := short
    rw [readInteger?, core, split]
    simp only [digits?_eq_some_iff.mpr digits, length, if_true, value, ofDigits_eq_natOfDigits]

end CommonPurse.Text
