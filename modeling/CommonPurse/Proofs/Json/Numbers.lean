import CommonPurse.Json.Parser
import CommonPurse.Proofs.Text.Digits
import Mathlib.Tactic.SplitIfs

/-!
# Reading numbers

A number is read up to what may stand behind a value: its whole part, a fraction, and an exponent.
Whole numbers are read back as they are. Of a real number the text is that of the shortest digits,
with a fraction or an exponent; it is read as some real number.

## Main definitions

* `CommonPurse.Json.Stops` — what may stand behind a value.
* `CommonPurse.Json.Whole`, `CommonPurse.Json.Fractional` — the whole part of a number, and what
  stands behind it in a real number.

## Main results

* `CommonPurse.Json.readScalar_intText` — whole numbers are read back.
* `CommonPurse.Binary64.exists_text` — the parts of the text of a real number.
* `CommonPurse.Json.exists_readScalar_realText` — real numbers are read as real numbers.
-/

namespace CommonPurse.Json

open CommonPurse.Text

/-- What may stand behind a value: nothing, a comma or a closing bracket. -/
def Stops (rest : List Char) : Prop :=
  ∀ c ∈ rest.head?, c = ',' ∨ c = ']' ∨ c = '\x7d'

lemma Stops.head {rest : List Char} (h : Stops rest) : ∀ c ∈ rest.head?, isDigit c = false := by
  intro c hc
  rcases h c hc with rfl | rfl | rfl <;> decide

/-! ## The parts of a number -/

/-- The whole part of a number: digits, the first of which is a zero only when it is the only
one. -/
structure Whole (w : List Char) : Prop where
  digits : ∀ c ∈ w, isDigit c = true
  leads : w = ['0'] ∨ ∃ c t, w = c :: t ∧ c ≠ '0'

lemma Whole.ne_nil {w : List Char} (h : Whole w) : w ≠ [] := by
  rcases h.leads with rfl | ⟨c, t, rfl, -⟩ <;> simp

lemma Whole.isEmpty {w : List Char} (h : Whole w) : w.isEmpty = false := by simpa using h.ne_nil

lemma whole_zero : Whole ['0'] := ⟨by simp; decide, .inl rfl⟩

lemma whole_natText (n : Nat) : Whole (natText n) := by
  refine ⟨fun _ => isSome_of_mem_natText, ?_⟩
  by_cases zero : n = 0
  · subst zero
    exact .inl rfl
  · exact .inr (natText_eq_cons zero)

/-- The whole part is split off in front of anything but a digit. -/
lemma Whole.split {w rest : List Char} (h : Whole w) (other : ∀ c ∈ rest.head?, isDigit c = false) :
    splitWhole (w ++ rest) = (w, rest) := by
  obtain ⟨digits, rfl | ⟨c, t, rfl, nonzero⟩⟩ := h
  · rfl
  · obtain ⟨taken, left⟩ := span_append digits other
    rw [List.cons_append] at taken left ⊢
    rw [splitWhole, taken, left]
    exact fun rest' same => nonzero (List.cons.inj same).1

/-- The digits of a number begin neither with a sign nor with the letter of a word. -/
lemma Whole.head_ne {w : List Char} (h : Whole w) {c : Char} {t : List Char} (cons : w = c :: t)
    {a : Char} (other : isDigit a = false) : a ≠ c := by
  rintro rfl
  have digit := h.digits a (by simp [cons])
  rw [other] at digit
  cases digit

/-- What stands behind the whole part of a real number: a fraction, an exponent, or both. -/
inductive Fractional : List Char → Prop
  | point {p : List Char} (digits : ∀ c ∈ p, isDigit c = true) (full : p ≠ []) :
      Fractional ('.' :: p)
  | exponent (low : Prop) [Decidable low] {q : List Char} (digits : ∀ c ∈ q, isDigit c = true)
      (full : q ≠ []) : Fractional ('e' :: (if low then '-' else '+') :: q)
  | both (low : Prop) [Decidable low] {p q : List Char} (digits : ∀ c ∈ p, isDigit c = true)
      (full : p ≠ []) (digits' : ∀ c ∈ q, isDigit c = true) (full' : q ≠ []) :
      Fractional ('.' :: p ++ 'e' :: (if low then '-' else '+') :: q)

lemma splitFraction_point {p rest : List Char} (digits : ∀ c ∈ p, isDigit c = true)
    (full : p ≠ []) (other : ∀ c ∈ rest.head?, isDigit c = false) :
    splitFraction ('.' :: (p ++ rest)) = (p, rest) := by
  obtain ⟨d, t, rfl⟩ := List.exists_cons_of_ne_nil full
  obtain ⟨taken, left⟩ := span_append digits other
  rw [List.cons_append] at taken left ⊢
  rw [splitFraction, if_pos (digits d List.mem_cons_self), taken, left]

lemma splitExponent_mark (low : Prop) [Decidable low] {q rest : List Char}
    (digits : ∀ c ∈ q, isDigit c = true) (full : q ≠ [])
    (other : ∀ c ∈ rest.head?, isDigit c = false) :
    splitExponent ('e' :: (if low then '-' else '+') :: (q ++ rest)) =
      some (if low then -(digitsValue q : Int) else digitsValue q, rest) := by
  obtain ⟨taken, left⟩ := span_append digits other
  by_cases sign : low <;> simp [splitExponent, taken, left, full, sign]

lemma Stops.splitFraction_eq {rest : List Char} (h : Stops rest) :
    splitFraction rest = ([], rest) := by
  cases rest with
  | nil => rfl
  | cons c rest =>
    have hc : c = ',' ∨ c = ']' ∨ c = '\x7d' := h c (by simp)
    rcases hc with rfl | rfl | rfl <;> rfl

lemma Stops.splitExponent_eq {rest : List Char} (h : Stops rest) : splitExponent rest = none := by
  cases rest with
  | nil => rfl
  | cons c rest =>
    have hc : c = ',' ∨ c = ']' ∨ c = '\x7d' := h c (by simp)
    rcases hc with rfl | rfl | rfl <;> rfl

/-- A number is its sign, its whole part, and then a fraction and an exponent. -/
lemma readNumber_withSign {w more : List Char} (whole : Whole w)
    (other : ∀ c ∈ more.head?, isDigit c = false) (negative : Bool) :
    readNumber (Binary64.withSign negative w ++ more) =
      match splitExponent (splitFraction more).2 with
      | some (e, rest) =>
        .ok (.real (Binary64.ofDecimal negative (digitsValue (w ++ (splitFraction more).1))
          (e - (splitFraction more).1.length)), rest)
      | none =>
        if (splitFraction more).1.isEmpty then
          if readNumber.maxIntegerDigits < w.length then
            fault .longInteger (Binary64.withSign negative w ++ more)
          else .ok (.integer (if negative then -(digitsValue w : Int) else digitsValue w),
            (splitFraction more).2)
        else
          .ok (.real (Binary64.ofDecimal negative (digitsValue (w ++ (splitFraction more).1))
            (-((splitFraction more).1.length : Int))), (splitFraction more).2) := by
  cases negative with
  | true =>
    rw [Binary64.withSign, if_pos rfl, List.cons_append, readNumber]
    cases exponent : splitExponent (splitFraction more).2 <;>
      simp only [whole.split other, whole.isEmpty, Bool.false_eq_true, if_false, if_true, exponent]
  | false =>
    rw [Binary64.withSign, if_neg Bool.false_ne_true, readNumber]
    · cases exponent : splitExponent (splitFraction more).2 <;>
        simp only [whole.split other, whole.isEmpty, Bool.false_eq_true, if_false, exponent]
    · obtain ⟨c, t, cons⟩ := List.exists_cons_of_ne_nil whole.ne_nil
      rw [cons]
      exact fun more same => whole.head_ne cons (by decide) (List.cons.inj same).1.symm

/-! ## Whole numbers -/

lemma intText_eq_withSign (n : Int) :
    intText n = Binary64.withSign (decide (n < 0)) (natText n.natAbs) := by
  by_cases neg : n < 0 <;> simp [intText, Binary64.withSign, neg]

/-- A whole number is read back in front of what may stand behind a value. -/
lemma readNumber_intText {n : Int}
    (hn : (natText n.natAbs).length ≤ readNumber.maxIntegerDigits) {rest : List Char}
    (h : Stops rest) : readNumber (intText n ++ rest) = .ok (.integer n, rest) := by
  have short : ¬readNumber.maxIntegerDigits < (natText n.natAbs).length := by omega
  have value : digitsValue (natText n.natAbs) = n.natAbs := ofDigits_natText _
  have signed : (if decide (n < 0) then -(n.natAbs : Int) else n.natAbs) = n := by
    split_ifs with neg <;> simp at neg <;> omega
  rw [intText_eq_withSign, readNumber_withSign (whole_natText n.natAbs) h.head]
  simp only [h.splitFraction_eq, h.splitExponent_eq, List.isEmpty_nil, if_true, short, if_false,
    value, signed]

/-- The words that stand for values. -/
def words : List String := ["null", "true", "false", "NaN", "Infinity", "-Infinity"]

lemma readScalar_of_no_word {s : List Char}
    (h : ∀ word ∈ words, afterWord? word.toList s = none) : readScalar s = readNumber s := by
  simp only [words, List.mem_cons, List.not_mem_nil, or_false, forall_eq_or_imp, forall_eq] at h
  obtain ⟨null, true', false', nan, infinity, negative⟩ := h
  rw [readScalar, null, true', false', nan, infinity, negative]

/-- A number is told apart from the words: it begins with a digit, or with a sign and a digit. -/
lemma readScalar_withSign (negative : Bool) {w : List Char} (h : Whole w) (rest : List Char) :
    readScalar (Binary64.withSign negative w ++ rest) =
      readNumber (Binary64.withSign negative w ++ rest) := by
  obtain ⟨c, t, cons⟩ := List.exists_cons_of_ne_nil h.ne_nil
  have hN : 'N' ≠ c := h.head_ne cons (by decide)
  have hn' : 'n' ≠ c := h.head_ne cons (by decide)
  have ht : 't' ≠ c := h.head_ne cons (by decide)
  have hf : 'f' ≠ c := h.head_ne cons (by decide)
  have hI : 'I' ≠ c := h.head_ne cons (by decide)
  have hm : '-' ≠ c := h.head_ne cons (by decide)
  apply readScalar_of_no_word
  cases negative with
  | true => simp [Binary64.withSign, cons, words, afterWord?, hI]
  | false => simp [Binary64.withSign, cons, words, afterWord?, hN, hn', ht, hf, hI, hm]

/-- **A whole number is read back**, if it is not too long. -/
theorem readScalar_intText {n : Int}
    (hn : (natText n.natAbs).length ≤ readNumber.maxIntegerDigits) {rest : List Char}
    (h : Stops rest) : readScalar (intText n ++ rest) = .ok (.integer n, rest) := by
  rw [← readNumber_intText hn h, intText_eq_withSign]
  exact readScalar_withSign _ (whole_natText n.natAbs) rest

/-! ## Real numbers -/

lemma Fractional.head {t rest : List Char} (h : Fractional t) :
    ∀ c ∈ (t ++ rest).head?, isDigit c = false := by
  cases h <;> simp <;> decide

lemma withSign_append (negative : Bool) (s t : List Char) :
    Binary64.withSign negative (s ++ t) = Binary64.withSign negative s ++ t := by
  cases negative <;> rfl

/-- What stands behind the whole part is read up to the end of the number. -/
lemma exists_readNumber {w t : List Char} (whole : Whole w) (fractional : Fractional t)
    (negative : Bool) : ∃ y, ∀ rest, Stops rest →
      readNumber (Binary64.withSign negative (w ++ t) ++ rest) = .ok (.real y, rest) := by
  have parts (rest : List Char) : Binary64.withSign negative (w ++ t) ++ rest =
      Binary64.withSign negative w ++ (t ++ rest) := by
    rw [withSign_append, List.append_assoc]
  cases fractional with
  | @point p digits full =>
    refine ⟨.ofDecimal negative (digitsValue (w ++ p)) (-(p.length : Int)), fun rest stops => ?_⟩
    have some_place : p.isEmpty = false := by simpa using full
    rw [parts, readNumber_withSign whole (Fractional.point digits full).head, List.cons_append,
      splitFraction_point digits full stops.head]
    simp only [stops.splitExponent_eq, some_place, Bool.false_eq_true, if_false]
  | @exponent neg _ q digits full =>
    refine ⟨.ofDecimal negative (digitsValue (w ++ []))
      ((if neg then -(digitsValue q : Int) else digitsValue q) - 0), fun rest stops => ?_⟩
    have none : splitFraction ('e' :: (if neg then '-' else '+') :: (q ++ rest)) =
        ([], 'e' :: (if neg then '-' else '+') :: (q ++ rest)) := rfl
    rw [parts, readNumber_withSign whole (Fractional.exponent neg digits full).head,
      List.cons_append, List.cons_append, none]
    simp only [splitExponent_mark neg digits full stops.head]
    rfl
  | @both neg _ p q digits full digits' full' =>
    refine ⟨.ofDecimal negative (digitsValue (w ++ p))
      ((if neg then -(digitsValue q : Int) else digitsValue q) - p.length), fun rest stops => ?_⟩
    have mark : ∀ c ∈ ('e' :: (if neg then '-' else '+') :: (q ++ rest)).head?,
        isDigit c = false := by simp; decide
    have text : '.' :: p ++ 'e' :: (if neg then '-' else '+') :: q ++ rest =
        '.' :: (p ++ 'e' :: (if neg then '-' else '+') :: (q ++ rest)) := by simp
    rw [parts, readNumber_withSign whole (Fractional.both neg digits full digits' full').head, text,
      splitFraction_point digits full mark]
    simp only [splitExponent_mark neg digits' full' stops.head]

end CommonPurse.Json

namespace CommonPurse.Binary64

open CommonPurse.Text CommonPurse.Json

/-! ## The text of a real number -/

lemma candidate?_ne_zero {low value high den : Nat} {closed : Bool} {k : Int} {n : Nat}
    {r : Nat × Int} (h : candidate? low value high den closed k n = some r) : r.1 ≠ 0 := by
  unfold candidate? at h
  grind

lemma shortest_ne_zero {s : Nat} (positive : s ≠ 0) (e : Int) : (shortest s e).1 ≠ 0 := by
  have found : ∀ o : Option (Nat × Int), (∀ r, o = some r → r.1 ≠ 0) → (o.getD (s, 0)).1 ≠ 0 := by
    rintro (_ | r) all
    · exact positive
    · exact all r rfl
  refine found _ fun r some_grid => ?_
  obtain ⟨n, -, here⟩ := List.exists_of_findSome?_eq_some some_grid
  exact candidate?_ne_zero here

lemma dropZeros_ne_zero (fuel : Nat) {digits : Nat} (positive : digits ≠ 0) (exponent : Int) :
    (dropZeros fuel digits exponent).1 ≠ 0 := by
  induction fuel generalizing digits exponent with
  | zero => exact positive
  | succ fuel ih =>
    rw [dropZeros]
    split_ifs with zero
    · exact ih (by omega) _
    · exact positive

/-- The digits of a positive number are those of a positive number. -/
lemma exists_digitsOf {s : Nat} (positive : s ≠ 0) (e : Int) :
    ∃ d g, d ≠ 0 ∧ digitsOf s e = (natText d, g) :=
  ⟨_, _, dropZeros_ne_zero 20 (shortest_ne_zero positive e) _, rfl⟩

/-- Positional digits are a whole part and a fraction. -/
lemma exists_positional {d : Nat} (positive : d ≠ 0) (g : Int) :
    ∃ w t, Whole w ∧ Fractional t ∧ positional (natText d) g ['.', '0'] = w ++ t := by
  have digits : ∀ c ∈ natText d, isDigit c = true := fun _ => isSome_of_mem_natText
  have zeros (n : Nat) : ∀ c ∈ List.replicate n '0', isDigit c = true := fun c hc => by
    rw [List.eq_of_mem_replicate hc]
    decide
  obtain ⟨c, rest, cons, nonzero⟩ := natText_eq_cons positive
  unfold positional
  dsimp only
  split_ifs with whole inside
  · refine ⟨natText d ++ List.replicate g.toNat '0', ['.', '0'], ⟨?_, .inr ?_⟩,
      .point (by simp; decide) (by simp), by simp⟩
    · exact fun x hx => (List.mem_append.mp hx).elim (digits x) (zeros _ x)
    · exact ⟨c, rest ++ List.replicate g.toNat '0', by rw [cons, List.cons_append], nonzero⟩
  · have front : (natText d).take ((natText d).length - (-g).toNat) ≠ [] := by
      rw [ne_eq, ← List.length_eq_zero_iff, List.length_take]
      omega
    have behind : (natText d).drop ((natText d).length - (-g).toNat) ≠ [] := by
      rw [ne_eq, ← List.length_eq_zero_iff, List.length_drop]
      omega
    refine ⟨_, _, ⟨fun x hx => digits x (List.mem_of_mem_take hx), .inr ?_⟩,
      .point (fun x hx => digits x (List.mem_of_mem_drop hx)) behind, rfl⟩
    obtain ⟨a, t, leads⟩ := List.exists_cons_of_ne_nil front
    have same : a = c := by
      have head := congrArg List.head? leads
      rw [List.head?_take, if_neg (by omega), cons] at head
      exact (Option.some.inj head).symm
    exact ⟨a, t, leads, same ▸ nonzero⟩
  · refine ⟨['0'], _, whole_zero, .point (p := _ ++ natText d) ?_ ?_, rfl⟩
    · exact fun x hx => (List.mem_append.mp hx).elim (zeros _ x) (digits x)
    · simp [cons]

/-- Scientific digits are one digit, perhaps a fraction, and an exponent. -/
lemma exists_scientific {d : Nat} (positive : d ≠ 0) (g : Int) :
    ∃ w t, Whole w ∧ Fractional t ∧ scientific (natText d) g = w ++ t := by
  have digits : ∀ c ∈ natText d, isDigit c = true := fun _ => isSome_of_mem_natText
  obtain ⟨c, rest, cons, nonzero⟩ := natText_eq_cons positive
  have first : Whole [c] :=
    ⟨by simpa using digits c (by simp [cons]), .inr ⟨c, [], rfl, nonzero⟩⟩
  have figures (n : Nat) : ∀ x ∈ padded 2 n, isDigit x = true := fun _ => isSome_of_mem_padded
  have full (n : Nat) : padded 2 n ≠ [] := by simp [padded, natText_ne_nil]
  unfold scientific
  rw [cons]
  cases rest with
  | nil => exact ⟨[c], _, first, .exponent _ (figures _) (full _), rfl⟩
  | cons a more =>
    have places : ∀ x ∈ a :: more, isDigit x = true := fun x hx => digits x (by
      rw [cons]
      exact List.mem_cons_of_mem _ hx)
    exact ⟨[c], _, first, .both _ places (by simp) (figures _) (full _), rfl⟩

/-- **The text of a finite number** is its sign, a whole part, and a fraction or an exponent. -/
theorem exists_text (n : Bool) (s : Nat) (e : Int) :
    ∃ w t, Whole w ∧ Fractional t ∧ (finite n s e).text.toList = withSign n (w ++ t) := by
  cases s with
  | zero =>
    exact ⟨['0'], ['.', '0'], whole_zero, .point (by simp; decide) (by simp), String.toList_ofList⟩
  | succ s =>
    obtain ⟨d, g, positive, digits⟩ := exists_digitsOf (Nat.succ_ne_zero s) e
    rw [text]
    · simp only [digits, String.toList_ofList]
      split_ifs
      · obtain ⟨w, t, whole, fractional, same⟩ := exists_positional positive g
        exact ⟨w, t, whole, fractional, by rw [same]⟩
      · obtain ⟨w, t, whole, fractional, same⟩ := exists_scientific positive g
        exact ⟨w, t, whole, fractional, by rw [same]⟩
    · simp

end CommonPurse.Binary64

namespace CommonPurse.Json

open CommonPurse.Text

/-- How a number, or a word for one, begins. -/
def Numeric (c : Char) : Prop := c = '-' ∨ c = 'N' ∨ c = 'I' ∨ isDigit c = true

/-- No number begins with another character. -/
lemma Numeric.ne {c a : Char} (h : Numeric c) (other : isDigit a = false)
    (mark : a ∉ ['-', 'N', 'I']) : c ≠ a := by
  rintro rfl
  rcases h with rfl | rfl | rfl | digit
  · exact mark (by simp)
  · exact mark (by simp)
  · exact mark (by simp)
  · rw [other] at digit
    cases digit

lemma numeric_withSign (negative : Bool) {w : List Char} (h : Whole w) (rest : List Char) :
    ∃ c t, Binary64.withSign negative (w ++ rest) = c :: t ∧ Numeric c := by
  obtain ⟨c, t, rfl⟩ := List.exists_cons_of_ne_nil h.ne_nil
  cases negative with
  | true => exact ⟨'-', _, rfl, .inl rfl⟩
  | false => exact ⟨c, _, rfl, .inr (.inr (.inr (h.digits c List.mem_cons_self)))⟩

lemma intText_eq_cons (n : Int) : ∃ c t, intText n = c :: t ∧ Numeric c := by
  have text := numeric_withSign (decide (n < 0)) (whole_natText n.natAbs) []
  rwa [List.append_nil, ← intText_eq_withSign] at text

lemma realText_eq_cons (x : Binary64) : ∃ c t, (realText x).toList = c :: t ∧ Numeric c := by
  cases x with
  | nan => exact ⟨'N', _, rfl, .inr (.inl rfl)⟩
  | infinite negative =>
    cases negative with
    | true => exact ⟨'-', _, rfl, .inl rfl⟩
    | false => exact ⟨'I', _, rfl, .inr (.inr (.inl rfl))⟩
  | finite n s e =>
    obtain ⟨w, t, whole, -, text⟩ := Binary64.exists_text n s e
    have same : (realText (.finite n s e)).toList = Binary64.withSign n (w ++ t) := text
    rw [same]
    exact numeric_withSign n whole t

/-- **The text of a real number is read as a real number**, in front of whatever may stand behind a
value: for what is no finite number there is a word. -/
theorem exists_readScalar_realText (x : Binary64) : ∃ y, ∀ rest, Stops rest →
    readScalar ((realText x).toList ++ rest) = .ok (.real y, rest) := by
  cases x with
  | nan => exact ⟨.nan, fun rest _ => rfl⟩
  | infinite negative =>
    cases negative with
    | true => exact ⟨.infinite true, fun rest _ => rfl⟩
    | false => exact ⟨.infinite false, fun rest _ => rfl⟩
  | finite n s e =>
    obtain ⟨w, t, whole, fractional, text⟩ := Binary64.exists_text n s e
    obtain ⟨y, reads⟩ := exists_readNumber whole fractional n
    refine ⟨y, fun rest stops => ?_⟩
    have same : (realText (.finite n s e)).toList = Binary64.withSign n (w ++ t) := text
    rw [same, ← reads rest stops, withSign_append, List.append_assoc]
    exact readScalar_withSign n whole (t ++ rest)

end CommonPurse.Json
