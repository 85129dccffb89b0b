import CommonPurse.Proofs.Text.Integer
import Mathlib.Data.List.Basic

/-!
# How colours are spelled

A colour is spelled by three parts between commas, each of which is an integer from 0 to 255 between
blanks. A text of nothing but blanks spells the usual colour. Any other text is refused, and what is
told about it is the first of three things that is wrong with it: there are not three parts, a part
is no integer, or an integer is out of range.

## Main definitions

* `CommonPurse.Color.Split` — the parts of a text between commas.
* `CommonPurse.Color.Part` — a part that is an integer between blanks.
* `CommonPurse.Color.Spells`, `CommonPurse.Color.Misspelt` — the texts that spell a colour, and what
  is wrong with the others.

## Main results

* `CommonPurse.Color.splitCommas_eq_iff` — texts are split at all commas and nowhere else.
* `CommonPurse.Color.parse_eq_ok_iff` — which texts are read as a colour.
* `CommonPurse.Color.exists_misspelt` — what is told about the others.
* `CommonPurse.Color.length_text_le` — how long the text of a colour is.
-/

namespace CommonPurse.Color

open CommonPurse.Text

/-! ## Parts between commas -/

/-- A text consists of parts between which it has its commas. -/
structure Split (s : List Char) (parts : List (List Char)) : Prop where
  joined : s = [','].intercalate parts
  nonempty : parts ≠ []
  plain : ∀ part ∈ parts, ',' ∉ part

lemma split_splitCommas (s : List Char) : Split s (splitCommas s) := by
  induction s with
  | nil => exact ⟨rfl, by simp [splitCommas], by simp [splitCommas]⟩
  | cons c rest ih =>
    obtain ⟨part, parts, found⟩ := List.exists_cons_of_ne_nil ih.nonempty
    rw [found] at ih
    by_cases comma : c = ','
    · subst comma
      rw [splitCommas, if_pos rfl, found]
      refine ⟨?_, List.cons_ne_nil _ _, ?_⟩
      · rw [List.intercalate_cons_cons, ← ih.joined]
        rfl
      · exact List.forall_mem_cons.mpr ⟨List.not_mem_nil, ih.plain⟩
    · rw [splitCommas, if_neg comma, found]
      obtain ⟨first, others⟩ := List.forall_mem_cons.mp ih.plain
      refine ⟨?_, List.cons_ne_nil _ _, ?_⟩
      · have joined := ih.joined
        cases parts with
        | nil => simpa using joined
        | cons next parts =>
          rw [List.intercalate_cons_cons] at joined ⊢
          simp [joined]
      · refine List.forall_mem_cons.mpr ⟨?_, others⟩
        simp [first, Ne.symm comma]

/-- **Texts are split at all commas and nowhere else.** -/
theorem splitCommas_eq_iff {s : List Char} {parts : List (List Char)} :
    splitCommas s = parts ↔ Split s parts := by
  constructor
  · rintro rfl
    exact split_splitCommas s
  · rintro ⟨rfl, nonempty, plain⟩
    induction parts with
    | nil => exact absurd rfl nonempty
    | cons part parts ih =>
      obtain ⟨first, others⟩ := List.forall_mem_cons.mp plain
      cases parts with
      | nil => rw [List.intercalate_singleton, splitCommas_of_notMem first]
      | cons next parts =>
        have rest := ih (List.cons_ne_nil _ _) others
        calc splitCommas ([','].intercalate (part :: next :: parts))
            = splitCommas (part ++ ',' :: [','].intercalate (next :: parts)) := by
              rw [List.intercalate_cons_cons, List.append_assoc, List.singleton_append]
          _ = part :: next :: parts := by rw [splitCommas_append first, rest]

/-! ## Parts -/

/-- A part that is an integer once the blanks around it are removed. -/
inductive Part : List Char → ℤ → Prop where
  | intro {before core after : List Char} {n : ℤ} (left : ∀ c ∈ before, isBlank c = true)
      (right : ∀ c ∈ after, isBlank c = true) (integer : Numeral core n) :
      Part (before ++ core ++ after) n

/-- Every part that is an integer is read as one, and no other. -/
lemma readInteger?_trim_eq_some_iff {part : List Char} {n : ℤ} :
    readInteger? (trim part) = some n ↔ Part part n := by
  constructor
  · intro h
    obtain ⟨before, after, whole, left, right⟩ := exists_trimBy isBlank part
    rw [whole]
    exact .intro left right (readInteger?_eq_some_iff.mp h)
  · rintro @⟨before, core, after, n, left, right, integer⟩
    obtain @⟨before', sign, run, after', factor, ds, left', right', signed, digits, short⟩ :=
      integer
    -- The blanks that an integer may have around it are trimmed with those of the part.
    have blank : ∀ c, isNumeralBlank c = true → isBlank c = true :=
      fun c h => (Bool.and_eq_true_iff.mp h).1
    have core : trim ((before ++ before') ++ (sign ++ run) ++ (after' ++ after)) = sign ++ run := by
      obtain ⟨first, final⟩ := signed.ends digits
      refine trimBy_append ?_ ?_ first final
      · exact fun c hc => (List.mem_append.mp hc).elim (left c) fun hc => blank c (left' c hc)
      · exact fun c hc => (List.mem_append.mp hc).elim (fun hc => blank c (right' c hc)) (right c)
    have same : before ++ (before' ++ (sign ++ run) ++ after') ++ after =
        (before ++ before') ++ (sign ++ run) ++ (after' ++ after) := by simp
    have bare : Numeral ([] ++ (sign ++ run) ++ []) (factor * (Nat.ofDigits 10 ds.reverse : ℕ)) :=
      .intro (by simp) (by simp) signed digits short
    rw [same, core]
    exact readInteger?_eq_some_iff.mpr (by simpa using bare)

/-- Integers outside of the range are no components. -/
lemma component?_eq_none_iff {n : ℤ} : component? n = none ↔ ¬(0 ≤ n ∧ n ≤ 255) := by
  simp [component?]

/-! ## Whole texts -/

/-- The texts that spell a colour. -/
inductive Spells : List Char → Color → Prop where
  | blank {s : List Char} (blank : ∀ c ∈ s, isBlank c = true) : Spells s usual
  | parts {s r g b : List Char} {c : Color} (split : Split s [r, g, b])
      (red : Part r c.red.val) (green : Part g c.green.val) (blue : Part b c.blue.val) : Spells s c

/-- What is told about a text that spells no colour. -/
inductive Misspelt (s : List Char) : String → Prop where
  | parts {parts : List (List Char)} (visible : ∃ c ∈ s, isBlank c = false) (split : Split s parts)
      (other : parts.length ≠ 3) : Misspelt s "Color must have the form 'red,green,blue'"
  | integers {parts : List (List Char)} (split : Split s parts) (three : parts.length = 3)
      (unread : ∃ part ∈ parts, ∀ n, ¬Part part n) : Misspelt s "Color components must be integers"
  | range {parts : List (List Char)} (split : Split s parts) (three : parts.length = 3)
      (read : ∀ part ∈ parts, ∃ n, Part part n)
      (out : ∃ part ∈ parts, ∃ n, Part part n ∧ ¬(0 ≤ n ∧ n ≤ 255)) :
      Misspelt s "Color components must be between 0 and 255"

/-- A text with commas is not blank. -/
lemma Split.visible {s r g b : List Char} (h : Split s [r, g, b]) :
    ∃ c ∈ s, isBlank c = false := by
  refine ⟨',', ?_, by decide⟩
  rw [h.joined, List.intercalate_cons_cons]
  simp

section Parts

variable {value : String} {r g b : List Char}

/-- Three parts that are components are read as a colour. -/
lemma parseParts_of_components {c : Color} (parts : Split value.toList [r, g, b])
    (red : Part r c.red.val) (green : Part g c.green.val) (blue : Part b c.blue.val) :
    parseParts value = .ok c := by
  rw [parseParts, splitCommas_eq_iff.mpr parts]
  simp only [List.map_cons, List.map_nil, readInteger?_trim_eq_some_iff.mpr red,
    readInteger?_trim_eq_some_iff.mpr green, readInteger?_trim_eq_some_iff.mpr blue,
    component?_coe]

/-- Three parts are refused when one of them is no integer. -/
lemma parseParts_of_unread (parts : Split value.toList [r, g, b])
    (unread : ∃ part ∈ [r, g, b], ∀ n, ¬Part part n) :
    parseParts value = .error (refused "Color components must be integers" value) := by
  rw [parseParts, splitCommas_eq_iff.mpr parts]
  simp only [List.map_cons, List.map_nil]
  split
  next red green blue =>
    have read : ∀ part ∈ [r, g, b], ∃ n, readInteger? (trim part) = some n := by
      simp [red, green, blue]
    obtain ⟨part, mem, unread⟩ := unread
    obtain ⟨n, value⟩ := read part mem
    exact absurd (readInteger?_trim_eq_some_iff.mp value) (unread n)
  next => rfl

/-- Three integers are refused when one of them is out of range. -/
lemma parseParts_of_range (parts : Split value.toList [r, g, b])
    (read : ∀ part ∈ [r, g, b], ∃ n, Part part n)
    (out : ∃ part ∈ [r, g, b], ∃ n, Part part n ∧ ¬(0 ≤ n ∧ n ≤ 255)) :
    parseParts value = .error (refused "Color components must be between 0 and 255" value) := by
  obtain ⟨⟨l, red⟩, ⟨m, green⟩, ⟨n, blue⟩⟩ := by simpa using read
  rw [← readInteger?_trim_eq_some_iff] at red green blue
  rw [parseParts, splitCommas_eq_iff.mpr parts]
  simp only [List.map_cons, List.map_nil, red, green, blue]
  split
  next red' green' blue' =>
    have inside : ∀ part ∈ [r, g, b], ∃ k, readInteger? (trim part) = some k ∧
        component? k ≠ none := by
      simp [red, green, blue, red', green', blue']
    obtain ⟨part, mem, k, integer, out⟩ := out
    obtain ⟨k', value, component⟩ := inside part mem
    obtain rfl := Option.some.inj ((readInteger?_trim_eq_some_iff.mpr integer).symm.trans value)
    exact absurd (component?_eq_none_iff.mpr out) component
  next => rfl

/-- Fewer or more than three parts are refused. -/
lemma parseParts_of_other {ps : List (List Char)} (parts : Split value.toList ps)
    (other : ps.length ≠ 3) :
    parseParts value = .error (refused "Color must have the form 'red,green,blue'" value) := by
  rw [parseParts, splitCommas_eq_iff.mpr parts]
  split
  next same =>
    have length := congrArg List.length same
    rw [List.length_map] at length
    exact absurd length other
  next => rfl

end Parts

/-- Of a text that is not blank the parts are read. -/
lemma parse_of_visible {value : String} (visible : ∃ c ∈ value.toList, isBlank c = false) :
    parse (some value) = parseParts value := by
  obtain ⟨x, mem, visible⟩ := visible
  have some : isBlankText value = false := by
    rw [isBlankText, List.all_eq_false]
    exact ⟨x, mem, by simp [visible]⟩
  rw [parse, some]
  rfl

/-- A text that spells a colour is read as that colour. -/
lemma Spells.parse {value : String} {c : Color} (h : Spells value.toList c) :
    Color.parse (some value) = .ok c := by
  cases h with
  | blank blank => rw [Color.parse, isBlankText, if_pos (List.all_eq_true.mpr blank)]
  | parts split red green blue =>
    rw [parse_of_visible split.visible, parseParts_of_components split red green blue]

/-- A text that is misspelt is refused, and told what is wrong with it. -/
lemma Misspelt.parse {value detail : String} (h : Misspelt value.toList detail) :
    Color.parse (some value) = .error (refused detail value) := by
  cases h with
  | parts visible split other => rw [parse_of_visible visible, parseParts_of_other split other]
  | @integers ps split three unread =>
    obtain ⟨r, g, b, rfl⟩ := List.length_eq_three.mp three
    rw [parse_of_visible split.visible, parseParts_of_unread split unread]
  | @range ps split three read out =>
    obtain ⟨r, g, b, rfl⟩ := List.length_eq_three.mp three
    rw [parse_of_visible split.visible, parseParts_of_range split read out]

/-- Every text spells a colour or is misspelt. -/
lemma exists_spells_or_misspelt (s : List Char) :
    (∃ c, Spells s c) ∨ ∃ detail, Misspelt s detail := by
  by_cases visible : ∃ c ∈ s, isBlank c = false
  swap
  · exact .inl ⟨usual, .blank (by simpa using visible)⟩
  have split := split_splitCommas s
  by_cases three : (splitCommas s).length = 3
  swap
  · exact .inr ⟨_, .parts visible split three⟩
  by_cases read : ∀ part ∈ splitCommas s, ∃ n, Part part n
  swap
  · push Not at read
    exact .inr ⟨_, .integers split three read⟩
  by_cases out : ∃ part ∈ splitCommas s, ∃ n, Part part n ∧ ¬(0 ≤ n ∧ n ≤ 255)
  · exact .inr ⟨_, .range split three read out⟩
  obtain ⟨r, g, b, same⟩ := List.length_eq_three.mp three
  rw [same] at split read out
  have component : ∀ part ∈ [r, g, b], ∃ n : Fin 256, Part part n.val := by
    intro part mem
    obtain ⟨n, integer⟩ := read part mem
    push Not at out
    obtain ⟨low, high⟩ := out part mem n integer
    refine ⟨⟨n.toNat, by omega⟩, ?_⟩
    rwa [Int.toNat_of_nonneg low]
  obtain ⟨⟨red, hr⟩, ⟨green, hg⟩, ⟨blue, hb⟩⟩ := by simpa using component
  exact .inl ⟨⟨red, green, blue⟩, .parts split hr hg hb⟩

/-- **Exactly the texts that spell a colour are read as it.** -/
theorem parse_eq_ok_iff {value : String} {c : Color} :
    parse (some value) = .ok c ↔ Spells value.toList c := by
  refine ⟨fun h => ?_, Spells.parse⟩
  rcases exists_spells_or_misspelt value.toList with ⟨c', spells⟩ | ⟨detail, misspelt⟩
  · rw [spells.parse] at h
    rwa [← Except.ok.inj h]
  · rw [misspelt.parse] at h
    cases h

/-- **All other texts are refused**, and told the first thing that is wrong with them. -/
theorem exists_misspelt {value : String} (h : ∀ c, ¬Spells value.toList c) :
    ∃ detail, Misspelt value.toList detail ∧
      parse (some value) = .error (refused detail value) := by
  obtain ⟨detail, misspelt⟩ := (exists_spells_or_misspelt value.toList).resolve_left
    fun ⟨c, spells⟩ => h c spells
  exact ⟨detail, misspelt, misspelt.parse⟩

/-! ## Texts of colours -/

/-- The text of a colour has at most 11 characters. -/
lemma length_text_le (c : Color) : c.text.length ≤ 11 := by
  have red := length_component c.red
  have green := length_component c.green
  have blue := length_component c.blue
  rw [← String.length_toList, text, String.toList_ofList]
  simp only [List.length_append, List.length_cons]
  omega

end CommonPurse.Color
