import CommonPurse.Proofs.Json.Numbers

/-!
# Reading back what is written

A JSON value that holds no real number and no broken text is read back from its text, with and
without blanks behind the commas and colons. Every reader is an inverse of its writer in front of
whatever may stand behind a value. A value with real numbers is read, too, and all of it but these
numbers is read back.

## Main definitions

* `CommonPurse.Json.Plain` — the values that are read back.
* `CommonPurse.Json.Legible`, `CommonPurse.Json.reread` — the values that are read, and as what.
* `CommonPurse.Json.Spacing.Regular` — commas and colons with blanks behind them.

## Main results

* `CommonPurse.Json.readString_quote` — a string literal is read back.
* `CommonPurse.Json.parse?_reread` — so is a legible value, up to its real numbers.
* `CommonPurse.Json.parse?_compact`, `parse?_spaced` — and a plain value as it is.
-/

namespace CommonPurse.Json

open CommonPurse.Text

/-- A value without real numbers and broken texts, whose whole numbers are not too long to be
read. -/
inductive Plain : Json → Prop
  | null : Plain .null
  | bool (b : Bool) : Plain (.bool b)
  | integer {n : Int} (h : (natText n.natAbs).length ≤ readNumber.maxIntegerDigits) :
      Plain (.integer n)
  | text (s : String) : Plain (.text s)
  | array {items : List Json} (h : ∀ v ∈ items, Plain v) : Plain (.array items)
  | object {members : List (String × Json)} (h : ∀ m ∈ members, Plain m.2) :
      Plain (.object members)

/-- A value without broken texts, whose whole numbers are not too long to be read. -/
inductive Legible : Json → Prop
  | null : Legible .null
  | bool (b : Bool) : Legible (.bool b)
  | integer {n : Int} (h : (natText n.natAbs).length ≤ readNumber.maxIntegerDigits) :
      Legible (.integer n)
  | real (x : Binary64) : Legible (.real x)
  | text (s : String) : Legible (.text s)
  | array {items : List Json} (h : ∀ v ∈ items, Legible v) : Legible (.array items)
  | object {members : List (String × Json)} (h : ∀ m ∈ members, Legible m.2) :
      Legible (.object members)

/-- What the text of a real number is read as. -/
def rereadReal (x : Binary64) : Json :=
  match readScalar (realText x).toList with
  | .ok (v, _) => v
  | .error _ => .real x

mutual

/-- What the text of a value is read as: the value itself, up to its real numbers. -/
def reread : Json → Json
  | .real x => rereadReal x
  | .array items => .array (rereadItems items)
  | .object members => .object (rereadMembers members)
  | v => v

/-- What the texts of items are read as. -/
def rereadItems : List Json → List Json
  | [] => []
  | v :: rest => reread v :: rereadItems rest

/-- What the texts of members are read as. -/
def rereadMembers : List (String × Json) → List (String × Json)
  | [] => []
  | (k, v) :: rest => (k, reread v) :: rereadMembers rest

end

lemma rereadItems_eq_map (items : List Json) : rereadItems items = items.map reread := by
  induction items with
  | nil => rfl
  | cons v rest ih => rw [rereadItems, ih, List.map_cons]

lemma rereadMembers_eq_map (members : List (String × Json)) :
    rereadMembers members = members.map fun m => (m.1, m.2.reread) := by
  induction members with
  | nil => rfl
  | cons m rest ih => rw [rereadMembers, ih, List.map_cons]

lemma Plain.legible {v : Json} (h : Plain v) : Legible v := by
  induction h with
  | null => exact .null
  | bool b => exact .bool b
  | integer h => exact .integer h
  | text s => exact .text s
  | array _ ih => exact .array ih
  | object _ ih => exact .object ih

/-- A plain value has no real numbers. -/
lemma Plain.reread_eq {v : Json} (h : Plain v) : v.reread = v := by
  induction h with
  | null | bool b | integer h | text s => rfl
  | @array items _ ih =>
    rw [reread, rereadItems_eq_map]
    exact congrArg Json.array ((List.map_congr_left ih).trans (List.map_id' items))
  | @object members _ ih =>
    have same : ∀ m ∈ members, (m.1, m.2.reread) = m := fun m hm => Prod.ext rfl (ih m hm)
    rw [reread, rereadMembers_eq_map]
    exact congrArg Json.object ((List.map_congr_left same).trans (List.map_id' members))

/-- Commas and colons with nothing but blanks behind them. -/
def Spacing.Regular (sp : Spacing) : Prop :=
  ∃ g h, sp.between = ',' :: g ∧ sp.afterName = ':' :: h ∧
    (∀ c ∈ g, isGap c = true) ∧ ∀ c ∈ h, isGap c = true

/-! ## What is written -/

section Written

variable (sp : Spacing)

@[simp] lemma write_null : write sp .null = "null".toList := rfl

@[simp] lemma write_bool (b : Bool) :
    write sp (.bool b) = (if b then "true" else "false").toList := rfl

@[simp] lemma write_integer (n : Int) : write sp (.integer n) = intText n := rfl

@[simp] lemma write_real (x : Binary64) : write sp (.real x) = (realText x).toList := rfl

@[simp] lemma write_text (s : String) : write sp (.text s) = quote s := rfl

@[simp] lemma write_array (items : List Json) :
    write sp (.array items) = '[' :: writeItems sp items ++ [']'] := rfl

@[simp] lemma write_object (members : List (String × Json)) :
    write sp (.object members) = '\x7b' :: writeMembers sp members ++ ['\x7d'] := rfl

@[simp] lemma writeItems_singleton (v : Json) : writeItems sp [v] = write sp v := rfl

@[simp] lemma writeItems_cons_cons (v w : Json) (rest : List Json) :
    writeItems sp (v :: w :: rest) = write sp v ++ sp.between ++ writeItems sp (w :: rest) := rfl

@[simp] lemma writeMembers_singleton (k : String) (v : Json) :
    writeMembers sp [(k, v)] = quote k ++ sp.afterName ++ write sp v := rfl

@[simp] lemma writeMembers_cons_cons (k : String) (v : Json) (m : String × Json)
    (rest : List (String × Json)) :
    writeMembers sp ((k, v) :: m :: rest) =
      quote k ++ sp.afterName ++ write sp v ++ sp.between ++ writeMembers sp (m :: rest) := rfl

end Written

/-! ## Blanks -/

lemma skipGap_cons {c : Char} (h : isGap c = false) (s : List Char) :
    skipGap (c :: s) = c :: s := by
  rw [skipGap, List.dropWhile_cons, h]
  rfl

lemma skipGap_append {g : List Char} (hg : ∀ c ∈ g, isGap c = true) (s : List Char) :
    skipGap (g ++ s) = skipGap s := by
  induction g with
  | nil => rfl
  | cons c g ih =>
    rw [List.cons_append, skipGap, List.dropWhile_cons, hg c (by simp)]
    exact ih fun x hx => hg x (by simp [hx])

lemma Stops.skipGap_eq {rest : List Char} (h : Stops rest) : skipGap rest = rest := by
  cases rest with
  | nil => rfl
  | cons c rest =>
    have hc : c = ',' ∨ c = ']' ∨ c = '\x7d' := h c (by simp)
    refine skipGap_cons ?_ rest
    rcases hc with rfl | rfl | rfl <;> decide

/-! ## Strings -/

/-- A control character is escaped by two zeros and its two hexadecimal digits. -/
lemma unit_of_control :
    ∀ n : Fin 32, ∃ a b, paddedHex 4 n = ['0', '0', a, b] ∧ unit? '0' '0' a b = some n.val := by
  intro n
  refine ⟨(n.val / 16).digitChar, (n.val % 16).digitChar, ?_, ?_⟩
  · revert n
    decide
  · revert n
    decide

/-- **An escaped character is read back** in front of whatever stands behind it.

**Proof sketch.** The cases are those of the escape: the seven characters with an escape of their
own, the other control characters, whose four hexadecimal digits name them, and the characters
that stand for themselves. -/
lemma readPieces_escape (whole : Nat) (c : Char) {more : List Char} (hm : more ≠ []) :
    readPieces whole (escape c ++ more) =
      (readPieces whole more).map fun r => (.char c :: r.1, r.2) := by
  unfold escape
  split_ifs with quote backslash newline return' tab backspace feed control
  · subst quote
    simp [readPieces, shortEscape?]
  · subst backslash
    simp [readPieces, shortEscape?]
  · subst newline
    simp [readPieces, shortEscape?]
  · subst return'
    simp [readPieces, shortEscape?]
  · subst tab
    simp [readPieces, shortEscape?]
  · have hc : c = Char.ofNat 8 := by rw [← backspace, Char.ofNat_toNat]
    simp [readPieces, shortEscape?, hc]
  · have hc : c = Char.ofNat 12 := by rw [← feed, Char.ofNat_toNat]
    simp [readPieces, shortEscape?, hc]
  · obtain ⟨a, b, digits, unit⟩ := unit_of_control ⟨c.toNat, control⟩
    have low : ¬(0xd800 ≤ c.toNat ∧ c.toNat ≤ 0xdfff) := by omega
    have piece : pieceOf c.toNat = .char c := by rw [pieceOf, if_neg low, Char.ofNat_toNat]
    have full : more.isEmpty = false := by simpa using hm
    dsimp only at digits unit
    rw [digits]
    simp only [List.cons_append, List.nil_append]
    rw [readPieces, unit]
    simp only [full, piece, Bool.false_eq_true, if_false]
  · rw [List.singleton_append, readPieces, if_neg control]
    · exact quote
    · exact backslash

lemma readPieces_escapes (whole : Nat) (s : List Char) (rest : List Char) :
    readPieces whole (s.flatMap escape ++ '"' :: rest) = .ok (s.map .char, rest) := by
  induction s with
  | nil => rfl
  | cons c s ih =>
    rw [List.flatMap_cons, List.append_assoc, readPieces_escape whole c (by simp), ih]
    rfl

lemma joinPieces_map_char (s : List Char) : joinPieces (s.map .char) = some s := by
  induction s with
  | nil => rfl
  | cons c s ih =>
    rw [List.map_cons, joinPieces, ih]
    rfl

/-- A string literal is read back behind its opening quote. -/
theorem readString_quote (s : String) (rest : List Char) :
    readString (s.toList.flatMap escape ++ '"' :: rest) = .ok (some s, rest) := by
  rw [readString, readPieces_escapes]
  simp [Except.map, joinPieces_map_char]

/-! ## Values -/

/-- A value is read with some fuel whenever the fuel is as long as its text. -/
def ReadsValue (sp : Spacing) (fuel : Nat) : Prop :=
  ∀ v rest, Legible v → Stops rest → (write sp v).length ≤ fuel →
    readValue fuel (write sp v ++ rest) = .ok (v.reread, rest)

/-- Items are read up to the closing bracket. -/
def ReadsItems (sp : Spacing) (fuel : Nat) : Prop :=
  ∀ items more, items ≠ [] → (∀ v ∈ items, Legible v) →
    (writeItems sp items).length + 1 ≤ fuel →
    readItems fuel (writeItems sp items ++ ']' :: more) = .ok (rereadItems items, more)

/-- Members are read up to the closing brace. -/
def ReadsMembers (sp : Spacing) (fuel : Nat) : Prop :=
  ∀ members more, members ≠ [] → (∀ m ∈ members, Legible m.2) →
    (writeMembers sp members).length + 1 ≤ fuel →
    readMembers fuel (writeMembers sp members ++ '\x7d' :: more) =
      .ok (rereadMembers members, more)

lemma stops_nil : Stops [] := by
  intro c hc
  exact absurd hc (by simp)

lemma stops_comma (s : List Char) : Stops (',' :: s) := by
  intro c hc
  exact .inl (by simpa using hc.symm)

lemma stops_bracket (s : List Char) : Stops (']' :: s) := by
  intro c hc
  exact .inr (.inl (by simpa using hc.symm))

lemma stops_brace (s : List Char) : Stops ('\x7d' :: s) := by
  intro c hc
  exact .inr (.inr (by simpa using hc.symm))

/-- The characters that no value begins with: blanks and closing brackets. -/
def opens (c : Char) : Bool := !isGap c && c != ']' && c != '\x7d'

lemma Numeric.opens {c : Char} (h : Numeric c) : opens c = true := by
  have other (a : Char) (digit : isDigit a = false) (mark : a ∉ ['-', 'N', 'I']) : c ≠ a :=
    h.ne digit mark
  simp [Json.opens, isGap, other ' ' (by decide) (by decide), other '\t' (by decide) (by decide),
    other '\n' (by decide) (by decide), other '\r' (by decide) (by decide),
    other ']' (by decide) (by decide), other '\x7d' (by decide) (by decide)]

/-- The text of a value begins with a character that tells it from a blank and from the end of
what it stands in. -/
lemma head?_write (sp : Spacing) {v : Json} (h : Legible v) :
    ∃ c, (write sp v).head? = some c ∧ opens c = true := by
  cases h with
  | null => exact ⟨'n', by simp, by decide⟩
  | bool b =>
    cases b with
    | true => exact ⟨'t', by simp, by decide⟩
    | false => exact ⟨'f', by simp, by decide⟩
  | @integer n _ =>
    obtain ⟨c, t, text, head⟩ := intText_eq_cons n
    exact ⟨c, by rw [write_integer, text, List.head?_cons], head.opens⟩
  | real x =>
    obtain ⟨c, t, text, head⟩ := realText_eq_cons x
    exact ⟨c, by rw [write_real, text, List.head?_cons], head.opens⟩
  | text s => exact ⟨'"', by simp [quote], by decide⟩
  | array _ => exact ⟨'[', by simp, by decide⟩
  | object _ => exact ⟨'\x7b', by simp, by decide⟩

/-! ## Steps of the readers -/

lemma opens_head {s t : List Char} {c : Char} (hc : s.head? = some c) : ∃ r, s ++ t = c :: r := by
  cases s with
  | nil => exact absurd hc (by simp)
  | cons a s => exact ⟨s ++ t, by simpa using hc⟩

lemma head?_writeItems (sp : Spacing) {items : List Json} (hne : items ≠ [])
    (h : ∀ v ∈ items, Legible v) : ∃ c, (writeItems sp items).head? = some c ∧ opens c = true := by
  match items, hne with
  | [v], _ => exact head?_write sp (h v (by simp))
  | v :: w :: rest, _ =>
    obtain ⟨c, hc, ho⟩ := head?_write sp (h v (by simp))
    refine ⟨c, ?_, ho⟩
    rw [writeItems_cons_cons, List.head?_append, List.head?_append, hc]
    rfl

lemma head?_writeMembers (sp : Spacing) {members : List (String × Json)} (hne : members ≠ []) :
    (writeMembers sp members).head? = some '"' := by
  match members, hne with
  | [(k, v)], _ => simp [quote]
  | (k, v) :: m :: rest, _ => simp [quote]

lemma skipGap_of_opens {c : Char} (h : opens c = true) (s : List Char) :
    skipGap (c :: s) = c :: s := by
  apply skipGap_cons
  simp only [opens, Bool.and_eq_true, Bool.not_eq_true'] at h
  exact h.1.1

lemma ReadsItems.succ {sp : Spacing} (hsp : sp.Regular) {fuel : Nat} (value : ReadsValue sp fuel)
    (items : ReadsItems sp fuel) : ReadsItems sp (fuel + 1) := by
  obtain ⟨g, -, between, -, gaps, -⟩ := hsp
  intro vs more hne legible len
  match vs, hne with
  | [v], _ =>
    rw [writeItems_singleton] at len ⊢
    rw [readItems, value v _ (legible v (by simp)) (stops_bracket more) (by omega)]
    rfl
  | v :: w :: rest, _ =>
    have legible' : ∀ x ∈ w :: rest, Legible x := fun x hx => legible x (by simp [List.mem_cons.mp hx])
    obtain ⟨c, hc, ho⟩ := head?_writeItems sp (List.cons_ne_nil w rest) legible'
    obtain ⟨t, ht⟩ := opens_head (t := ']' :: more) hc
    have tail := items (w :: rest) more (by simp) legible'
    rw [writeItems_cons_cons, between] at len ⊢
    simp only [List.length_append, List.length_cons] at len
    have text : write sp v ++ ',' :: g ++ writeItems sp (w :: rest) ++ ']' :: more =
        write sp v ++ ',' :: (g ++ (writeItems sp (w :: rest) ++ ']' :: more)) := by simp
    rw [text, readItems, value v _ (legible v (by simp)) (stops_comma _) (by omega)]
    have gap : skipGap (',' :: (g ++ (writeItems sp (w :: rest) ++ ']' :: more))) = _ :=
      skipGap_cons (by decide) _
    simp only [gap]
    rw [skipGap_append gaps, ht, skipGap_of_opens ho, ← ht, tail (by omega)]
    rfl

/-- What is read behind the value of a member: the end of the object, or the members behind a
comma. -/
def afterMember (fuel : Nat) (m : String × Json) : List Char → Found (List (String × Json))
  | '\x7d' :: more => .ok ([m], more)
  | ',' :: more => (readMembers fuel (skipGap more)).map fun r => (m :: r.1, r.2)
  | more => fault .expectingComma more

/-- A member is read up to what stands behind its value. -/
lemma readMembers_cons {sp : Spacing} {h : List Char} (name : sp.afterName = ':' :: h)
    (gaps : ∀ c ∈ h, isGap c = true) {fuel : Nat} (value : ReadsValue sp fuel) (k : String)
    {v : Json} (hv : Legible v) (len : (write sp v).length ≤ fuel) (rest : List Char) :
    Stops rest →
      readMembers (fuel + 1) (quote k ++ sp.afterName ++ write sp v ++ rest) =
        afterMember fuel (k, v.reread) rest := by
  intro stops
  obtain ⟨c, hc, ho⟩ := head?_write sp hv
  obtain ⟨t, ht⟩ := opens_head (t := rest) hc
  have text : quote k ++ sp.afterName ++ write sp v ++ rest =
      '"' :: (k.toList.flatMap escape ++ '"' :: ':' :: (h ++ (write sp v ++ rest))) := by
    rw [name, quote]
    simp
  have colon : skipGap (':' :: (h ++ (write sp v ++ rest))) = _ := skipGap_cons (by decide) _
  have behind : skipGap (h ++ (write sp v ++ rest)) = write sp v ++ rest := by
    rw [skipGap_append gaps, ht, skipGap_of_opens ho]
  rw [text, readMembers, readString_quote]
  simp only [colon, behind, value v rest hv stops len, stops.skipGap_eq, Option.getD_some]
  -- what is left is the look at `rest`
  rfl

lemma ReadsMembers.succ {sp : Spacing} (hsp : sp.Regular) {fuel : Nat}
    (value : ReadsValue sp fuel) (members : ReadsMembers sp fuel) :
    ReadsMembers sp (fuel + 1) := by
  obtain ⟨g, h, between, name, gaps, gaps'⟩ := hsp
  intro ms more hne legible len
  match ms, hne with
  | [(k, v)], _ =>
    have hv : Legible v := legible (k, v) (by simp)
    rw [writeMembers_singleton] at len ⊢
    simp only [List.length_append] at len
    rw [readMembers_cons name gaps' value k hv (by omega) _ (stops_brace more)]
    rfl
  | (k, v) :: m :: rest, _ =>
    have hv : Legible v := legible (k, v) (by simp)
    have legible' : ∀ x ∈ m :: rest, Legible x.2 := fun x hx => legible x (List.mem_cons_of_mem _ hx)
    obtain ⟨t, ht⟩ := opens_head (t := '\x7d' :: more)
      (head?_writeMembers sp (List.cons_ne_nil m rest))
    have tail := members (m :: rest) more (by simp) legible'
    rw [writeMembers_cons_cons, between] at len ⊢
    simp only [List.length_append, List.length_cons] at len
    rw [List.append_assoc, List.append_assoc (_ ++ write sp v), List.cons_append,
      readMembers_cons name gaps' value k hv (by omega) _ (stops_comma _), afterMember,
      skipGap_append gaps, ht, skipGap_of_opens (by decide), ← ht, tail (by omega)]
    rfl

/-- What begins with none of the three opening characters is a word or a number. -/
lemma readValue_scalar (fuel : Nat) {c : Char} (quote : c ≠ '"') (bracket : c ≠ '[')
    (brace : c ≠ '\x7b') (s : List Char) :
    readValue (fuel + 1) (c :: s) = readScalar (c :: s) := by
  rw [readValue]
  · exact fun rest h => quote (List.cons.inj h).1
  · exact fun rest h => bracket (List.cons.inj h).1
  · exact fun rest h => brace (List.cons.inj h).1

/-- A whole number is read back as a value. -/
lemma readValue_intText (fuel : Nat) {n : Int}
    (h : (natText n.natAbs).length ≤ readNumber.maxIntegerDigits) {rest : List Char}
    (stops : Stops rest) :
    readValue (fuel + 1) (intText n ++ rest) = .ok (.integer n, rest) := by
  obtain ⟨c, t, hc, head⟩ := intText_eq_cons n
  have scalar := readScalar_intText h stops
  rw [hc, List.cons_append] at scalar ⊢
  rw [readValue_scalar fuel (head.ne (by decide) (by decide)) (head.ne (by decide) (by decide))
    (head.ne (by decide) (by decide)), scalar]

/-- A real number is read as a value. -/
lemma readValue_realText (fuel : Nat) (x : Binary64) {rest : List Char} (stops : Stops rest) :
    readValue (fuel + 1) ((realText x).toList ++ rest) = .ok ((Json.real x).reread, rest) := by
  obtain ⟨c, t, hc, head⟩ := realText_eq_cons x
  obtain ⟨y, reads⟩ := exists_readScalar_realText x
  have alone := reads [] stops_nil
  rw [List.append_nil] at alone
  have value : (Json.real x).reread = .real y := by rw [reread, rereadReal, alone]
  have scalar := reads rest stops
  rw [hc, List.cons_append] at scalar ⊢
  rw [readValue_scalar fuel (head.ne (by decide) (by decide)) (head.ne (by decide) (by decide))
    (head.ne (by decide) (by decide)), scalar, value]

/-- The items of an array that has some are read between its brackets. -/
lemma readValue_items {sp : Spacing} {fuel : Nat} {vs ws : List Json} {rest : List Char}
    (hne : vs ≠ []) (legible : ∀ v ∈ vs, Legible v)
    (inner : readItems fuel (writeItems sp vs ++ ']' :: rest) = .ok (ws, rest)) :
    readValue (fuel + 1) ('[' :: (writeItems sp vs ++ ']' :: rest)) = .ok (.array ws, rest) := by
  obtain ⟨c, hc, ho⟩ := head?_writeItems sp hne legible
  obtain ⟨t, ht⟩ := opens_head (t := ']' :: rest) hc
  rw [readValue]
  rw [ht] at inner ⊢
  rw [skipGap_of_opens ho]
  split
  next more heq =>
    rw [(List.cons.inj heq).1] at ho
    exact absurd ho (by decide)
  next =>
    rw [inner]
    rfl

/-- The members of an object that has some are read between its braces. -/
lemma readValue_members {sp : Spacing} {fuel : Nat} {ms ns : List (String × Json)}
    {rest : List Char} (hne : ms ≠ [])
    (inner : readMembers fuel (writeMembers sp ms ++ '\x7d' :: rest) = .ok (ns, rest)) :
    readValue (fuel + 1) ('\x7b' :: (writeMembers sp ms ++ '\x7d' :: rest)) =
      .ok (.object ns, rest) := by
  obtain ⟨t, ht⟩ := opens_head (t := '\x7d' :: rest) (head?_writeMembers sp hne)
  rw [readValue]
  rw [ht] at inner ⊢
  rw [skipGap_of_opens (by decide)]
  split
  next more heq => exact absurd (List.cons.inj heq).1 (by decide)
  next =>
    rw [inner]
    rfl

lemma ReadsValue.succ {sp : Spacing} {fuel : Nat} (items : ReadsItems sp fuel)
    (members : ReadsMembers sp fuel) : ReadsValue sp (fuel + 1) := by
  intro v rest legible stops len
  cases legible with
  | null => rfl
  | bool b =>
    cases b with
    | true => rfl
    | false => rfl
  | @integer n h =>
    rw [write_integer]
    exact readValue_intText fuel h stops
  | real x => exact readValue_realText fuel x stops
  | text s =>
    have text : quote s ++ rest = '"' :: (s.toList.flatMap escape ++ '"' :: rest) := by
      simp [quote]
    rw [write_text, text, readValue, readString_quote]
    rfl
  | @array vs legible =>
    rw [write_array] at len ⊢
    simp only [List.length_append, List.length_cons, List.length_nil] at len
    by_cases hne : vs = []
    · subst hne
      rfl
    · have inner := items vs rest hne legible (by omega)
      have text : '[' :: writeItems sp vs ++ [']'] ++ rest =
          '[' :: (writeItems sp vs ++ ']' :: rest) := by simp
      rw [text]
      exact readValue_items hne legible inner
  | @object ms legible =>
    rw [write_object] at len ⊢
    simp only [List.length_append, List.length_cons, List.length_nil] at len
    by_cases hne : ms = []
    · subst hne
      rfl
    · have inner := members ms rest hne legible (by omega)
      have text : '\x7b' :: writeMembers sp ms ++ ['\x7d'] ++ rest =
          '\x7b' :: (writeMembers sp ms ++ '\x7d' :: rest) := by simp
      rw [text]
      exact readValue_members hne inner

/-- **Values, items and members are read** with enough fuel.

**Proof sketch.** Induct on the fuel. Every reader spends one unit on its first character at the
latest, and what it calls has a shorter text to read. -/
theorem reads_back {sp : Spacing} (hsp : sp.Regular) (fuel : Nat) :
    ReadsValue sp fuel ∧ ReadsItems sp fuel ∧ ReadsMembers sp fuel := by
  induction fuel with
  | zero =>
    refine ⟨?_, ?_, ?_⟩
    · intro v rest legible _ len
      obtain ⟨c, hc, -⟩ := head?_write sp legible
      rw [List.eq_nil_of_length_eq_zero (Nat.le_zero.mp len)] at hc
      exact absurd hc (by simp)
    · intro _ _ _ _ len
      omega
    · intro _ _ _ _ len
      omega
  | succ fuel ih =>
    obtain ⟨value, items, members⟩ := ih
    exact ⟨.succ items members, .succ hsp value items, .succ hsp value members⟩

/-! ## Whole texts -/

lemma readAll_write {sp : Spacing} (hsp : sp.Regular) {v : Json} (h : Legible v) :
    readAll (write sp v) = .ok v.reread := by
  have len : (write sp v).length ≤ 2 * (write sp v).length + 2 := by omega
  have value := (reads_back hsp _).1 v [] h stops_nil len
  obtain ⟨c, hc, ho⟩ := head?_write sp h
  obtain ⟨t, ht⟩ := opens_head (t := []) hc
  rw [List.append_nil] at ht value
  have start : skipGap (write sp v) = write sp v := by rw [ht, skipGap_of_opens ho]
  rw [readAll, start, value]
  rfl

/-- **A plain value is read back** from its text without blanks. -/
theorem parse?_compact {v : Json} (h : Plain v) : parse? v.compact = some v := by
  have regular : Spacing.Regular ⟨[','], [':']⟩ := ⟨[], [], rfl, rfl, by simp, by simp⟩
  rw [parse?, compact, String.toList_ofList, readAll_write regular h.legible, h.reread_eq]

/-- **A legible value is read** from its text with a blank behind every comma and colon, and all of
it but its real numbers is read back. -/
theorem parse?_reread {v : Json} (h : Legible v) : parse? v.spaced = some v.reread := by
  have blank : ∀ c ∈ [' '], isGap c = true := fun c hc => by
    rw [List.mem_singleton.mp hc]
    decide
  have regular : Spacing.Regular ⟨[',', ' '], [':', ' ']⟩ := ⟨[' '], [' '], rfl, rfl, blank, blank⟩
  rw [parse?, spaced, String.toList_ofList, readAll_write regular h]

/-- A plain value is read back from its text with a blank behind every comma and colon. -/
theorem parse?_spaced {v : Json} (h : Plain v) : parse? v.spaced = some v := by
  rw [parse?_reread h.legible, h.reread_eq]

/-! ## Well-formed texts -/

lemma wellFormedItems_of_forall {items : List Json} (h : ∀ v ∈ items, v.isWellFormed = true) :
    wellFormedItems items = true := by
  induction items with
  | nil => rfl
  | cons v rest ih =>
    rw [wellFormedItems, h v (by simp), ih fun x hx => h x (by simp [hx])]
    rfl

lemma wellFormedMembers_of_forall {members : List (String × Json)}
    (h : ∀ m ∈ members, m.2.isWellFormed = true) : wellFormedMembers members = true := by
  induction members with
  | nil => rfl
  | cons m rest ih =>
    rw [wellFormedMembers, h m (by simp), ih fun x hx => h x (by simp [hx])]
    rfl

/-- The texts in a plain value are well formed. -/
lemma Plain.isWellFormed {v : Json} (h : Plain v) : v.isWellFormed = true := by
  induction h with
  | null => rfl
  | bool b => rfl
  | integer h => rfl
  | text s => rfl
  | array _ ih => exact wellFormedItems_of_forall ih
  | object _ ih => exact wellFormedMembers_of_forall ih

end CommonPurse.Json
