import CommonPurse.Text.Letter.Table

/-!
# Letter case

The lower-case form of a text and its capitalised form, with the full mappings of Unicode.

## Main definitions

* `CommonPurse.Text.lower` — the lower-case form; a sigma that ends a word takes its final form.
* `CommonPurse.Text.capitalize` — the first character in title case and the rest in lower case.
-/

namespace CommonPurse.Text

/-- Look a code point up in ranges with a step and an offset. -/
def shiftIn (ranges : List (Nat × Nat × Nat × Int)) (n : Nat) : Option Nat :=
  (ranges.find? fun r => r.1 ≤ n && n ≤ r.2.1 && (n - r.1) % r.2.2.1 == 0).map
    fun r => ((n : Int) + r.2.2.2).toNat

/-- Whether one of the inclusive ranges holds the code point. -/
def inRanges (ranges : List (Nat × Nat)) (n : Nat) : Bool :=
  ranges.any fun r => r.1 ≤ n && n ≤ r.2

/-- Whether the nearest character that is not looked through is a cased letter. -/
def meetsCased : List Char → Bool
  | [] => false
  | c :: rest =>
    if inRanges caseIgnorableRanges c.toNat then meetsCased rest
    else inRanges casedRanges c.toNat

/-- The lower-case form of one character between the characters before it, nearest first, and
those after it. -/
def lowerBetween (before : List Char) (c : Char) (after : List Char) : List Char :=
  if c.toNat = 0x3a3 then
    [if meetsCased before && !meetsCased after then Char.ofNat 0x3c2 else Char.ofNat 0x3c3]
  else if c.toNat = 0x130 then ['i', Char.ofNat 0x307]
  else
    match shiftIn lowerRanges c.toNat with
    | some n => [Char.ofNat n]
    | none => [c]

/-- The lower-case form of the characters behind those in `before`, nearest first. -/
def lowerFrom (before : List Char) : List Char → List Char
  | [] => []
  | c :: after => lowerBetween before c after ++ lowerFrom (c :: before) after

/-- The lower-case form of a string. -/
def lower (s : String) : String :=
  String.ofList (lowerFrom [] s.toList)

/-- The title-case form of one character. -/
def titleForm (c : Char) : List Char :=
  match titleExpansions.find? (·.1 == c.toNat) with
  | some (_, ns) => ns.map Char.ofNat
  | none =>
    match shiftIn titleRanges c.toNat with
    | some n => [Char.ofNat n]
    | none => [c]

/-- A string whose first character is in title case and whose other characters are in lower
case. -/
def capitalize (s : String) : String :=
  match s.toList with
  | [] => ""
  | c :: rest => String.ofList (titleForm c ++ lowerFrom [c] rest)

end CommonPurse.Text
