import CommonPurse.Text.Digit

/-!
# Identifiers

The 128-bit identifiers of accounts, groups, expenses, settlements and events.

## Main definitions

* `CommonPurse.Id` — an identifier.
* `CommonPurse.Id.text` — 32 hexadecimal digits in five groups.
* `CommonPurse.Id.parse?` — reading the four accepted spellings.
-/

namespace CommonPurse

/-- The number of identifiers, `2 ^ 128`. -/
abbrev idCount : Nat := 340282366920938463463374607431768211456

/-- An identifier of 128 bits. -/
structure Id where
  value : Fin idCount
  deriving DecidableEq, Repr, Inhabited

namespace Id

open CommonPurse.Text

/-- The identifier of a natural number, reduced to 128 bits. -/
def ofNat (n : Nat) : Id := ⟨Fin.ofNat idCount n⟩

/-- The identifier that no account ever gets. -/
def nil : Id := ofNat 0

/-- The 32 hexadecimal digits. -/
def hex (i : Id) : List Char := paddedHex 32 i.value.val

/-- The text of an identifier: groups of 8, 4, 4, 4 and 12 digits. -/
def text (i : Id) : String :=
  let h := i.hex
  String.ofList (h.take 8 ++ '-' :: (h.drop 8).take 4 ++ '-' :: (h.drop 12).take 4 ++
    '-' :: (h.drop 16).take 4 ++ '-' :: h.drop 20)

/-- Read exactly 32 hexadecimal digits. -/
def ofHex? (s : List Char) : Option Id :=
  if s.length = 32 then (s.mapM asciiHex?).map fun ds => ofNat (ofDigits 16 ds) else none

/-- Read the five groups with hyphens between them. -/
def ofGroups? (s : List Char) : Option Id :=
  if s.length = 36 ∧ s[8]? = some '-' ∧ s[13]? = some '-' ∧ s[18]? = some '-' ∧
      s[23]? = some '-' then
    ofHex? (s.take 8 ++ (s.drop 9).take 4 ++ (s.drop 14).take 4 ++ (s.drop 19).take 4 ++
      s.drop 24)
  else none

/-- The mark of the form that begins with `urn`. -/
def urnMark : List Char := "urn:uuid:".toList

/-- Read an identifier: bare digits, five groups, groups between braces, or behind
`urn:uuid:`. -/
def parse? (s : String) : Option Id :=
  let cs := s.toList
  if cs.length = 32 then ofHex? cs
  else if cs.length = 38 ∧ cs.head? = some '\x7b' ∧ cs.getLast? = some '\x7d' then
    ofGroups? (cs.drop 1).dropLast
  else if urnMark.isPrefixOf cs then ofGroups? (cs.drop urnMark.length)
  else ofGroups? cs

end Id

end CommonPurse
