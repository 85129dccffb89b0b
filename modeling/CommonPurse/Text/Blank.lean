/-!
# Blank characters

Which characters count as blank, and how a text is trimmed.

## Main definitions

* `CommonPurse.Text.isBlank` — the characters that are trimmed from what people type.
* `CommonPurse.Text.trim` — a list of characters without the blanks at its two ends.
* `CommonPurse.Text.strip` — the same on strings.
-/

namespace CommonPurse.Text

/-- Blank characters: the white space of Unicode and the four separators `U+001C` to `U+001F`. -/
def isBlank (c : Char) : Bool :=
  let n := c.toNat
  (9 ≤ n && n ≤ 13) || (0x1c ≤ n && n ≤ 0x20) || n == 0x85 || n == 0xa0 || n == 0x1680 ||
    (0x2000 ≤ n && n ≤ 0x200a) || n == 0x2028 || n == 0x2029 || n == 0x202f || n == 0x205f ||
    n == 0x3000

/-- Drop the characters of a class from both ends of a list. -/
def trimBy (p : Char → Bool) (s : List Char) : List Char :=
  ((s.dropWhile p).reverse.dropWhile p).reverse

/-- Drop the blanks at both ends. -/
def trim (s : List Char) : List Char :=
  trimBy isBlank s

/-- A string without the blanks at its two ends. -/
def strip (s : String) : String :=
  String.ofList (trim s.toList)

/-- A text is blank when nothing is left of it after trimming. -/
def isBlankText (s : String) : Bool :=
  s.toList.all isBlank

/-- White space as Unicode defines it: the blanks less the four separators. -/
def isWhiteSpace (c : Char) : Bool :=
  isBlank c && !(0x1c ≤ c.toNat && c.toNat ≤ 0x1f)

/-- Drop a class of characters from the right end. -/
def trimRightBy (p : Char → Bool) (s : List Char) : List Char :=
  (s.reverse.dropWhile p).reverse

end CommonPurse.Text
