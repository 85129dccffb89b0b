import CommonPurse.Text.Digit
import CommonPurse.Text.Printable

/-!
# Quoted text

How a text is shown inside a message: between quotes, with escapes for what cannot be seen.

## Main definitions

* `CommonPurse.Text.escape` — how one character is written between quotes.
* `CommonPurse.Text.quoted` — a text between quotes.
-/

namespace CommonPurse.Text

/-- The quote in use: the single one, or the double one when the text has single quotes only. -/
def quoteFor (s : List Char) : Char :=
  if s.contains '\'' && !s.contains '"' then '"' else '\''

/-- A character between quotes: the quote and the backslash are escaped, and so is whatever is
not printable. -/
def escape (quote c : Char) : List Char :=
  if c = quote ∨ c = '\\' then ['\\', c]
  else if c = '\n' then ['\\', 'n']
  else if c = '\r' then ['\\', 'r']
  else if c = '\t' then ['\\', 't']
  else if isPrintable c then [c]
  else if c.toNat ≤ 0xff then '\\' :: 'x' :: paddedHex 2 c.toNat
  else if c.toNat ≤ 0xffff then '\\' :: 'u' :: paddedHex 4 c.toNat
  else '\\' :: 'U' :: paddedHex 8 c.toNat

/-- A text between quotes. -/
def quoted (s : String) : String :=
  let q := quoteFor s.toList
  String.ofList (q :: s.toList.flatMap (escape q) ++ [q])

end CommonPurse.Text
