import CommonPurse.Text.Digit
import CommonPurse.Text.Utf8

/-!
# Values in the query of an address

How a text is written as a value behind the question mark of an address.

## Main definitions

* `CommonPurse.Text.queryText` — the escaped form of a text.
-/

namespace CommonPurse.Text

/-- Whether a byte stands for itself: letters, digits and four marks. -/
def isPlainByte (b : UInt8) : Bool :=
  let n := b.toNat
  (0x30 ≤ n && n ≤ 0x39) || (0x41 ≤ n && n ≤ 0x5a) || (0x61 ≤ n && n ≤ 0x7a) ||
    n == 0x2d || n == 0x2e || n == 0x5f || n == 0x7e

/-- The escaped form of a byte: a plus for a blank, and two upper-case digits behind a percent
sign for all that does not stand for itself. -/
def queryByte (b : UInt8) : List Char :=
  if isPlainByte b then [Char.ofNat b.toNat]
  else if b.toNat = 0x20 then ['+']
  else '%' :: (paddedHex 2 b.toNat).map Char.toUpper

/-- The escaped form of a text. -/
def queryText (s : String) : String :=
  String.ofList (s.toUTF8.toList.flatMap queryByte)

end CommonPurse.Text
