/-!
# Decimal digits

The decimal digits of every script. The digits of a script are ten consecutive characters in
ascending order, so a table of zeros is enough.

## Main definitions

* `CommonPurse.Text.digitZeros` — the zero of every script that has decimal digits.
* `CommonPurse.Text.digitValue?` — the value of a decimal digit of any script.
* `CommonPurse.Text.hexValue?` — the same with the letters `a` to `f` in either case.
* `CommonPurse.Text.asciiDigit?` — the value of one of the ten characters `0` to `9`.
-/

namespace CommonPurse.Text

/-- The code points of the zeros of all scripts. -/
def digitZeros : List Nat := [
  0x30, 0x660, 0x6f0, 0x7c0, 0x966, 0x9e6, 0xa66, 0xae6, 0xb66, 0xbe6,
  0xc66, 0xce6, 0xd66, 0xde6, 0xe50, 0xed0, 0xf20, 0x1040, 0x1090, 0x17e0,
  0x1810, 0x1946, 0x19d0, 0x1a80, 0x1a90, 0x1b50, 0x1bb0, 0x1c40, 0x1c50, 0xa620,
  0xa8d0, 0xa900, 0xa9d0, 0xa9f0, 0xaa50, 0xabf0, 0xff10, 0x104a0, 0x10d30, 0x11066,
  0x110f0, 0x11136, 0x111d0, 0x112f0, 0x11450, 0x114d0, 0x11650, 0x116c0, 0x11730, 0x118e0,
  0x11950, 0x11c50, 0x11d50, 0x11da0, 0x16a60, 0x16ac0, 0x16b50, 0x1d7ce, 0x1d7d8, 0x1d7e2,
  0x1d7ec, 0x1d7f6, 0x1e140, 0x1e2f0, 0x1e950, 0x1fbf0]

/-- The value of a decimal digit of any script. -/
def digitValue? (c : Char) : Option Nat :=
  (digitZeros.find? fun z => z ≤ c.toNat && c.toNat ≤ z + 9).map (c.toNat - ·)

/-- The value of a hexadecimal digit: a decimal digit of any script or a letter `a` to `f`. -/
def hexValue? (c : Char) : Option Nat :=
  if 'a' ≤ c ∧ c ≤ 'f' then some (c.toNat - 'a'.toNat + 10)
  else if 'A' ≤ c ∧ c ≤ 'F' then some (c.toNat - 'A'.toNat + 10)
  else digitValue? c

/-- The value of one of the ten characters `0` to `9`. -/
def asciiDigit? (c : Char) : Option Nat :=
  if '0' ≤ c ∧ c ≤ '9' then some (c.toNat - '0'.toNat) else none

/-- The value of an ASCII hexadecimal digit. -/
def asciiHex? (c : Char) : Option Nat :=
  if 'a' ≤ c ∧ c ≤ 'f' then some (c.toNat - 'a'.toNat + 10)
  else if 'A' ≤ c ∧ c ≤ 'F' then some (c.toNat - 'A'.toNat + 10)
  else asciiDigit? c

/-- The character of a digit below sixteen, in lower case. -/
def digitChar (d : Nat) : Char :=
  if d < 10 then Char.ofNat ('0'.toNat + d) else Char.ofNat ('a'.toNat + (d - 10))

/-- The number that a list of digits writes in a base, most significant digit first. -/
def ofDigits (base : Nat) (digits : List Nat) : Nat :=
  digits.foldl (fun n d => base * n + d) 0

/-- The decimal text of a number: no leading zeros, and `0` for zero. -/
def natText (n : Nat) : List Char :=
  (Nat.toDigits 10 n)

/-- The decimal text of a number, filled up with zeros on the left. -/
def padded (width n : Nat) : List Char :=
  let t := natText n
  List.replicate (width - t.length) '0' ++ t

/-- The hexadecimal text of a number in lower case, filled up with zeros on the left. -/
def paddedHex (width n : Nat) : List Char :=
  let t := Nat.toDigits 16 n
  List.replicate (width - t.length) '0' ++ t

/-- The decimal text of an integer, with a minus sign when it is negative. -/
def intText (n : Int) : List Char :=
  if n < 0 then '-' :: natText n.natAbs else natText n.natAbs

end CommonPurse.Text
