/-!
# UTF-8

Reading bytes as text. A malformed stretch of bytes is taken as short as possible, so that each
such stretch stands for one replacement character.

## Main definitions

* `CommonPurse.Text.scanUtf8` — the characters of a byte sequence, `none` for a malformed stretch.
* `CommonPurse.Text.decodeUtf8?` — strict reading.
* `CommonPurse.Text.decodeUtf8Lossy` — reading with `U+FFFD` for what is malformed.
-/

namespace CommonPurse.Text

/-- What a leading byte contributes, and the ranges in which the bytes behind it must lie. -/
def leadByte? (b : UInt8) : Option (Nat × List (UInt8 × UInt8)) :=
  let n := b.toNat
  if n < 0x80 then some (n, [])
  else if n < 0xc2 then none
  else if n < 0xe0 then some (n - 0xc0, [(0x80, 0xbf)])
  else if n = 0xe0 then some (0, [(0xa0, 0xbf), (0x80, 0xbf)])
  else if n = 0xed then some (0xd, [(0x80, 0x9f), (0x80, 0xbf)])
  else if n < 0xf0 then some (n - 0xe0, [(0x80, 0xbf), (0x80, 0xbf)])
  else if n = 0xf0 then some (0, [(0x90, 0xbf), (0x80, 0xbf), (0x80, 0xbf)])
  else if n < 0xf4 then some (n - 0xf0, [(0x80, 0xbf), (0x80, 0xbf), (0x80, 0xbf)])
  else if n = 0xf4 then some (4, [(0x80, 0x8f), (0x80, 0xbf), (0x80, 0xbf)])
  else none

/-- Take continuation bytes as long as they lie in their ranges. The value is `none` when one is
missing. -/
def takeContinuation (value : Nat) : List (UInt8 × UInt8) → List UInt8 → Option Nat × List UInt8
  | [], bytes => (some value, bytes)
  | _ :: _, [] => (none, [])
  | r :: ranges, b :: bytes =>
    if r.1 ≤ b && b ≤ r.2 then takeContinuation (64 * value + (b.toNat - 0x80)) ranges bytes
    else (none, b :: bytes)

/-- Taking continuation bytes never adds bytes. -/
theorem takeContinuation_length_le (value : Nat) (ranges : List (UInt8 × UInt8))
    (bytes : List UInt8) : (takeContinuation value ranges bytes).2.length ≤ bytes.length := by
  induction ranges generalizing value bytes with
  | nil => simp [takeContinuation]
  | cons r ranges ih =>
    cases bytes with
    | nil => simp [takeContinuation]
    | cons b bytes =>
      simp only [takeContinuation]
      split
      · exact Nat.le_trans (ih _ _) (Nat.le_succ _)
      · simp

/-- The characters of a byte sequence, with `none` for each shortest malformed stretch. -/
def scanUtf8 : List UInt8 → List (Option Char)
  | [] => []
  | b :: bytes =>
    match leadByte? b with
    | none => none :: scanUtf8 bytes
    | some (value, ranges) =>
      (takeContinuation value ranges bytes).1.map Char.ofNat ::
        scanUtf8 (takeContinuation value ranges bytes).2
termination_by bytes => bytes.length
decreasing_by
  · simp
  · have := takeContinuation_length_le value ranges bytes
    simp only [List.length_cons]
    omega

/-- The text of a well-formed byte sequence. -/
def decodeUtf8? (bytes : List UInt8) : Option String :=
  ((scanUtf8 bytes).mapM id).map String.ofList

/-- The text of any byte sequence, with `U+FFFD` for each malformed stretch. -/
def decodeUtf8Lossy (bytes : List UInt8) : String :=
  String.ofList ((scanUtf8 bytes).map fun c => c.getD (Char.ofNat 0xfffd))

end CommonPurse.Text
