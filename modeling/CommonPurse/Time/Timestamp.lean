import CommonPurse.Number.Binary64
import CommonPurse.Text.Digit
import CommonPurse.Time.Calendar

/-!
# Timestamps

Points in time to the microsecond, as a wall clock reading with or without its distance from
universal time.

## Main definitions

* `CommonPurse.Timestamp` — a wall clock reading and, when it is known, its offset.
* `CommonPurse.Timestamp.isoText` — the text with a numeric offset.
* `CommonPurse.Timestamp.zuluText` — the text in documents, with `Z` for universal time.
* `CommonPurse.Timestamp.parse?` — reading what documents may hold.
-/

namespace CommonPurse

/-- A wall clock reading in microseconds since the beginning of 1970, and the offset of that
clock from universal time in seconds. -/
structure Timestamp where
  wall : Int
  offset : Option Int
  deriving DecidableEq, Repr, Inhabited

namespace Timestamp

open CommonPurse.Text

/-- Microseconds in a second. -/
def second : Int := 1000000

/-- Microseconds in a day. -/
def day : Int := 86400 * second

/-- A reading of a clock that shows universal time. -/
def utc (wall : Int) : Timestamp := ⟨wall, some 0⟩

/-- The instant in microseconds since the beginning of 1970 in universal time; a clock of unknown
offset is taken to show universal time. -/
def instant (t : Timestamp) : Int :=
  t.wall - t.offset.getD 0 * second

/-- A timestamp some microseconds later. -/
def plus (t : Timestamp) (micros : Int) : Timestamp := ⟨t.wall + micros, t.offset⟩

/-! ## Writing -/

/-- The date of a timestamp. -/
def dateText (t : Timestamp) : List Char :=
  let (y, m, d) := Calendar.civil (Int.fdiv t.wall day)
  padded 4 y.toNat ++ '-' :: padded 2 m ++ '-' :: padded 2 d

/-- The time of day to the second, and the microseconds behind it. -/
def clockText (t : Timestamp) : List Char × Nat :=
  let rest := (Int.fmod t.wall day).toNat
  let s := rest / 1000000
  (padded 2 (s / 3600) ++ ':' :: padded 2 (s / 60 % 60) ++ ':' :: padded 2 (s % 60), rest % 1000000)

/-- The time of day, with six decimals when the microseconds are not zero. -/
def timeText (t : Timestamp) : List Char :=
  let (clock, micros) := clockText t
  if micros = 0 then clock else clock ++ '.' :: padded 6 micros

/-- An offset as a signed number of hours and minutes, and of seconds when there are any. -/
def offsetText (offset : Int) : List Char :=
  let n := offset.natAbs
  (if offset < 0 then '-' else '+') :: padded 2 (n / 3600) ++ ':' :: padded 2 (n / 60 % 60) ++
    (if n % 60 = 0 then [] else ':' :: padded 2 (n % 60))

/-- A timestamp with a separator between date and time and a text for the offset. -/
def textWith (separator : Char) (zone : Int → List Char) (t : Timestamp) : String :=
  String.ofList (dateText t ++ separator :: timeText t ++
    match t.offset with
    | none => []
    | some o => zone o)

/-- The text with a numeric offset. -/
def isoText (t : Timestamp) : String := textWith 'T' offsetText t

/-- The text with a space between date and time. -/
def plainText (t : Timestamp) : String := textWith ' ' offsetText t

/-- The text that documents hold: `Z` stands for universal time. -/
def zuluText (t : Timestamp) : String :=
  textWith 'T' (fun o => if o = 0 then ['Z'] else offsetText o) t

/-! ## Reading -/

/-- Read a number of exactly `n` plain digits. -/
def takeDigits : Nat → List Char → Option (Nat × List Char)
  | n, s =>
    let ds := (s.take n).filterMap asciiDigit?
    if ds.length = n then some (ofDigits 10 ds, s.drop n) else none

/-- Drop one expected character. -/
def expect (p : Char → Bool) : List Char → Option (List Char)
  | [] => none
  | c :: rest => if p c then some rest else none

/-- Read a date with its three numbers. -/
def takeDate (s : List Char) : Option (Int × List Char) := do
  let (y, s) ← takeDigits 4 s
  let s ← expect (· == '-') s
  let (m, s) ← takeDigits 2 s
  let s ← expect (· == '-') s
  let (d, s) ← takeDigits 2 s
  if Calendar.isDay y m d then some (Calendar.dayNumber y m d, s) else none

/-- The microseconds that the digits behind a point write; digits beyond the sixth are dropped. -/
def fractionMicros (ds : List Nat) : Nat :=
  ofDigits 10 ((ds ++ List.replicate 6 0).take 6)

/-- Read the decimals of a second, if there are any. -/
def takeFraction : List Char → Option (Nat × List Char)
  | c :: rest =>
    if c = '.' ∨ c = ',' then
      let ds := (rest.takeWhile fun c => (asciiDigit? c).isSome).filterMap asciiDigit?
      if ds.isEmpty then none
      else some (fractionMicros ds, rest.dropWhile fun c => (asciiDigit? c).isSome)
    else some (0, c :: rest)
  | [] => some (0, [])

/-- Read a time of day: hours and minutes, and seconds if they are there. -/
def takeTime (s : List Char) : Option (Int × List Char) := do
  let (h, s) ← takeDigits 2 s
  let s ← expect (· == ':') s
  let (m, s) ← takeDigits 2 s
  if 23 < h ∨ 59 < m then none
  else
    match s with
    | ':' :: rest =>
      let (sec, rest) ← takeDigits 2 rest
      let (micros, rest) ← takeFraction rest
      if 59 < sec then none
      else some (((h * 3600 + m * 60 + sec) * 1000000 + micros : Nat), rest)
    | _ => some (((h * 3600 + m * 60) * 1000000 : Nat), s)

/-- Whether a character is a minus sign. -/
def isMinus (c : Char) : Bool := c == '-' || c.toNat == 0x2212

/-- Read an offset that ends the text: `Z`, or signed hours and minutes. -/
def readOffset : List Char → Option (Option Int)
  | [] => some none
  | c :: rest =>
    if c = 'Z' ∨ c = 'z' then if rest.isEmpty then some (some 0) else none
    else if c = '+' ∨ isMinus c then do
      let (h, s) ← takeDigits 2 rest
      let s := match s with
        | ':' :: more => more
        | more => more
      let (m, s) ← takeDigits 2 s
      if s.isEmpty ∧ h ≤ 23 ∧ m ≤ 59 then
        let n : Int := ((h * 3600 + m * 60 : Nat) : Int)
        some (some (if c = '+' then n else -n))
      else none
    else none

/-- Whether a character may stand between date and time. -/
def isSeparator (c : Char) : Bool := c == 'T' || c == 't' || c == ' ' || c == '_'

/-- Read a full timestamp. -/
def parseFull? (s : List Char) : Option Timestamp := do
  let (d, s) ← takeDate s
  let s ← expect isSeparator s
  let (t, s) ← takeTime s
  let o ← readOffset s
  some ⟨d * day + t, o⟩

/-- Seconds beyond which a bare number counts milliseconds. -/
def secondsLimit : Int := 20000000000

/-- The first second that a bare number may name, the first of January 1600. -/
def firstSecond : Int := -11676096000

/-- The last second that a bare number may name, at the end of year 9999. -/
def lastSecond : Int := 253402300799

/-- The instant that a whole number and some microseconds name: seconds since 1970, or
milliseconds when the number is too large for seconds. -/
def ofNumber? (n : Int) (micros : Nat) : Option Timestamp :=
  if n < -9223372036854775807 ∨ 9223372036854775807 < n then none
  else
    let total : Int :=
      if n.natAbs ≤ secondsLimit.natAbs then n * second + micros else n * 1000 + micros
    let s := Int.fdiv total second
    if s < firstSecond ∨ lastSecond < s then none else some (utc total)

/-- The instant that a number with a fraction names: the whole number below it, and behind it the
microseconds of the fraction without its sign. -/
def ofReal? (x : Binary64) : Option Timestamp :=
  match x with
  | .finite _ _ _ =>
    let (p, q) := x.toRatio
    let whole := Int.fdiv p q
    let part := p.natAbs % q
    let scaled := (Binary64.ofRatio false part q).mul (Binary64.ofInt 1000000)
    let (r, u) := scaled.toRatio
    ofNumber? whole ((2 * r.natAbs + u) / (2 * u))
  | _ => none

/-- Read a bare number of seconds or milliseconds: a sign, digits, and perhaps a fraction. -/
def parseNumber? (s : List Char) : Option Timestamp :=
  let (negative, body) : Bool × List Char :=
    match s with
    | '-' :: more => (true, more)
    | '+' :: more => (false, more)
    | more => (false, more)
  let isDigit (c : Char) : Bool := (asciiDigit? c).isSome
  let whole := body.takeWhile isDigit
  let value (ds : List Char) : Nat := ofDigits 10 (ds.filterMap asciiDigit?)
  if whole.isEmpty then none
  else
    match body.dropWhile isDigit with
    | [] => ofNumber? (if negative then -(value whole : Int) else value whole) 0
    | '.' :: part =>
      if part.isEmpty ∨ !part.all isDigit then none
      else ofReal? (Binary64.ofDecimal negative (value (whole ++ part)) (-(part.length : Int)))
    | _ => none

/-- Read a bare date: midnight on a clock of unknown offset. -/
def parseDate? (s : List Char) : Option Timestamp :=
  match takeDate s with
  | some (d, []) => some ⟨d * day, none⟩
  | _ => none

/-- Read the timestamp of a document: in full, as a bare number, or as a bare date. -/
def parse? (s : String) : Option Timestamp :=
  ((parseFull? s.toList).or (parseNumber? s.toList)).or (parseDate? s.toList)

end Timestamp

end CommonPurse
