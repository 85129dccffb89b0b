import CommonPurse.Json

/-!
# Reading JSON

A reader of JSON texts that says where a text stops being JSON. Besides the standard it knows the
three words `NaN`, `Infinity` and `-Infinity`.

## Main definitions

* `CommonPurse.Json.Fault` — why a text is not JSON.
* `CommonPurse.Json.parse` — the value of a text, or the fault and its position.
* `CommonPurse.Json.parse?` — the value of a text, if it has one.
-/

namespace CommonPurse.Json

open CommonPurse.Text

/-- Why a text is not JSON. -/
inductive Fault where
  | expectingValue
  | expectingName
  | expectingColon
  | expectingComma
  | unterminated
  | controlCharacter
  | badEscape
  | extraData
  | longInteger
  deriving DecidableEq, Repr

/-- A fault and the number of characters left from where it was found. -/
structure Failure where
  fault : Fault
  left : Nat
  deriving DecidableEq, Repr

/-- What a reader has found and the characters behind it. -/
abbrev Found (α : Type) := Except Failure (α × List Char)

/-- Fail with as many characters left as a list has. -/
def fault {α : Type} (f : Fault) (rest : List Char) : Except Failure α :=
  .error ⟨f, rest.length⟩

/-- The blanks that JSON allows. -/
def isGap (c : Char) : Bool := c == ' ' || c == '\t' || c == '\n' || c == '\r'

/-- Drop leading blanks. -/
def skipGap (s : List Char) : List Char := s.dropWhile isGap

/-- Whether a character is one of the ten digits. -/
def isDigit (c : Char) : Bool := (asciiDigit? c).isSome

/-- The number that plain digits write. -/
def digitsValue (s : List Char) : Nat := ofDigits 10 (s.filterMap asciiDigit?)

/-! ## Strings -/

/-- One unit of a string: a character, or half of a surrogate pair. -/
inductive Piece where
  | char (c : Char)
  | half (unit : Nat)
  deriving DecidableEq

/-- The character of a high and a low half. -/
def joinHalves (high low : Nat) : Char :=
  Char.ofNat (0x10000 + (high - 0xd800) * 0x400 + (low - 0xdc00))

/-- Join neighbouring halves; `none` when a half stands alone. -/
def joinPieces : List Piece → Option (List Char)
  | [] => some []
  | .char c :: rest => (joinPieces rest).map (c :: ·)
  | .half high :: .half low :: rest =>
    if high < 0xdc00 ∧ 0xdc00 ≤ low then (joinPieces rest).map (joinHalves high low :: ·)
    else none
  | .half _ :: _ => none

/-- The piece of a code unit. -/
def pieceOf (n : Nat) : Piece :=
  if 0xd800 ≤ n ∧ n ≤ 0xdfff then .half n else .char (Char.ofNat n)

/-- The character of a one-letter escape. -/
def shortEscape? (c : Char) : Option Char :=
  if c = '"' ∨ c = '\\' ∨ c = '/' then some c
  else if c = 'b' then some (Char.ofNat 8)
  else if c = 'f' then some (Char.ofNat 12)
  else if c = 'n' then some '\n'
  else if c = 'r' then some '\r'
  else if c = 't' then some '\t'
  else none

/-- The code unit of four hexadecimal digits. -/
def unit? (a b c d : Char) : Option Nat :=
  match asciiHex? a, asciiHex? b, asciiHex? c, asciiHex? d with
  | some a, some b, some c, some d => some (((a * 16 + b) * 16 + c) * 16 + d)
  | _, _, _, _ => none

/-- Read the pieces of a string up to its closing quote. `whole` is the number of characters left
at the opening quote, where an unterminated string is reported. -/
def readPieces (whole : Nat) : List Char → Found (List Piece)
  | [] => .error ⟨.unterminated, whole⟩
  | '"' :: rest => .ok ([], rest)
  | '\\' :: rest =>
    match rest with
    | [] => .error ⟨.unterminated, whole⟩
    | 'u' :: a :: b :: c :: d :: more =>
      match unit? a b c d with
      | none => fault .badEscape rest
      | some n =>
        if more.isEmpty then fault .badEscape rest
        else (readPieces whole more).map fun r => (pieceOf n :: r.1, r.2)
    | 'u' :: _ => fault .badEscape rest
    | e :: more =>
      match shortEscape? e with
      | none => fault .badEscape ('\\' :: rest)
      | some c => (readPieces whole more).map fun r => (.char c :: r.1, r.2)
  | c :: rest =>
    if c.toNat < 0x20 then fault .controlCharacter (c :: rest)
    else (readPieces whole rest).map fun r => (.char c :: r.1, r.2)

/-- Read a string behind its opening quote; `none` when it holds half of a surrogate pair. -/
def readString (s : List Char) : Found (Option String) :=
  (readPieces (s.length + 1) s).map fun r => ((joinPieces r.1).map String.ofList, r.2)

/-! ## Numbers -/

/-- Split off an exponent, if there is a complete one: its value and the rest. -/
def splitExponent : List Char → Option (Int × List Char)
  | e :: rest =>
    if e = 'e' ∨ e = 'E' then
      let (negative, body) : Bool × List Char :=
        match rest with
        | '-' :: more => (true, more)
        | '+' :: more => (false, more)
        | more => (false, more)
      let ds := body.takeWhile isDigit
      if ds.isEmpty then none
      else
        let n := digitsValue ds
        some (if negative then -(n : Int) else n, body.dropWhile isDigit)
    else none
  | [] => none

/-- Split off a fraction, if there is one: its digits and the rest. -/
def splitFraction : List Char → List Char × List Char
  | '.' :: d :: rest =>
    if isDigit d then ((d :: rest).takeWhile isDigit, (d :: rest).dropWhile isDigit)
    else ([], '.' :: d :: rest)
  | s => ([], s)

/-- Split off the whole part of a number: a zero, or digits that begin with another one. -/
def splitWhole : List Char → List Char × List Char
  | '0' :: rest => (['0'], rest)
  | s => (s.takeWhile isDigit, s.dropWhile isDigit)

/-- Read a number; `start` is the text from its sign on, where a missing number is reported. -/
def readNumber (start : List Char) : Found Json :=
  let (negative, body) : Bool × List Char :=
    match start with
    | '-' :: more => (true, more)
    | more => (false, more)
  let (whole, rest) := splitWhole body
  if whole.isEmpty then fault .expectingValue start
  else
    let (part, rest) := splitFraction rest
    match splitExponent rest with
    | some (e, rest) =>
      .ok (.real (Binary64.ofDecimal negative (digitsValue (whole ++ part)) (e - part.length)), rest)
    | none =>
      if part.isEmpty then
        if maxIntegerDigits < whole.length then fault .longInteger start
        else
          let n := digitsValue whole
          .ok (.integer (if negative then -(n : Int) else n), rest)
      else
        .ok (.real (Binary64.ofDecimal negative (digitsValue (whole ++ part)) (-(part.length : Int))),
          rest)
where
  /-- The longest whole number that is read, in digits. -/
  maxIntegerDigits : Nat := 4300

/-! ## Values -/

/-- What stands behind a word at the beginning of a text. -/
def afterWord? (word s : List Char) : Option (List Char) :=
  if word.isPrefixOf s then some (s.drop word.length) else none

/-- Read one of the words or a number. -/
def readScalar (s : List Char) : Found Json :=
  match afterWord? "null".toList s with
  | some rest => .ok (.null, rest)
  | none =>
  match afterWord? "true".toList s with
  | some rest => .ok (.bool true, rest)
  | none =>
  match afterWord? "false".toList s with
  | some rest => .ok (.bool false, rest)
  | none =>
  match afterWord? "NaN".toList s with
  | some rest => .ok (.real .nan, rest)
  | none =>
  match afterWord? "Infinity".toList s with
  | some rest => .ok (.real (.infinite false), rest)
  | none =>
  match afterWord? "-Infinity".toList s with
  | some rest => .ok (.real (.infinite true), rest)
  | none => readNumber s

mutual

/-- Read a value at the very beginning of a text. -/
def readValue : Nat → List Char → Found Json
  | 0, s => fault .expectingValue s
  | fuel + 1, s =>
    match s with
    | '"' :: rest =>
      (readString rest).map fun r =>
        (match r.1 with
          | some t => .text t
          | none => .brokenText, r.2)
    | '[' :: rest =>
      match skipGap rest with
      | ']' :: more => .ok (.array [], more)
      | more => (readItems fuel more).map fun r => (.array r.1, r.2)
    | '\x7b' :: rest =>
      match skipGap rest with
      | '\x7d' :: more => .ok (.object [], more)
      | more => (readMembers fuel more).map fun r => (.object r.1, r.2)
    | s => readScalar s

/-- Read the items of an array up to its closing bracket. -/
def readItems : Nat → List Char → Found (List Json)
  | 0, s => fault .expectingValue s
  | fuel + 1, s =>
    match readValue fuel s with
    | .error e => .error e
    | .ok (v, rest) =>
      match skipGap rest with
      | ']' :: more => .ok ([v], more)
      | ',' :: more => (readItems fuel (skipGap more)).map fun r => (v :: r.1, r.2)
      | more => fault .expectingComma more

/-- Read the members of an object up to its closing brace. -/
def readMembers : Nat → List Char → Found (List (String × Json))
  | 0, s => fault .expectingName s
  | fuel + 1, s =>
    match s with
    | '"' :: rest =>
      match readString rest with
      | .error e => .error e
      | .ok (name, rest) =>
        match skipGap rest with
        | ':' :: more =>
          match readValue fuel (skipGap more) with
          | .error e => .error e
          | .ok (v, rest) =>
            let m := (name.getD (String.singleton (Char.ofNat 0xfffd)), v)
            match skipGap rest with
            | '\x7d' :: more => .ok ([m], more)
            | ',' :: more => (readMembers fuel (skipGap more)).map fun r => (m :: r.1, r.2)
            | more => fault .expectingComma more
        | more => fault .expectingColon more
    | s => fault .expectingName s

end

/-- Read a whole text: one value with nothing but blanks around it. -/
def readAll (s : List Char) : Except Failure Json :=
  match readValue (2 * s.length + 2) (skipGap s) with
  | .error e => .error e
  | .ok (v, rest) =>
    match skipGap rest with
    | [] => .ok v
    | more => fault .extraData more

/-- The value of a text, or the fault and the position where it was found. -/
def parse (s : String) : Except (Fault × Nat) Json :=
  match readAll s.toList with
  | .ok v => .ok v
  | .error e => .error (e.fault, s.toList.length - e.left)

/-- The value of a text, if it is JSON. -/
def parse? (s : String) : Option Json :=
  match readAll s.toList with
  | .ok v => some v
  | .error _ => none

end CommonPurse.Json
