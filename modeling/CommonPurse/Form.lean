import CommonPurse.Id
import CommonPurse.Json
import CommonPurse.Number.Decimal
import CommonPurse.Text.Numeral
import CommonPurse.Text.Path
import CommonPurse.Time.Timestamp

/-!
# Filling in forms

How the fields of documents, requests and settings are filled from loosely typed values: what
each type of field accepts, and what is said about a value that it does not accept.

## Main definitions

* `CommonPurse.Form.Fault` — why a value does not fit a field, with `code` and `message`.
* `CommonPurse.Form.Mode` — whether a value comes from a parsed document or from JSON text.
* `CommonPurse.Form.text`, `integer`, `flag`, `real`, `path`, `choice`, `decimal`, `timestamp`,
  `identifier` — the fields.
* `CommonPurse.Form.Checked` — a value, or the number of faults that stand in its way.
-/

namespace CommonPurse.Form

open CommonPurse.Text

/-! ## Faults -/

/-- Why a value does not fit a field. -/
inductive Fault where
  | missing
  | notText
  | brokenText
  | tooShort (least : Nat)
  | tooLong (most : Nat)
  | noMatch (pattern : String)
  | notChoice (choices : List String)
  | notFlag
  | unclearFlag
  | notInteger
  | unreadableInteger
  | oversizedInteger
  | fractional
  | notFinite
  | notReal
  | unreadableReal
  | below (bound : String)
  | above (bound : String)
  | notDecimal
  | unreadableDecimal
  | notId
  | unreadableId
  | notTimestamp
  | unreadableTimestamp
  | notPath
  | notRecord
  | notInstance (of : String)
  | badJson
  deriving DecidableEq, Repr

/-- A plural ending. -/
def plural (n : Nat) : String := if n = 1 then "" else "s"

/-- A list of choices in words. -/
def choiceText : List String → String
  | [] => ""
  | [a] => "'" ++ a ++ "'"
  | [a, b] => "'" ++ a ++ "' or '" ++ b ++ "'"
  | a :: rest => "'" ++ a ++ "', " ++ choiceText rest

/-- The short name of a fault. -/
def Fault.code : Fault → String
  | .missing => "missing"
  | .notText => "string_type"
  | .brokenText => "string_unicode"
  | .tooShort _ => "string_too_short"
  | .tooLong _ => "string_too_long"
  | .noMatch _ => "string_pattern_mismatch"
  | .notChoice _ => "literal_error"
  | .notFlag => "bool_type"
  | .unclearFlag => "bool_parsing"
  | .notInteger => "int_type"
  | .unreadableInteger => "int_parsing"
  | .oversizedInteger => "int_parsing_size"
  | .fractional => "int_from_float"
  | .notFinite => "finite_number"
  | .notReal => "float_type"
  | .unreadableReal => "float_parsing"
  | .below _ => "greater_than_equal"
  | .above _ => "less_than_equal"
  | .notDecimal => "decimal_type"
  | .unreadableDecimal => "decimal_parsing"
  | .notId => "uuid_type"
  | .unreadableId => "uuid_parsing"
  | .notTimestamp => "datetime_type"
  | .unreadableTimestamp => "datetime_parsing"
  | .notPath => "path_type"
  | .notRecord => "model_attributes_type"
  | .notInstance _ => "model_type"
  | .badJson => "json_invalid"

/-- What is said about a fault. -/
def Fault.message : Fault → String
  | .missing => "Field required"
  | .notText => "Input should be a valid string"
  | .brokenText =>
    "Input should be a valid string, unable to parse raw data as a unicode string"
  | .tooShort n => s!"String should have at least {n} character" ++ plural n
  | .tooLong n => s!"String should have at most {n} character" ++ plural n
  | .noMatch p => "String should match pattern '" ++ p ++ "'"
  | .notChoice cs => "Input should be " ++ choiceText cs
  | .notFlag => "Input should be a valid boolean"
  | .unclearFlag => "Input should be a valid boolean, unable to interpret input"
  | .notInteger => "Input should be a valid integer"
  | .unreadableInteger =>
    "Input should be a valid integer, unable to parse string as an integer"
  | .oversizedInteger => "Unable to parse input string as an integer, exceeded maximum size"
  | .fractional => "Input should be a valid integer, got a number with a fractional part"
  | .notFinite => "Input should be a finite number"
  | .notReal => "Input should be a valid number"
  | .unreadableReal => "Input should be a valid number, unable to parse string as a number"
  | .below b => "Input should be greater than or equal to " ++ b
  | .above b => "Input should be less than or equal to " ++ b
  | .notDecimal => "Decimal input should be an integer, float, string or Decimal object"
  | .unreadableDecimal => "Input should be a valid decimal"
  | .notId => "UUID input should be a string, bytes or UUID object"
  | .unreadableId => "Input should be a valid UUID"
  | .notTimestamp => "Input should be a valid datetime"
  | .unreadableTimestamp => "Input should be a valid datetime or date"
  | .notPath => "Input is not a valid path"
  | .notRecord => "Input should be a valid dictionary or object to extract fields from"
  | .notInstance c => "Input should be a valid dictionary or instance of " ++ c
  | .badJson => "JSON decode error"

/-! ## Fields -/

/-- Whether a value is taken from a parsed document or from JSON text; the two differ in the
digits that a number with a fraction has. -/
inductive Mode where
  | document
  | jsonText
  deriving DecidableEq, Repr

/-- A field that holds a text. Half of a surrogate pair is refused here in every field. The service
refuses it where a field bounds or parses its text, and takes it for names, titles, colours and
hashes in the bodies of requests, whose events cannot be written then; what is said about requests
leaves such bodies out. -/
def text : Json → Except Fault String
  | .text s => .ok s
  | .brokenText => .error .brokenText
  | _ => .error .notText

/-- A text whose length lies between two bounds. -/
def boundedText (least most : Option Nat) (s : String) : Except Fault String :=
  match least with
  | some n =>
    if s.length < n then .error (.tooShort n)
    else
      match most with
      | some m => if m < s.length then .error (.tooLong m) else .ok s
      | none => .ok s
  | none =>
    match most with
    | some m => if m < s.length then .error (.tooLong m) else .ok s
    | none => .ok s

/-- Drop a point and the zeros behind it, if that is all there is behind the last point. -/
def dropZeroPart (s : List Char) : List Char :=
  match s.reverse.dropWhile (· == '0') with
  | '.' :: rest => rest.reverse
  | _ => s

/-- Read an integer that is written loosely: white space around it, a sign, leading zeros, single
underscores between digits, and a fraction of zeros. -/
def looseInteger? (s : List Char) : Option Int :=
  let (negative, body) := splitSign (trimBy isWhiteSpace s)
  (digits? asciiDigit? (dropZeroPart body)).map fun ds => signed negative (ofDigits 10 ds)

/-- A field that holds an integer: a whole number, a flag, a real number without a fraction, or
the text of an integer. -/
def integer : Json → Except Fault Int
  | .integer n => .ok n
  | .bool b => .ok (if b then 1 else 0)
  | .real x =>
    match x with
    | .finite _ _ _ =>
      let (p, q) := x.toRatio
      if p % q = 0 then .ok (p / q) else .error .fractional
    | _ => .error .notFinite
  | .text s =>
    if 4300 < s.length then .error .oversizedInteger
    else
      match looseInteger? s.toList with
      | some n => .ok n
      | none => .error .unreadableInteger
  | _ => .error .notInteger

/-- An integer between two bounds. -/
def boundedInteger (least most : Option Int) (n : Int) : Except Fault Int :=
  let tooHigh := match most with
    | some m => decide (m < n)
    | none => false
  let tooLow := match least with
    | some m => decide (n < m)
    | none => false
  if tooHigh then .error (.above (String.ofList (intText (most.getD 0))))
  else if tooLow then .error (.below (String.ofList (intText (least.getD 0))))
  else .ok n

/-- The words for true. -/
def trueWords : List String := ["1", "on", "t", "true", "y", "yes"]

/-- The words for false. -/
def falseWords : List String := ["0", "off", "f", "false", "n", "no"]

/-- A field that holds a flag: a truth value, one of the words in any case, or the numbers zero
and one. -/
def flag : Json → Except Fault Bool
  | .bool b => .ok b
  | .text s =>
    let w := s.map Char.toLower
    if trueWords.contains w then .ok true
    else if falseWords.contains w then .ok false
    else .error .unclearFlag
  | .integer n => if n = 1 then .ok true else if n = 0 then .ok false else .error .unclearFlag
  | .real x =>
    let (p, q) := x.toRatio
    if x.isFinite && p == q then .ok true
    else if x.isFinite && p == 0 then .ok false
    else .error .notFlag
  | _ => .error .notFlag

/-- A text that is one of several. -/
def choice (choices : List String) : Json → Except Fault String
  | .text s => if choices.contains s then .ok s else .error (.notChoice choices)
  | _ => .error (.notChoice choices)

/-- A field that may be null. -/
def nullable {α : Type} (read : Json → Except Fault α) : Json → Except Fault (Option α)
  | .null => .ok none
  | v => (read v).map some

/-- The words for what is no finite number. -/
def specialReal? (s : List Char) : Option Binary64 :=
  let (negative, body) := splitSign s
  let word := String.ofList (body.map Char.toLower)
  if word = "inf" ∨ word = "infinity" then some (.infinite negative)
  else if word = "nan" then some .nan
  else none

/-- Read digits with a point and an exponent; there is a digit on one side of the point. -/
def plainReal? (s : List Char) : Option Binary64 :=
  let isFigure (c : Char) : Bool := (asciiDigit? c).isSome
  let (negative, body) := splitSign s
  let whole := body.takeWhile isFigure
  let (part, rest) := match body.dropWhile isFigure with
    | '.' :: rest => (rest.takeWhile isFigure, rest.dropWhile isFigure)
    | rest => ([], rest)
  let exponent := match rest with
    | [] => some 0
    | e :: rest =>
      let (minus, ds) := splitSign rest
      if (e = 'e' ∨ e = 'E') ∧ ds ≠ [] ∧ ds.all isFigure then
        some (signed minus (ofDigits 10 (ds.filterMap asciiDigit?)))
      else none
  if whole.isEmpty ∧ part.isEmpty then none
  else exponent.map fun e =>
    Binary64.ofDecimal negative (ofDigits 10 ((whole ++ part).filterMap asciiDigit?))
      (e - part.length)

/-- Read a real number. -/
def bareReal? (s : List Char) : Option Binary64 := (specialReal? s).or (plainReal? s)

/-- A text without underscores, each of which must stand between two other characters. -/
def withoutUnderscores? (s : List Char) : Option (List Char) :=
  match s with
  | [] => some []
  | ['_'] => none
  | '_' :: '_' :: _ => none
  | c :: rest => (withoutUnderscores? rest).map fun r => if c = '_' then r else c :: r

/-- Read a real number that is written loosely: with white space around it, or with single
underscores inside. -/
def looseReal? (s : List Char) : Option Binary64 :=
  match bareReal? (trimBy isWhiteSpace s) with
  | some x => some x
  | none =>
    if s.head? = some '_' then none
    else (withoutUnderscores? s).bind fun t => if t.length < s.length then bareReal? t else none

/-- A field that holds a real number: a number, a flag, or the text of a number. -/
def real : Json → Except Fault Binary64
  | .real x => .ok x
  | .integer n => .ok (Binary64.ofInt n)
  | .bool b => .ok (Binary64.ofInt (if b then 1 else 0))
  | .text s =>
    match looseReal? s.toList with
    | some x => .ok x
    | none => .error .unreadableReal
  | _ => .error .notReal

/-- A real number between two bounds. -/
def boundedReal (least most : Option Binary64) (x : Binary64) : Except Fault Binary64 :=
  match most.filter (·.lt x) with
  | some b => .error (.above b.plainText)
  | none =>
    match least.filter (x.lt ·) with
    | some b => .error (.below b.plainText)
    | none => .ok x

/-- A field that holds a path. -/
def path : Json → Except Fault String
  | .text s => .ok (plainPath s)
  | _ => .error .notPath

/-- A decimal from the value of a field. -/
def decimalText (mode : Mode) : Json → Except Fault String
  | .text s => .ok s
  | .integer n => .ok (String.ofList (intText n))
  | .real x => .ok (match mode with
    | .document => x.text
    | .jsonText => x.plainText)
  | .brokenText => .error .unreadableDecimal
  | _ => .error .notDecimal

/-- A field that holds a finite decimal: its text, or a number. -/
def decimal (mode : Mode) (v : Json) : Except Fault Decimal :=
  match decimalText mode v with
  | .error e => .error e
  | .ok s =>
    match Decimal.parse? s with
    | none => .error .unreadableDecimal
    | some d => if d.isFinite then .ok d else .error .notFinite

/-- A field that holds a timestamp: its text, or a number of seconds or milliseconds. -/
def timestamp : Json → Except Fault Timestamp
  | .text s =>
    match Timestamp.parse? s with
    | some t => .ok t
    | none => .error .unreadableTimestamp
  | .integer n =>
    match Timestamp.ofNumber? n 0 with
    | some t => .ok t
    | none => .error .unreadableTimestamp
  | .real x =>
    match Timestamp.ofReal? x with
    | some t => .ok t
    | none => .error .unreadableTimestamp
  | .brokenText => .error .unreadableTimestamp
  | _ => .error .notTimestamp

/-- A field that holds an identifier. -/
def identifier : Json → Except Fault Id
  | .text s =>
    match Id.parse? s with
    | some i => .ok i
    | none => .error .unreadableId
  | .brokenText => .error .unreadableId
  | _ => .error .notId

/-! ## Counting faults -/

/-- The result of filling in a form: a value, or how many faults were found. -/
inductive Checked (α : Type) where
  | ok (value : α)
  | faulty (count : Nat)
  deriving Repr

namespace Checked

/-- Change the value. -/
def map {α β : Type} (f : α → β) : Checked α → Checked β
  | ok a => ok (f a)
  | faulty n => faulty n

/-- Join two results; the faults of both are counted. -/
def and {α β : Type} : Checked α → Checked β → Checked (α × β)
  | ok a, ok b => ok (a, b)
  | ok _, faulty n => faulty n
  | faulty n, ok _ => faulty n
  | faulty n, faulty k => faulty (n + k)

/-- Combine two results. -/
def map2 {α β γ : Type} (f : α → β → γ) (a : Checked α) (b : Checked β) : Checked γ :=
  (a.and b).map fun p => f p.1 p.2

/-- Combine three results. -/
def map3 {α β γ δ : Type} (f : α → β → γ → δ) (a : Checked α) (b : Checked β) (c : Checked γ) :
    Checked δ :=
  (a.and (b.and c)).map fun p => f p.1 p.2.1 p.2.2

/-- A single field: its value or one fault. -/
def ofField {α : Type} : Except Fault α → Checked α
  | .ok a => ok a
  | .error _ => faulty 1

/-- Fill in every element of a list. -/
def list {α β : Type} (f : α → Checked β) : List α → Checked (List β)
  | [] => ok []
  | a :: rest => map2 (· :: ·) (f a) (list f rest)

end Checked

end CommonPurse.Form
