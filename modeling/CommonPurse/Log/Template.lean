import CommonPurse.Log.Value
import CommonPurse.Number.Rounded

/-!
# Message templates

A template is a text with fields that begin with a percent sign. A field may have a name in
parentheses, flags, a width and a number of places, and ends with a letter that says how its
argument is written. It is first split into pieces; the pieces are then filled from left to right,
so that the leftmost fault is the one that is told.

## Main definitions

* `CommonPurse.Log.Template.Piece` — a piece of a template.
* `CommonPurse.Log.Template.Fault` — why a template cannot be filled.
* `CommonPurse.Log.Template.fill` — a template filled with arguments.
-/

namespace CommonPurse.Log.Template

open CommonPurse.Text

/-! ## Pieces -/

/-- The flags of a field. -/
structure Flags where
  left : Bool
  plus : Bool
  blank : Bool
  zero : Bool
  alternate : Bool
  deriving DecidableEq, Repr, Inhabited

/-- A width or a number of places: left out, given, or taken from the arguments. -/
inductive Measure where
  | absent
  | given (n : Nat)
  | argument
  deriving DecidableEq, Repr, Inhabited

/-- A field. The letter is missing when the template ends before it; `index` is where the letter
stands. -/
structure Field where
  name : Option String
  flags : Flags
  width : Measure
  places : Measure
  letter : Option Char
  index : Nat
  deriving DecidableEq, Repr, Inhabited

/-- A piece of a template: a character, a field, or a name that is not closed. -/
inductive Piece where
  | plain (c : Char)
  | field (f : Field)
  | openName
  deriving DecidableEq, Repr, Inhabited

/-- The flag characters. -/
def isFlag (c : Char) : Bool := c == '-' || c == '+' || c == ' ' || c == '0' || c == '#'

/-- The flags that characters stand for. -/
def flagsOf (cs : List Char) : Flags :=
  ⟨cs.contains '-', cs.contains '+', cs.contains ' ', cs.contains '0', cs.contains '#'⟩

/-- The name up to the parenthesis that closes it, and what follows. Parentheses inside the name
come in pairs; `depth` of them are open. -/
def splitName : Nat → List Char → Option (List Char × List Char)
  | _, [] => none
  | depth, c :: rest =>
    if c = ')' then
      match depth with
      | 0 => some ([], rest)
      | d + 1 => (splitName d rest).map fun p => (c :: p.1, p.2)
    else (splitName (if c = '(' then depth + 1 else depth) rest).map fun p => (c :: p.1, p.2)

/-- Whether a character is a decimal digit. -/
def isFigure (c : Char) : Bool := (asciiDigit? c).isSome

/-- A width, and what follows. -/
def splitMeasure : List Char → Measure × List Char
  | '*' :: rest => (.argument, rest)
  | s =>
    let ds := s.takeWhile isFigure
    (if ds.isEmpty then .absent else .given (ofDigits 10 (ds.filterMap asciiDigit?)),
      s.dropWhile isFigure)

/-- A number of places behind a point, and what follows. -/
def splitPlaces : List Char → Measure × List Char
  | '.' :: rest =>
    match splitMeasure rest with
    | (.absent, rest) => (.given 0, rest)
    | r => r
  | s => (.absent, s)

/-- Drop a letter that tells the size of an argument. -/
def dropSize : List Char → List Char
  | c :: rest => if c = 'h' ∨ c = 'l' ∨ c = 'L' then rest else c :: rest
  | [] => []

/-- The field behind a percent sign and a name, and what follows. -/
def splitField (total : Nat) (name : Option String) (s : List Char) : Field × List Char :=
  let flags := flagsOf (s.takeWhile isFlag)
  let (width, s) := splitMeasure (s.dropWhile isFlag)
  let (places, s) := splitPlaces s
  match dropSize s with
  | [] => (⟨name, flags, width, places, none, total⟩, [])
  | c :: rest => (⟨name, flags, width, places, some c, total - rest.length - 1⟩, rest)

/-- The pieces of a template of `total` characters; each step uses at least one character, and
`fuel` of them are left. -/
def pieces (total : Nat) : Nat → List Char → List Piece
  | 0, _ => []
  | _ + 1, [] => []
  | fuel + 1, '%' :: '%' :: rest => .plain '%' :: pieces total fuel rest
  | fuel + 1, '%' :: '(' :: rest =>
    match splitName 0 rest with
    | none => [.openName]
    | some (name, rest) =>
      match splitField total (some (String.ofList name)) rest with
      | (f, rest) => .field f :: pieces total fuel rest
  | fuel + 1, '%' :: rest =>
    match splitField total none rest with
    | (f, rest) => .field f :: pieces total fuel rest
  | fuel + 1, c :: rest => .plain c :: pieces total fuel rest

/-! ## Faults -/

/-- Why a template cannot be filled. -/
inductive Fault where
  | tooFew
  | tooMany
  | noNames
  | unknownName (name : String)
  | openName
  | unfinished
  | unknownLetter (c : Char) (index : Nat)
  | notNumber (c : Char) (kind : String)
  | notWhole (c : Char) (kind : String)
  | notReal (kind : String)
  | notCharacter
  | noSuchCharacter
  | notCount
  | notFinite (what : String)
  | noNumber (what : String)
  | tooLarge
  deriving DecidableEq, Repr, Inhabited

/-- What is said about a fault. -/
def Fault.message : Fault → String
  | .tooFew => "not enough arguments for format string"
  | .tooMany => "not all arguments converted during string formatting"
  | .noNames => "format requires a mapping"
  | .unknownName name => quoted name
  | .openName => "incomplete format key"
  | .unfinished => "incomplete format"
  | .unknownLetter c index =>
    let seen := if 31 ≤ c.toNat ∧ c.toNat ≤ 126 then c else '?'
    "unsupported format character '" ++ String.singleton seen ++ "' (0x" ++
      String.ofList (paddedHex 1 c.toNat) ++ ") at index " ++ String.ofList (natText index)
  | .notNumber c kind =>
    "%" ++ String.singleton c ++ " format: a real number is required, not " ++ kind
  | .notWhole c kind =>
    "%" ++ String.singleton c ++ " format: an integer is required, not " ++ kind
  | .notReal kind => "must be real number, not " ++ kind
  | .notCharacter => "%c requires int or char"
  | .noSuchCharacter => "%c arg not in range(0x110000)"
  | .notCount => "* wants int"
  | .notFinite what => "cannot convert " ++ what ++ " to integer"
  | .noNumber what => "cannot convert " ++ what
  | .tooLarge => "int too large to convert to float"

/-- The word for the kind of a value. -/
def kindOf : Value → String
  | .null => "NoneType"
  | .bool _ => "bool"
  | .integer _ => "int"
  | .real _ => "float"
  | .text _ => "str"
  | .id _ => "UUID"
  | .decimal _ => "decimal.Decimal"
  | .timestamp _ => "datetime.datetime"
  | .array _ => "list"
  | .object _ => "dict"
  | .byId _ => "dict"

/-! ## Arguments as numbers -/

/-- The whole part of a quotient, toward zero. -/
def wholePart (p : Int) (q : Nat) : Int := p.tdiv q

/-- An argument as a whole number, of which the fraction is dropped. -/
def toWhole (c : Char) : Value → Except Fault Int
  | .integer n => .ok n
  | .bool b => .ok (if b then 1 else 0)
  | .real x =>
    match x with
    | .finite _ _ _ => .ok (wholePart x.toRatio.1 x.toRatio.2)
    | .infinite _ => .error (.notFinite "float infinity")
    | .nan => .error (.noNumber "float NaN to integer")
  | .decimal d =>
    match d with
    | .finite n k e =>
      let size : Int := if 0 ≤ e then (k * tenTo e.toNat : Nat) else (k / tenTo (-e).toNat : Nat)
      .ok (if n then -size else size)
    | .infinite _ => .error (.notFinite "Infinity")
    | _ => .error (.noNumber "NaN to integer")
  | .id i => .ok i.value.val
  | v => .error (.notNumber c (kindOf v))

/-- An argument that must be a whole number. -/
def toExactWhole (c : Char) : Value → Except Fault Int
  | .integer n => .ok n
  | .bool b => .ok (if b then 1 else 0)
  | v => .error (.notWhole c (kindOf v))

/-- A whole number as a real one. -/
def realOfInt (n : Int) : Except Fault Binary64 :=
  let x := Binary64.ofInt n
  if x.isFinite then .ok x else .error .tooLarge

/-- An argument as a real number. -/
def toReal : Value → Except Fault Binary64
  | .real x => .ok x
  | .integer n => realOfInt n
  | .bool b => realOfInt (if b then 1 else 0)
  | .decimal d =>
    match d with
    | .finite n k e => .ok (Binary64.ofDecimal n k e)
    | .infinite n => .ok (.infinite n)
    | .nan _ s _ => if s then .error (.noNumber "signaling NaN to float") else .ok .nan
  | v => .error (.notReal (kindOf v))

/-- An argument as a single character. -/
def toCharacter : Value → Except Fault Char
  | .text s =>
    match s.toList with
    | [c] => .ok c
    | _ => .error .notCharacter
  | .integer n =>
    if 0 ≤ n ∧ n < 0x110000 then .ok (Char.ofNat n.toNat) else .error .noSuchCharacter
  | .bool b => .ok (Char.ofNat (if b then 1 else 0))
  | _ => .error .notCharacter

/-! ## Writing fields -/

/-- A text filled up with blanks to a width. -/
def padText (f : Flags) (width : Nat) (s : List Char) : List Char :=
  let fill := List.replicate (width - s.length) ' '
  if f.left then s ++ fill else fill ++ s

/-- A number filled up to a width: with zeros behind its sign and its mark, or with blanks. -/
def padNumber (f : Flags) (width : Nat) (sign mark digits : List Char) : List Char :=
  if f.zero ∧ !f.left then
    let used := sign.length + mark.length + digits.length
    sign ++ mark ++ List.replicate (width - used) '0' ++ digits
  else padText f width (sign ++ mark ++ digits)

/-- The sign of a number. -/
def signOf (f : Flags) (negative : Bool) : List Char :=
  if negative then ['-'] else if f.plus then ['+'] else if f.blank then [' '] else []

/-- Letters in upper case. -/
def upperCase (s : List Char) : List Char := s.map Char.toUpper

/-- A whole number to a base, with at least `places` digits. -/
def writeWhole (f : Flags) (width places base : Nat) (mark : List Char) (n : Int) : List Char :=
  let ds := Nat.toDigits base n.natAbs
  padNumber f width (signOf f (n < 0)) (if f.alternate then mark else [])
    (List.replicate (places - ds.length) '0' ++ ds)

/-- A real number in the form that a letter stands for. -/
def writeReal (f : Flags) (width : Nat) (places : Option Nat) (c : Char) (x : Binary64) :
    List Char :=
  let n := places.getD 6
  let digits :=
    if c = 'f' ∨ c = 'F' then x.fixed n f.alternate
    else if c = 'e' ∨ c = 'E' then x.exponential n f.alternate
    else x.general n f.alternate
  padNumber f width (signOf f x.isNegative) [] (if c.isUpper then upperCase digits else digits)

/-- A text in which only plain characters are left as they are. -/
def asciiOnly (s : List Char) : List Char :=
  s.flatMap fun c =>
    let n := c.toNat
    if n < 0x80 then [c]
    else if n ≤ 0xff then '\\' :: 'x' :: paddedHex 2 n
    else if n ≤ 0xffff then '\\' :: 'u' :: paddedHex 4 n
    else '\\' :: 'U' :: paddedHex 8 n

/-- A text, cut to a number of places if there is one. -/
def writeText (f : Flags) (width : Nat) (places : Option Nat) (s : List Char) : List Char :=
  padText f width (match places with
    | some n => s.take n
    | none => s)

/-- An argument as the letter of a field says. -/
def write (f : Flags) (width : Nat) (places : Option Nat) (c : Char) (index : Nat) (v : Value) :
    Except Fault (List Char) :=
  let least := places.getD 0
  match c with
  | 's' => .ok (writeText f width places v.plainShown.toList)
  | 'r' => .ok (writeText f width places v.shown.toList)
  | 'a' => .ok (writeText f width places (asciiOnly v.shown.toList))
  | 'c' => (toCharacter v).map fun x => padText f width [x]
  | 'd' => (toWhole c v).map (writeWhole f width least 10 [])
  | 'i' => (toWhole c v).map (writeWhole f width least 10 [])
  | 'u' => (toWhole c v).map (writeWhole f width least 10 [])
  | 'o' => (toExactWhole c v).map (writeWhole f width least 8 ['0', 'o'])
  | 'x' => (toExactWhole c v).map (writeWhole f width least 16 ['0', 'x'])
  | 'X' => (toExactWhole c v).map fun n => upperCase (writeWhole f width least 16 ['0', 'x'] n)
  | _ =>
    if ['e', 'E', 'f', 'F', 'g', 'G'].contains c then (toReal v).map (writeReal f width places c)
    else .error (.unknownLetter c index)

/-! ## Filling templates -/

/-- The arguments that are left: those to be taken in their order, and those that have names. -/
structure Supply where
  next : List Value
  named : Option (List (String × Value))
  deriving Inhabited

/-- Take the next argument. -/
def Supply.take (s : Supply) : Except Fault (Value × Supply) :=
  match s.next with
  | [] => .error .tooFew
  | v :: rest => .ok (v, { s with next := rest })

/-- Make the argument with a name the next one. -/
def Supply.select (name : Option String) (s : Supply) : Except Fault Supply :=
  match name with
  | none => .ok s
  | some k =>
    match s.named with
    | none => .error .noNames
    | some ms =>
      match ms.find? (·.1 == k) with
      | some m => .ok { s with next := [m.2] }
      | none => .error (.unknownName k)

/-- A measure, taken from the arguments if need be. -/
def Supply.measure (m : Measure) (s : Supply) : Except Fault (Option Int × Supply) :=
  match m with
  | .absent => .ok (none, s)
  | .given n => .ok (some n, s)
  | .argument =>
    match s.take with
    | .error e => .error e
    | .ok (.integer n, s) => .ok (some n, s)
    | .ok (.bool b, s) => .ok (some (if b then 1 else 0), s)
    | .ok _ => .error .notCount

/-- Fill a field. A negative width turns the field to the left, and a negative number of places
counts as zero. -/
def fillField (f : Field) (s : Supply) : Except Fault (List Char × Supply) := do
  let s ← s.select f.name
  let (width, s) ← s.measure f.width
  let (places, s) ← s.measure f.places
  match f.letter with
  | none => .error .unfinished
  | some c =>
    let (v, s) ← s.take
    let w := width.getD 0
    let flags := if w < 0 then { f.flags with left := true } else f.flags
    let text ← write flags w.natAbs (places.map Int.toNat) c f.index v
    return (text, s)

/-- Fill pieces from left to right. -/
def fillPieces : List Piece → Supply → Except Fault (List Char)
  | [], s => if s.named.isNone ∧ !s.next.isEmpty then .error .tooMany else .ok []
  | .plain c :: rest, s => (fillPieces rest s).map (c :: ·)
  | .openName :: _, s => .error (if s.named.isNone then .noNames else .openName)
  | .field f :: rest, s =>
    match fillField f s with
    | .error e => .error e
    | .ok (text, s) => (fillPieces rest s).map (text ++ ·)

/-- The supply of arguments: a single object that is not empty names the arguments. -/
def supplyOf : List Value → Supply
  | [.object (m :: ms)] => ⟨[.object (m :: ms)], some (m :: ms)⟩
  | args => ⟨args, none⟩

/-- A template filled with arguments. Without arguments it stands for itself. -/
def fill (template : String) (args : List Value) : Except Fault String :=
  if args.isEmpty then .ok template
  else
    let s := template.toList
    (fillPieces (pieces s.length (s.length + 1) s) (supplyOf args)).map String.ofList

end CommonPurse.Log.Template
