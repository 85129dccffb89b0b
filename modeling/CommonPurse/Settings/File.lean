import CommonPurse.Text.Blank

/-!
# Settings files

A settings file holds a name and a value on each line, with an equals sign between them. Values
may stand between quotes, and may mention other values by a name in braces behind a dollar sign.
A line that cannot be read is passed over.

## Main definitions

* `CommonPurse.Settings.File.bindings` — the names in a file with their values.
* `CommonPurse.Settings.File.resolve` — the values with what they mention filled in.
-/

namespace CommonPurse.Settings.File

open CommonPurse.Text

/-- A name and its value, if it has one. -/
abbrev Binding := String × Option String

/-! ## Lines -/

/-- Every end of a line as a single character. -/
def plainLines : List Char → List Char
  | [] => []
  | '\r' :: '\n' :: rest => '\n' :: plainLines rest
  | '\r' :: rest => '\n' :: plainLines rest
  | c :: rest => c :: plainLines rest

/-- Blanks within a line. -/
def isGap (c : Char) : Bool := isBlank c && c != '\n' && c != '\r'

/-- What is behind the blanks within a line. -/
def skipGap (s : List Char) : List Char := s.dropWhile isGap

/-- What is behind the end of the line. -/
def dropLine (s : List Char) : List Char := (s.dropWhile (· ≠ '\n')).drop 1

/-- What is behind the word that marks a name for others. -/
def dropExport (s : List Char) : List Char :=
  let word := "export".toList
  let rest := s.drop word.length
  if word.isPrefixOf s ∧ (rest.head?.any isGap) then skipGap rest else s

/-- What is behind a comment, which may be missing, and the end of the line; nothing when
something else stands there. -/
def finishLine (s : List Char) : Option (List Char) :=
  let rest := match skipGap s with
    | '#' :: more => more.dropWhile (· ≠ '\n')
    | rest => rest
  match rest with
  | [] => some []
  | '\n' :: more => some more
  | _ => none

/-! ## Names -/

/-- Whether a character can stand in a plain name. -/
def isNameChar (c : Char) : Bool := c != '=' && c != '#' && !isBlank c

/-- A name, or nothing in front of a comment; and what is behind it. -/
def readName (s : List Char) : Option (Option (List Char) × List Char) :=
  match s with
  | '#' :: _ => some (none, s)
  | '\'' :: rest =>
    let name := rest.takeWhile (· ≠ '\'')
    match rest.dropWhile (· ≠ '\'') with
    | _ :: more => if name.isEmpty then none else some (some name, more)
    | [] => none
  | _ =>
    let name := s.takeWhile isNameChar
    if name.isEmpty then none else some (some name, s.dropWhile isNameChar)

/-! ## Values -/

/-- A text up to the first quote without a backslash in front of it, and what is behind it. -/
def splitQuote (quote : Char) : List Char → Option (List Char × List Char)
  | [] => none
  | ['\\'] => none
  | '\\' :: c :: rest =>
    if c = quote then (splitQuote quote rest).map fun p => ('\\' :: c :: p.1, p.2)
    else (splitQuote quote (c :: rest)).map fun p => ('\\' :: p.1, p.2)
  | c :: rest =>
    if c = quote then some ([], rest) else (splitQuote quote rest).map fun p => (c :: p.1, p.2)

/-- A text up to the last quote with a backslash in front of it, and what is behind it. -/
def splitLastQuote (quote : Char) : List Char → Option (List Char × List Char)
  | [] => none
  | ['\\'] => none
  | '\\' :: c :: rest =>
    if c = quote then
      match splitLastQuote quote rest with
      | some p => some ('\\' :: c :: p.1, p.2)
      | none => some (['\\'], rest)
    else (splitLastQuote quote (c :: rest)).map fun p => ('\\' :: p.1, p.2)
  | c :: rest => (splitLastQuote quote rest).map fun p => (c :: p.1, p.2)

/-- A quoted text and what is behind it. A quote with a backslash in front of it ends the text
only when no other one does. -/
def readQuoted (quote : Char) (s : List Char) : Option (List Char × List Char) :=
  (splitQuote quote s).or (splitLastQuote quote s)

/-- The character that a letter behind a backslash stands for between double quotes. -/
def escaped? (c : Char) : Option Char :=
  if c = '\\' ∨ c = '\'' ∨ c = '"' then some c
  else if c = 'a' then some (Char.ofNat 7)
  else if c = 'b' then some (Char.ofNat 8)
  else if c = 'f' then some (Char.ofNat 12)
  else if c = 'n' then some '\n'
  else if c = 'r' then some '\r'
  else if c = 't' then some '\t'
  else if c = 'v' then some (Char.ofNat 11)
  else none

/-- The character that a quote or a backslash behind a backslash stands for between single
quotes. -/
def singleEscaped? (c : Char) : Option Char :=
  if c = '\\' ∨ c = '\'' then some c else none

/-- A text with its escapes replaced by what they stand for. -/
def unescape (known : Char → Option Char) : List Char → List Char
  | [] => []
  | ['\\'] => ['\\']
  | '\\' :: c :: rest =>
    match known c with
    | some x => x :: unescape known rest
    | none => '\\' :: unescape known (c :: rest)
  | c :: rest => c :: unescape known rest

/-- A text up to a comment that has a blank in front of it. -/
def beforeComment (afterBlank : Bool) : List Char → List Char
  | [] => []
  | c :: rest => if c = '#' ∧ afterBlank then [] else c :: beforeComment (isBlank c) rest

/-- A value and what is behind it. -/
def readValue (s : List Char) : Option (List Char × List Char) :=
  match s with
  | '\'' :: rest => (readQuoted '\'' rest).map fun p => (unescape singleEscaped? p.1, p.2)
  | '"' :: rest => (readQuoted '"' rest).map fun p => (unescape escaped? p.1, p.2)
  | _ =>
    let line := s.takeWhile (· ≠ '\n')
    some (trimRightBy isBlank (beforeComment false line), s.dropWhile (· ≠ '\n'))

/-! ## Bindings -/

/-- What is read of a line: a name and its value, and what is behind the line. Where reading
fails, the rest is what is left from there on. -/
def readLine (s : List Char) : Except (List Char) (Option Binding × List Char) :=
  let start := dropExport s
  match readName start with
  | none => .error start
  | some (name, rest) =>
    let rest := skipGap rest
    let value : Except (List Char) (Option (List Char) × List Char) :=
      match rest with
      | '=' :: more =>
        match readValue (skipGap more) with
        | some (v, more) => .ok (some v, more)
        | none => .error (skipGap more)
      | _ => .ok (none, rest)
    match value with
    | .error rest => .error rest
    | .ok (v, rest) =>
      match finishLine rest with
      | some more => .ok (name.map fun n => (String.ofList n, v.map String.ofList), more)
      | none => .error rest

/-- The bindings of a text; each step uses at least one character, and `fuel` of them are left. -/
def readLines : Nat → List Char → List Binding
  | 0, _ => []
  | fuel + 1, s =>
    match s.dropWhile isBlank with
    | [] => []
    | c :: rest =>
      match readLine (c :: rest) with
      | .ok (some b, more) => b :: readLines fuel more
      | .ok (none, more) => readLines fuel more
      | .error more => readLines fuel (dropLine more)

/-- The bindings of a file in their order. -/
def bindings (text : String) : List Binding :=
  let s := plainLines text.toList
  readLines (s.length + 1) s

/-! ## Mentions -/

/-- What a name stands for: the value in the file, else the one around the file. A name in the
file without a value stands for nothing. -/
def valueOf (around : List (String × String)) (known : List Binding) (name : String) :
    Option String :=
  match known.reverse.find? (·.1 == name) with
  | some b => some (b.2.getD "")
  | none => (around.reverse.find? (·.1 == name)).map (·.2)

/-- Split off a mention behind a dollar sign and a brace: the name, what stands in for a missing
value, and what is behind the closing brace. -/
def splitMention (s : List Char) : Option (List Char × List Char × List Char) :=
  let name := s.takeWhile fun c => c ≠ '\x7d' ∧ c ≠ ':'
  match s.dropWhile fun c => c ≠ '\x7d' ∧ c ≠ ':' with
  | '\x7d' :: rest => some (name, [], rest)
  | ':' :: '-' :: rest =>
    match rest.dropWhile (· ≠ '\x7d') with
    | _ :: more => some (name, rest.takeWhile (· ≠ '\x7d'), more)
    | [] => none
  | _ => none

/-- A value with what it mentions filled in; each step uses at least one character, and `fuel` of
them are left. -/
def fillIn (look : String → Option String) : Nat → List Char → List Char
  | 0, _ => []
  | _ + 1, [] => []
  | fuel + 1, '$' :: '\x7b' :: rest =>
    match splitMention rest with
    | some (name, usual, more) =>
      ((look (String.ofList name)).getD (String.ofList usual)).toList ++ fillIn look fuel more
    | none => '$' :: fillIn look fuel ('\x7b' :: rest)
  | fuel + 1, c :: rest => c :: fillIn look fuel rest

/-- Fill in what a binding mentions. -/
def resolveOne (around : List (String × String)) (known : List Binding) (b : Binding) : Binding :=
  (b.1, b.2.map fun v =>
    String.ofList (fillIn (valueOf around known) (v.length + 1) v.toList))

/-- Bindings with what they mention filled in: values that come earlier in the file, and values
from around the file. -/
def resolve (around : List (String × String)) (bs : List Binding) : List Binding :=
  bs.foldl (fun known b => known ++ [resolveOne around known b]) []

end CommonPurse.Settings.File
