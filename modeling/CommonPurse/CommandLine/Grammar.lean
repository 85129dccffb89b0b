import CommonPurse.Text.Digit
import CommonPurse.Text.Numeral
import CommonPurse.Text.Quoted

/-!
# The grammar of command lines

The words behind the name of a program are options, values of options, and operands. Options begin
with a hyphen; two hyphens alone end them. What does not fit is answered with a complaint, and a
request for help with a description.

## Main definitions

* `CommonPurse.CommandLine.Usage` — the options, the operand and the commands that are understood.
* `CommonPurse.CommandLine.Misuse` — what does not fit.
* `CommonPurse.CommandLine.Usage.help` — the description of a usage.
* `CommonPurse.CommandLine.Usage.group`, `Usage.leaf` — read the words of a command.
-/

namespace CommonPurse.CommandLine

/-- What an option takes. -/
inductive Takes where
  | nothing
  | text
  | integer
  deriving DecidableEq, Repr, Inhabited

/-- An option: its name, the name that says the opposite, what it takes, and what it is about. -/
structure Flag where
  name : String
  opposite : Option String
  takes : Takes
  about : String
  deriving DecidableEq, Repr, Inhabited

/-- What a command understands: the words that call it, what it is about, its options, its operand,
and the commands below it. -/
structure Usage where
  path : String
  about : List String
  flags : List Flag
  operand : Option String
  commands : List (String × String)
  deriving DecidableEq, Repr, Inhabited

/-! ## Complaints -/

/-- What does not fit. -/
inductive Misuse where
  | noSuchOption (name : String)
  | needsValue (name : String)
  | takesNoValue (name : String)
  | notAnInteger (name value : String)
  | unexpected (operands : List String)
  | noSuchCommand (name : String)
  | missingCommand
  deriving DecidableEq, Repr, Inhabited

namespace Misuse

/-- What is said about a misuse. -/
def message : Misuse → String
  | noSuchOption name => "No such option " ++ Text.quoted name ++ "."
  | needsValue name => "Option " ++ Text.quoted name ++ " requires an argument."
  | takesNoValue name => "Option " ++ Text.quoted name ++ " does not take a value."
  | notAnInteger name value =>
    "Invalid value for '" ++ name ++ "': " ++ Text.quoted value ++ " is not a valid integer."
  | unexpected operands =>
    "Got unexpected extra argument" ++ (if operands.length = 1 then "" else "s") ++ " (" ++
      String.intercalate " " operands ++ ")"
  | noSuchCommand name => "No such command " ++ Text.quoted name ++ "."
  | missingCommand => "Missing command."

/-- Whether the complaint shows how the command is used. -/
def showsUsage : Misuse → Bool
  | needsValue _ | takesNoValue _ => false
  | _ => true

end Misuse

namespace Usage

/-- How a command is used, in one line. -/
def synopsis (u : Usage) : String :=
  "Usage: " ++ u.path ++ " [OPTIONS]" ++
    (if u.commands.isEmpty then "" else " COMMAND [ARGS]...") ++
    (u.operand.map fun o => " [" ++ o ++ "]").getD ""

/-- A complaint about a misuse. -/
def complaint (u : Usage) (m : Misuse) : String :=
  (if m.showsUsage then
    u.synopsis ++ "\nTry '" ++ u.path ++ " --help' for help.\n\n" else "") ++
    "Error: " ++ m.message ++ "\n"

/-! ## Descriptions -/

/-- How an option is listed. -/
def flagText (f : Flag) : String :=
  f.name ++ (f.opposite.map (" / " ++ ·)).getD "" ++
    match f.takes with
    | .nothing => ""
    | .text => " TEXT"
    | .integer => " INTEGER"

/-- A number of blanks. -/
def blanks (n : Nat) : String := String.ofList (List.replicate n ' ')

/-- How wide the first of two columns is: as wide as its widest entry but at most thirty
characters, and two blanks. -/
def columnWidth (entries : List String) : Nat :=
  min 30 ((entries.map String.length).foldl max 0) + 2

/-- Rows of two columns. Behind an entry that is wider than its column a new line begins. -/
def table (rows : List (String × String)) : List String :=
  let width := columnWidth (rows.map (·.1))
  rows.flatMap fun r =>
    if r.1.length + 2 ≤ width then ["  " ++ r.1 ++ blanks (width - r.1.length) ++ r.2]
    else ["  " ++ r.1, blanks (width + 2) ++ r.2]

/-- A part of a description with a heading, unless it is empty. -/
def part (heading : String) (rows : List (String × String)) : List String :=
  if rows.isEmpty then [] else "" :: heading :: table rows

/-- The description of a command. -/
def help (u : Usage) : String :=
  let lines := [u.synopsis, ""] ++ u.about.map (fun l => if l.isEmpty then "" else "  " ++ l) ++
    part "Options:" (u.flags.map fun f => (flagText f, f.about)) ++ part "Commands:" u.commands
  String.join (lines.map (· ++ "\n"))

end Usage

/-! ## Reading words -/

/-- The options that are given, with the values that they take, and the operands. -/
structure Given where
  flags : List (String × Option String)
  operands : List String
  deriving DecidableEq, Repr, Inhabited

namespace Given

/-- Put an option in front. -/
def withFlag (name : String) (value : Option String) (g : Given) : Given :=
  { g with flags := (name, value) :: g.flags }

/-- Put an operand in front. -/
def withOperand (operand : String) (g : Given) : Given :=
  { g with operands := operand :: g.operands }

/-- The value of an option that counts: the last one. -/
def value? (g : Given) (name : String) : Option String :=
  (g.flags.reverse.find? (·.1 == name)).bind (·.2)

/-- Which of two opposite options counts: the last one, or else the first of the two. -/
def isOn (g : Given) (name opposite : String) : Bool :=
  ((g.flags.reverse.find? fun f => f.1 == name || f.1 == opposite).map (·.1 == name)).getD true

end Given

/-- The name of an option, and the value behind an equals sign. -/
def splitOption (word : String) : String × Option String :=
  let s := word.toList
  let name := s.takeWhile (· ≠ '=')
  match s.drop name.length with
  | [] => (word, none)
  | _ :: value => (String.ofList name, some (String.ofList value))

/-- Whether a word is an option. -/
def isOption (word : String) : Bool := word.length > 1 && word.startsWith "-"

/-- The name of an option that is not known: of one with a single hyphen only the first letter. -/
def unknownName (word : String) : String :=
  if word.startsWith "--" then (splitOption word).1 else String.ofList (word.toList.take 2)

namespace Usage

/-- The option with a name. -/
def flag? (u : Usage) (name : String) : Option Flag :=
  u.flags.find? fun f => f.name == name || f.opposite == some name

/-- Read words. Where operands may not stand between options, the first one ends the options. -/
def scan (u : Usage) (mixed : Bool) : List String → Except Misuse Given
  | [] => .ok ⟨[], []⟩
  | word :: rest =>
    if word = "--" then .ok ⟨[], rest⟩
    else if isOption word then
      let (name, value) := splitOption word
      match u.flag? name with
      | none => .error (.noSuchOption (unknownName word))
      | some f =>
        match f.takes, value with
        | .nothing, none => (scan u mixed rest).map (·.withFlag name none)
        | .nothing, some _ => .error (.takesNoValue name)
        | _, some v => (scan u mixed rest).map (·.withFlag name (some v))
        | _, none =>
          match rest with
          | [] => .error (.needsValue name)
          | v :: rest => (scan u mixed rest).map (·.withFlag name (some v))
    else if mixed then (scan u mixed rest).map (·.withOperand word)
    else .ok ⟨[], word :: rest⟩

end Usage

/-! ## Answers -/

/-- What is answered instead of doing something: something that was asked for, or a complaint. -/
inductive Reply where
  | told (text : String)
  | refused (text : String)
  deriving DecidableEq, Repr, Inhabited

namespace Usage

/-- The complaint about a misuse, as an answer. -/
def refuse {α : Type} (u : Usage) (m : Misuse) : Except Reply α := .error (.refused (u.complaint m))

/-- What the first option that asks for something to be told asks for. -/
def asked? (u : Usage) (version : String) (g : Given) : Option Reply :=
  g.flags.findSome? fun f =>
    if f.1 = "--help" then some (.told u.help)
    else if f.1 = "--version" then some (.told (version ++ "\n"))
    else none

/-- Read words in front of a command. -/
def front (u : Usage) (version : String) (words : List String) : Except Reply Given :=
  match u.scan false words with
  | .error m => u.refuse m
  | .ok g =>
    match u.asked? version g with
    | some reply => .error reply
    | none => .ok g

/-- Read words that name a command below this one: its name, and the words behind it. -/
def group (u : Usage) (version : String) (words : List String) :
    Except Reply (String × List String) :=
  if words.isEmpty then .error (.refused u.help)
  else
    match u.front version words with
    | .error reply => .error reply
    | .ok ⟨_, []⟩ => u.refuse .missingCommand
    | .ok ⟨_, name :: rest⟩ =>
      if u.commands.any (·.1 == name) then .ok (name, rest)
      else
        match u.front version (name :: rest) with
        | .error reply => .error reply
        | .ok _ => u.refuse (.noSuchCommand name)

/-- The first option whose value is not an integer though it has to be. -/
def badInteger? (u : Usage) (g : Given) : Option Misuse :=
  u.flags.findSome? fun f =>
    match f.takes, g.value? f.name with
    | .integer, some v =>
      if (Text.readInteger? v.toList).isSome then none else some (.notAnInteger f.name v)
    | _, _ => none

/-- Read the words of a command that has none below it. -/
def leaf (u : Usage) (words : List String) : Except Reply Given :=
  match u.scan true words with
  | .error m => u.refuse m
  | .ok g =>
    match u.asked? "" g with
    | some reply => .error reply
    | none =>
      match u.badInteger? g with
      | some m => u.refuse m
      | none =>
        let extra := g.operands.drop (if u.operand.isSome then 1 else 0)
        if extra.isEmpty then .ok g else u.refuse (.unexpected extra)

end Usage

end CommonPurse.CommandLine
