import CommonPurse.Form.Fields
import CommonPurse.Settings.File
import CommonPurse.Text.Letter

/-!
# Where settings come from

A setting is given directly, or else stands in the environment, or else in the settings file, or
else has its usual value. In the environment and in the file the names of the settings of one
section begin with the mark of the section. Case does not matter there, and an empty value does
not count.

## Main definitions

* `CommonPurse.Settings.Source` — the environment and the settings file.
* `CommonPurse.Settings.Section` — what is chosen in one section, by name.
* `CommonPurse.Settings.Section.field` — a setting with its usual value.
-/

namespace CommonPurse.Settings

open CommonPurse.Form (Fault Fields)

/-- The environment and the settings file, if there is one. -/
structure Source where
  environment : List (String × String)
  file : Option String
  deriving DecidableEq, Repr, Inhabited

namespace Source

/-- The value of a name among values; names do not depend on case, and of several values the last
one counts. Empty values do not count. -/
def find? (name : String) (values : List File.Binding) : Option String :=
  (values.reverse.find? fun v => Text.lower v.1 == name && v.2 != some "").bind (·.2)

/-- The environment as bindings. -/
def surroundings (s : Source) : List File.Binding := s.environment.map fun v => (v.1, some v.2)

/-- Take a binding over: in the place of one with the same name, or at the end. -/
def takeOver (known : List File.Binding) (b : File.Binding) : List File.Binding :=
  if known.any (·.1 == b.1) then known.map fun x => if x.1 == b.1 then b else x
  else known ++ [b]

/-- The bindings of the file, each name once. -/
def written (s : Source) : List File.Binding :=
  match s.file with
  | none => []
  | some text => (File.resolve s.environment (File.bindings text)).foldl takeOver []

/-- The value of a name that is written in lower case. -/
def value? (s : Source) (name : String) : Option String :=
  (find? name s.surroundings).or (find? name s.written)

end Source

/-- A pattern: how it is written, and which texts fit it. -/
structure Pattern where
  text : String
  fits : List Char → Bool

/-- What is chosen in a section, by the names of the settings. -/
abbrev Section := String → Option Json

namespace Section

/-- What is chosen in the section with a mark. -/
def of (s : Source) (mark : String) (given : List (String × Json)) : Section := fun name =>
  (Json.lookup name given).or ((s.value? (mark ++ name)).map .text)

/-- A setting: what is chosen for it, or its usual value. -/
def field {α : Type} (c : Section) (name : String) (usual : α) (read : Json → Except Fault α) :
    Fields α :=
  .of name (match c name with
    | some v => read v
    | none => .ok usual)

/-- A flag. -/
def flag (c : Section) (name : String) (usual : Bool) : Fields Bool := c.field name usual Form.flag

/-- A text. -/
def text (c : Section) (name usual : String) : Fields String := c.field name usual Form.text

/-- A text whose length lies between bounds and that fits a pattern, if there is one. -/
def bounded (c : Section) (name usual : String) (least most : Option Nat)
    (pattern : Option Pattern) : Fields String :=
  c.field name usual fun v => do
    let s ← Form.boundedText least most (← Form.text v)
    match pattern with
    | some p => if p.fits s.toList then return s else .error (.noMatch p.text)
    | none => return s

/-- One of several words. -/
def choice (c : Section) (name usual : String) (choices : List String) : Fields String :=
  c.field name usual (Form.choice choices)

/-- An integer between bounds. -/
def integer (c : Section) (name : String) (usual : Int) (least most : Option Int) : Fields Int :=
  c.field name usual fun v => (Form.integer v).bind (Form.boundedInteger least most)

/-- A real number between bounds. -/
def real (c : Section) (name : String) (usual : Binary64) (least most : Option Binary64) :
    Fields Binary64 :=
  c.field name usual fun v => (Form.real v).bind (Form.boundedReal least most)

end Section

/-- A text that is not to be shown. -/
structure Secret where
  value : String
  deriving DecidableEq, Repr, Inhabited

namespace Secret

/-- What is shown instead of a secret. -/
def shown (s : Secret) : String := if s.value.isEmpty then "" else "**********"

/-- A field that holds a secret or nothing. -/
def field (c : Section) (name : String) : Fields (Option Secret) :=
  c.field name none (Form.nullable fun v => (Form.text v).map Secret.mk)

/-- A secret in a document. -/
def document (s : Option Secret) : Json := (s.map fun s => Json.text s.shown).getD .null

end Secret

end CommonPurse.Settings
