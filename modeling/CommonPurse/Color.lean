import CommonPurse.Problem
import CommonPurse.Text.Numeral

/-!
# Colours

The colour that a member picks inside a group, and its text `red,green,blue`.

## Main definitions

* `CommonPurse.Color` — three components of one byte.
* `CommonPurse.Color.parse` — reading the text of a colour; nothing stands for the usual colour.
* `CommonPurse.Color.text` — writing it.
-/

namespace CommonPurse

/-- A colour. -/
structure Color where
  red : Fin 256
  green : Fin 256
  blue : Fin 256
  deriving DecidableEq, Repr, Inhabited

namespace Color

open CommonPurse.Text

/-- The colour of a member who picks none. -/
def usual : Color := ⟨0, 255, 0⟩

/-- The parts of a text between commas. -/
def splitCommas (s : List Char) : List (List Char) :=
  match s with
  | [] => [[]]
  | c :: rest =>
    if c = ',' then [] :: splitCommas rest
    else
      match splitCommas rest with
      | [] => [[c]]
      | part :: parts => (c :: part) :: parts

/-- A component of a colour, if an integer is one. -/
def component? (n : Int) : Option (Fin 256) :=
  if h : 0 ≤ n ∧ n ≤ 255 then some ⟨n.toNat, by omega⟩ else none

/-- A refused colour text. -/
def refused (detail value : String) : Problem :=
  .validation detail [("field", .text "color"), ("value", .text value)]

/-- Read the three components of a colour text. -/
def parseParts (value : String) : Except Problem Color :=
  match (splitCommas value.toList).map trim with
  | [r, g, b] =>
    match readInteger? r, readInteger? g, readInteger? b with
    | some r, some g, some b =>
      match component? r, component? g, component? b with
      | some r, some g, some b => .ok ⟨r, g, b⟩
      | _, _, _ => .error (refused "Color components must be between 0 and 255" value)
    | _, _, _ => .error (refused "Color components must be integers" value)
  | _ => .error (refused "Color must have the form 'red,green,blue'" value)

/-- Read the text of a colour. No text and a blank one give the usual colour. -/
def parse : Option String → Except Problem Color
  | none => .ok usual
  | some value => if isBlankText value then .ok usual else parseParts value

/-- The text of a colour. -/
def text (c : Color) : String :=
  String.ofList (natText c.red ++ ',' :: natText c.green ++ ',' :: natText c.blue)

end Color

end CommonPurse
