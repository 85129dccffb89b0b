/-!
# File paths

The plain form of a path: parts divided by single slashes, without parts that stay in place.

## Main definitions

* `CommonPurse.Text.plainPath` — the plain form of a path.
-/

namespace CommonPurse.Text

/-- The parts of a path that lead somewhere. -/
def pathParts (s : List Char) : List (List Char) :=
  let parts := s.foldr (fun c parts =>
    if c = '/' then [] :: parts
    else
      match parts with
      | [] => [[c]]
      | part :: rest => (c :: part) :: rest) [[]]
  parts.filter fun p => p ≠ [] ∧ p ≠ ['.']

/-- The root of a path: none, one slash, or exactly two of them. -/
def pathRoot (s : List Char) : String :=
  match (s.takeWhile (· = '/')).length with
  | 0 => ""
  | 2 => "//"
  | _ => "/"

/-- The plain form of a path. The path of the place itself is a point. -/
def plainPath (s : String) : String :=
  let body := String.intercalate "/" ((pathParts s.toList).map String.ofList)
  let path := pathRoot s.toList ++ body
  if path.isEmpty then "." else path

end CommonPurse.Text
