import CommonPurse.Text.Digit
import CommonPurse.Text.Quoted

/-!
# Locators

What a locator such as `redis://host:6379/0` says about how to reach a server.

## Main definitions

* `CommonPurse.Text.scheme` — the scheme of a locator.
* `CommonPurse.Text.port` — the text of the port, if one is named.
* `CommonPurse.Text.portFault?` — what is wrong with the port.
-/

namespace CommonPurse.Text

/-- The characters of a locator that count: none of the blanks and controls in front, and no line
breaks and tabs. -/
def locatorChars (s : String) : List Char :=
  (s.toList.dropWhile fun c => c.toNat ≤ 32).filter fun c => c ≠ '\t' ∧ c ≠ '\n' ∧ c ≠ '\r'

/-- Whether a character can stand in a scheme. -/
def isSchemeChar (c : Char) : Bool := c.isAlphanum || c = '+' || c = '-' || c = '.'

/-- The scheme of a locator and what is behind it. A locator without one has the empty scheme. -/
def splitScheme (s : List Char) : String × List Char :=
  let name := s.takeWhile (· ≠ ':')
  if s.contains ':' && name.head?.any Char.isAlpha && name.all isSchemeChar then
    (String.ofList (name.map Char.toLower), s.drop (name.length + 1))
  else ("", s)

/-- The scheme of a locator. -/
def scheme (s : String) : String := (splitScheme (locatorChars s)).1

/-- What is behind the last of some character, or everything when there is none. -/
def behindLast (c : Char) (s : List Char) : List Char :=
  (s.reverse.takeWhile (· ≠ c)).reverse

/-- What is behind the first of some character, or nothing when there is none. -/
def behindFirst (c : Char) (s : List Char) : List Char := (s.dropWhile (· ≠ c)).drop 1

/-- The host and the port of a locator, as they are written. -/
def hostAndPort (s : String) : List Char :=
  match (splitScheme (locatorChars s)).2 with
  | '/' :: '/' :: rest =>
    behindLast '@' (rest.takeWhile fun c => c ≠ '/' && c ≠ '?' && c ≠ '#')
  | _ => []

/-- The text of the port of a locator; it is empty when none is named. -/
def port (s : String) : List Char :=
  let place := hostAndPort s
  behindFirst ':' (if place.contains '[' then behindFirst ']' (behindFirst '[' place) else place)

/-- What is wrong with the port of a locator. -/
def portFault? (s : String) : Option String :=
  match port s with
  | [] => none
  | p =>
    if p.all Char.isDigit then
      if ofDigits 10 (p.map fun c => c.toNat - '0'.toNat) ≤ 65535 then none
      else some "Port out of range 0-65535"
    else some ("Port could not be cast to integer value as " ++ quoted (String.ofList p))

end CommonPurse.Text
