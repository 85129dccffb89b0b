import CommonPurse.Id
import CommonPurse.Json.Shown
import CommonPurse.Log
import CommonPurse.Text.Numeral
import CommonPurse.Text.Utf8

/-!
# Announcements

An event is announced by its identifier alone, as a text. What arrives may come from anybody, so
it is read generously and dropped when it is no identifier.

## Main definitions

* `CommonPurse.Announcement.read?` — the identifier that a text announces.
* `CommonPurse.Announcement.Payload` — what arrives: a text, bytes, or another value.
* `CommonPurse.Announcement.receive` — the identifier of a payload, or a warning, or the reason
  that the text of the payload cannot be made.
-/

namespace CommonPurse.Announcement

open CommonPurse.Text

/-- Remove a non-empty word wherever it stands. -/
def without (first : Char) (more : List Char) : List Char → List Char
  | [] => []
  | c :: rest =>
    if c = first ∧ more.isPrefixOf rest then without first more (rest.drop more.length)
    else c :: without first more rest
termination_by s => s.length
decreasing_by
  · simp only [List.length_drop, List.length_cons]
    omega
  · simp

/-- Whether a character is a brace. -/
def isBrace (c : Char) : Bool := c == '\x7b' || c == '\x7d'

/-- The digits of an announced identifier: marks, braces at the ends and hyphens are dropped. -/
def core (s : List Char) : List Char :=
  let s := without 'u' "rn:".toList s
  let s := without 'u' "uid:".toList s
  (trimBy isBrace s).filter (· ≠ '-')

/-- The identifier that a text announces: 32 characters that write a number of at most 128
bits in hexadecimal. -/
def read? (s : String) : Option Id :=
  let h := core s.toList
  if h.length = 32 then
    match readHex? h with
    | some n => if 0 ≤ n ∧ n < idCount then some (Id.ofNat n.toNat) else none
    | none => none
  else none

/-- What arrives on a channel. Of a value that is neither a text nor bytes only its text counts, or
why it has none. -/
inductive Payload where
  | text (s : String)
  | bytes (b : List UInt8)
  | other (shown : Except Json.Unshown String)

/-- A JSON value that arrives; `room` is how deep it may be nested to have a text. -/
def Payload.ofJson (room : Nat) : Json → Payload
  | .text s => .text s
  | v => .other (v.toText room)

/-- The text of a payload, or why it has none. -/
def Payload.toText : Payload → Except Json.Unshown String
  | .text s => .ok s
  | .bytes b => .ok (decodeUtf8Lossy b)
  | .other shown => shown

/-- The warning about a text that announces no identifier shows how it begins. -/
def malformedEntry (s : String) : Log.Entry :=
  .warning "Ignoring malformed event id" [("payload", .text (String.ofList (s.toList.take 64)))]

/-- Warn about a payload. The text of the payload is made once more for that. -/
def malformed (p : Payload) : Except Json.Unshown (Option Id × List Log.Entry) :=
  p.toText.map fun s => (none, [malformedEntry s])

/-- The identifier of a payload, or a warning. A payload with a number that is too long is taken for
a malformed identifier; one that is nested too deep is not. -/
def receive (p : Payload) : Except Json.Unshown (Option Id × List Log.Entry) :=
  match p.toText with
  | .ok s =>
    match read? s with
    | some i => .ok (some i, [])
    | none => malformed p
  | .error .long => malformed p
  | .error .deep => .error .deep

end CommonPurse.Announcement
