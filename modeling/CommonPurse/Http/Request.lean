import CommonPurse.Form.Fields
import CommonPurse.Json.Members
import CommonPurse.Json.Parser
import CommonPurse.Text.Letter
import CommonPurse.Text.Utf8

/-!
# Requests

What a client sends, and how the fields of a request are filled: from the path, from the header
that names the acting user, and from the JSON body.

## Main definitions

* `CommonPurse.Http.Request` — method, path, headers and content.
* `CommonPurse.Http.Request.ofDocument` — the request that a document describes.
* `CommonPurse.Http.Request.body` — the JSON value of the content.
* `CommonPurse.Http.Request.WellFormed` — every text in it is well formed.
-/

namespace CommonPurse.Http

open CommonPurse.Text
open CommonPurse.Form (FieldFault Fields)

/-- A request. The path is the one that the client wrote; no content is an empty text. -/
structure Request where
  method : String
  target : String
  headers : List (String × String)
  content : String
  deriving DecidableEq, Repr, Inhabited

/-! ## Paths -/

/-- The bytes of a path in which pairs of hexadecimal digits behind a percent sign stand for
bytes. -/
def unescape : List Char → List UInt8
  | [] => []
  | c :: rest =>
    if c = '%' then
      match rest with
      | a :: b :: more =>
        match asciiHex? a, asciiHex? b with
        | some x, some y => UInt8.ofNat (x * 16 + y) :: unescape more
        | _, _ => (String.singleton c).toUTF8.toList ++ unescape (a :: b :: more)
      | short => (String.singleton c).toUTF8.toList ++ unescape short
    else (String.singleton c).toUTF8.toList ++ unescape rest

/-- The path of a request without its query. -/
def Request.path (r : Request) : String :=
  decodeUtf8Lossy (unescape (r.target.toList.takeWhile fun c => c ≠ '?' ∧ c ≠ '#'))

/-- The parts of a path between slashes. -/
def splitPath (s : List Char) : List (List Char) :=
  match s with
  | [] => [[]]
  | c :: rest =>
    if c = '/' then [] :: splitPath rest
    else
      match splitPath rest with
      | [] => [[c]]
      | part :: parts => (c :: part) :: parts

/-- The parts of a path. -/
def segments (path : String) : List String := (splitPath path.toList).map String.ofList

/-! ## Headers -/

/-- A text in lower case, for plain letters. -/
def plainLower (s : String) : String := s.map Char.toLower

/-- The value of a header; names do not depend on case. -/
def Request.header? (r : Request) (name : String) : Option String :=
  (r.headers.find? fun h => plainLower h.1 = plainLower name).map (·.2)

/-- Whether a content type names JSON: the type `application` with the subtype `json` or one that
ends in `+json`. -/
def isJsonType (value : String) : Bool :=
  let essence := strip (String.ofList ((plainLower value).toList.takeWhile (· ≠ ';')))
  essence == "application/json" ||
    (essence.startsWith "application/" && essence.endsWith "+json" &&
      (essence.toList.filter (· == '/')).length == 1)

/-- Whether the content of a request is to be read as JSON: nothing else is said about it. -/
def Request.isJson (r : Request) : Bool :=
  match r.header? "content-type" with
  | none => true
  | some v => v.isEmpty || isJsonType v

/-- Give a request a JSON value as its content; the content type says so unless it says something
else. -/
def Request.withJson (r : Request) (value : Json) : Request :=
  { r with
    headers := if (r.header? "content-type").isSome then r.headers
      else r.headers ++ [("content-type", "application/json")]
    content := value.compact }

/-- The request that a document describes; its content is a text, or a JSON value. -/
def Request.ofDocument (d : Json) : Request :=
  let r : Request := ⟨d.textAt "method", d.textAt "path",
    (d.membersAt "headers").map fun h => (h.1, (h.2.text?).getD ""), d.textAt "raw"⟩
  match d.member? "raw", d.member? "json" with
  | none, some .null => r
  | none, some value => r.withJson value
  | _, _ => r

/-! ## Arguments and headers as fields -/

/-- An identifier out of the path. -/
def pathId (name value : String) : Fields Id :=
  .of ("path." ++ name) (Form.identifier (.text value))

/-- The acting user. -/
def Request.actor (r : Request) : Fields Id :=
  .of "header.X-User-Id" (match r.header? "x-user-id" with
    | none => .error .missing
    | some v => Form.identifier (.text v))

/-! ## Bodies -/

/-- The body of a request: there is none, or a JSON value, or something that is not said to be
JSON. -/
inductive Body where
  | absent
  | json (value : Json)
  | other
  deriving Inhabited

/-- Why a body has no JSON value: it stops being JSON at a position, or it cannot be read at all. -/
inductive BodyFault where
  | malformed (position : Nat)
  | unreadable
  deriving DecidableEq, Repr

/-- The fault of a body. A whole number that is too long is no matter of JSON: the body cannot be
read. -/
def BodyFault.ofJson : Json.Fault → (position : Nat) → BodyFault
  | .longInteger, _ => .unreadable
  | _, position => .malformed position

/-- A text without the byte order mark that it may begin with. -/
def withoutMark (s : String) : String :=
  match s.toList with
  | c :: rest => if c.toNat = 0xfeff then String.ofList rest else s
  | [] => s

/-- The body of a request, or why it has none. Left out are contents that begin like a text in
another encoding than UTF-8, with a zero among their first two characters, and contents that are
nested deeper than the reader of the service goes: there is no bound on nesting here. -/
def Request.body (r : Request) : Except BodyFault Body :=
  if r.content.isEmpty then .ok .absent
  else if r.isJson then
    match Json.parse (withoutMark r.content) with
    | .ok .null => .ok .absent
    | .ok v => .ok (.json v)
    | .error (fault, position) => .error (.ofJson fault position)
  else .ok .other

/-- No text in the body of a request names half of a surrogate pair. -/
def Request.WellFormed (r : Request) : Prop := ∀ v, r.body = .ok (.json v) → v.isWellFormed = true

/-- Fill fields from the members of a body, which must be an object. -/
def Body.fill {α : Type} (read : List (String × Json) → Fields α) : Body → Fields α
  | .absent => .error [⟨"body", .missing⟩]
  | .json (.object ms) => read ms
  | _ => .error [⟨"body", .notRecord⟩]

/-- A member of a body that must be there. -/
def needed {α : Type} (name : String) (read : Json → Except Form.Fault α)
    (ms : List (String × Json)) : Fields α :=
  .of ("body." ++ name) (match Json.lookup name ms with
    | none => .error .missing
    | some v => read v)

/-- A member of a body that may be missing or null. -/
def optional {α : Type} (name : String) (read : Json → Except Form.Fault α)
    (ms : List (String × Json)) : Fields (Option α) :=
  .of ("body." ++ name) (match Json.lookup name ms with
    | none => .ok none
    | some .null => .ok none
    | some v => (read v).map some)

end CommonPurse.Http
