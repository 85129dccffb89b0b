import CommonPurse.Settings.Source

/-!
# Settings of the application

What the service is called, and where it is reached.

## Main definitions

* `CommonPurse.Settings.App` — the settings.
* `CommonPurse.Settings.App.read` — the settings of a section.
-/

namespace CommonPurse.Settings

open CommonPurse.Form (Fields)
open CommonPurse.Text

/-! ## Patterns -/

/-- Whether a character is a small letter or a digit. -/
def isSlugChar (c : Char) : Bool := c.isLower || c.isDigit

/-- Whether a text is made of words of small letters and digits with single hyphens between
them; `inWord` tells whether a word has begun. -/
def isSlug (inWord : Bool) : List Char → Bool
  | [] => inWord
  | c :: rest => if isSlugChar c then isSlug true rest else c == '-' && inWord && isSlug false rest

/-- The pattern of the name of a service. -/
def slugPattern : Pattern := ⟨"^[a-z0-9]+(-[a-z0-9]+)*$", isSlug false⟩

/-- What is behind a number. -/
def afterNumber? (s : List Char) : Option (List Char) :=
  let isFigure (c : Char) : Bool := (digitValue? c).isSome
  if s.head?.any isFigure then some (s.dropWhile isFigure) else none

/-- What is behind a point. -/
def afterPoint? : List Char → Option (List Char)
  | '.' :: rest => some rest
  | _ => none

/-- Whether a text is three numbers with points between them, and a word behind a hyphen if
anything follows. -/
def isVersion (s : List Char) : Bool :=
  match (((((afterNumber? s).bind afterPoint?).bind afterNumber?).bind afterPoint?).bind
    afterNumber?) with
  | some [] => true
  | some ('-' :: word) => !word.isEmpty && word.all Char.isAlphanum
  | _ => false

/-- The pattern of a version. -/
def versionPattern : Pattern := ⟨"^\\d+\\.\\d+\\.\\d+(-[a-zA-Z0-9]+)?$", isVersion⟩

/-- Whether a text is one line that begins with a slash. -/
def isRooted : List Char → Bool
  | '/' :: rest => !rest.contains '\n'
  | _ => false

/-- The pattern of the common beginning of all paths. -/
def rootedPattern : Pattern := ⟨"^/.*$", isRooted⟩

/-! ## The section -/

/-- What the service is called, and where it is reached. -/
structure App where
  serviceName : String
  title : String
  version : String
  environment : String
  apiRoot : String
  debug : Bool
  host : String
  port : Int
  deriving DecidableEq, Repr, Inhabited

namespace App

/-- What the beginning of the names is in the environment. -/
def mark : String := "app_"

/-- The settings of a section. -/
def read (c : Section) : Fields App :=
  (((((((Fields.of "" (.ok App.mk)).apply
    (c.bounded "service_name" "koru-service" (some 1) (some 100) (some slugPattern))).apply
    (c.bounded "title" "Koru API" (some 1) (some 200) none)).apply
    (c.bounded "version" "0.1.0" none none (some versionPattern))).apply
    (c.choice "environment" "development" ["development", "staging", "production", "test"])).apply
    (c.bounded "api_prefix" "/api/v1" (some 1) (some 255) (some rootedPattern))).apply
    (c.flag "debug" false)).apply (c.text "host" "0.0.0.0") |>.apply
    (c.integer "port" 8000 (some 1) (some 65535))

/-- The settings as a document. -/
def document (a : App) : Json :=
  .object [("service_name", .text a.serviceName), ("title", .text a.title),
    ("version", .text a.version), ("environment", .text a.environment),
    ("api_prefix", .text a.apiRoot), ("debug", .bool a.debug), ("host", .text a.host),
    ("port", .integer a.port)]

end App

end CommonPurse.Settings
