import CommonPurse.Json

/-!
# Problems

What a client is told when a request is refused: a status, a type, a title and a detail, with
members that say more about the case.

## Main definitions

* `CommonPurse.Problem` — a refusal in the words of a problem document.
* `CommonPurse.Problem.document` — the problem document.
* `CommonPurse.Problem.notFound`, `validation`, `unauthorized`, `forbidden`, `conflict`,
  `internal` — the six kinds, each with its status, title and usual type.
-/

namespace CommonPurse

/-- The kinds of refusal. -/
inductive ProblemKind where
  | general
  | notFound
  | validation
  | unauthorized
  | forbidden
  | conflict
  | internal
  deriving DecidableEq, Repr, Inhabited

/-- A refusal in the words of a problem document. -/
structure Problem where
  kind : ProblemKind
  status : Int
  type : String
  title : String
  detail : String
  /-- The place where the problem occurred. -/
  location : Option String
  /-- Further members of the document. -/
  extra : List (String × Json)
  deriving Inhabited

namespace Problem

/-- The usual title of a status. -/
def titleOf (status : Int) : String :=
  if status = 400 then "Bad Request"
  else if status = 401 then "Unauthorized"
  else if status = 403 then "Forbidden"
  else if status = 404 then "Not Found"
  else if status = 409 then "Conflict"
  else if status = 422 then "Unprocessable Entity"
  else if status = 500 then "Internal Server Error"
  else if status = 503 then "Service Unavailable"
  else "Error"

/-- The status of a kind; a general problem brings its own. -/
def statusOf : ProblemKind → Int
  | .general => 0
  | .notFound => 404
  | .validation => 422
  | .unauthorized => 401
  | .forbidden => 403
  | .conflict => 409
  | .internal => 500

/-- The type that a kind has unless a problem says otherwise. -/
def usualType : ProblemKind → String
  | .general => "about:blank"
  | .notFound => "not-found"
  | .validation => "validation-error"
  | .unauthorized => "unauthorized"
  | .forbidden => "forbidden"
  | .conflict => "conflict"
  | .internal => "internal-error"

/-- The title of a kind. -/
def kindTitle : ProblemKind → String
  | .validation => "Validation Error"
  | k => titleOf (statusOf k)

/-- A problem of a kind with a detail, and with its type, location and members if given. -/
def ofKind (k : ProblemKind) (detail : String) (type : Option String) (location : Option String)
    (extra : List (String × Json)) : Problem :=
  ⟨k, statusOf k, type.getD (usualType k), kindTitle k, detail, location, extra⟩

/-- A problem with a status of its own. An empty title gives way to the usual one. -/
def general (status : Int) (detail : String) (type title location : Option String)
    (extra : List (String × Json)) : Problem :=
  ⟨.general, status, type.getD (usualType .general),
    (title.filter (· ≠ "")).getD (titleOf status), detail, location, extra⟩

/-- Something that was asked for does not exist. -/
def notFound (detail type : String) : Problem := ofKind .notFound detail (some type) none []

/-- An input is rejected before anything changes. -/
def validation (detail : String) (extra : List (String × Json)) : Problem :=
  ofKind .validation detail none none extra

/-- Credentials do not match. -/
def unauthorized (detail : String) : Problem := ofKind .unauthorized detail none none []

/-- The acting user may not do this. -/
def forbidden (detail : String) (extra : List (String × Json)) : Problem :=
  ofKind .forbidden detail none none extra

/-- The operation collides with what is stored. -/
def conflict (detail : String) (type : Option String) (extra : List (String × Json)) : Problem :=
  ofKind .conflict detail type none extra

/-- The detail of an internal problem when nothing may be said about its cause. -/
def internalDetail : String := "An internal error occurred"

/-- Something failed underneath an operation. -/
def internal (detail : String) (extra : List (String × Json)) : Problem :=
  ofKind .internal detail none none extra

/-- A problem document from its parts. An empty location is left out, and further members
replace those that are already there. -/
def documentOf (type title : String) (status : Int) (detail : String) (location : Option String)
    (extra : List (String × Json)) : Json :=
  let members : List (String × Json) :=
    [("type", .text type), ("title", .text title), ("status", .integer status),
      ("detail", .text detail)]
  let members := match location.filter (· ≠ "") with
    | some l => members ++ [("instance", .text l)]
    | none => members
  .object (Json.putAll members extra)

/-- The problem document. -/
def document (p : Problem) : Json :=
  documentOf p.type p.title p.status p.detail p.location p.extra

end Problem

end CommonPurse
