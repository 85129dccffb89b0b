import CommonPurse.Command
import CommonPurse.Http.Request

/-!
# Responses

How answers are shown to clients: entities as JSON documents, refusals as problem documents.

## Main definitions

* `CommonPurse.Http.Response` — status, content type and body.
* `CommonPurse.Http.productDocument` — the document of an answer.
* `CommonPurse.Http.invalidFields`, `refused` — the responses to faulty and to refused requests.
-/

namespace CommonPurse.Http

open CommonPurse.Form (FieldFault Fields)

/-- A response. -/
structure Response where
  status : Nat
  contentType : Option String
  body : Option Json
  deriving Inhabited

/-- The document of a response: its status, its content type, and its body if it has one. -/
def Response.document (r : Response) : Json :=
  .object ([("status", .integer r.status), ("type", (r.contentType.map Json.text).getD .null)] ++
    (r.body.map fun b => ("body", b)).toList)

/-! ## Documents -/

/-- The text of a timestamp in a document. -/
def stampDocument (t : Timestamp) : Json := .text t.zuluText

/-- A value that may be missing. -/
def optionalDocument {α : Type} (f : α → Json) : Option α → Json
  | none => .null
  | some a => f a

/-- An account as clients see it. -/
def userDocument (u : User) : Json :=
  .object [("id", .text u.id.text), ("name", .text u.name), ("email", .text u.email),
    ("created_at", stampDocument u.createdAt)]

/-- A member as clients see it. -/
def memberDocument (m : Member) : Json :=
  .object [("id", .text m.id.text), ("name", .text m.name), ("email", .text m.email),
    ("is_admin", .bool m.isAdmin), ("color", .text m.color.text),
    ("joined_at", stampDocument m.joinedAt)]

/-- A group as clients see it. -/
def groupDocument (g : Group) : Json :=
  .object [("id", .text g.id.text), ("name", .text g.name), ("admin_id", .text g.adminId.text),
    ("created_at", stampDocument g.createdAt), ("members", .array (g.members.map memberDocument))]

/-- An expense as clients see it. -/
def expenseDocument (e : Expense) : Json :=
  .object [("id", .text e.id.text), ("member_id", .text e.memberId.text), ("title", .text e.title),
    ("amount", .text e.amount.text), ("created_at", stampDocument e.createdAt),
    ("modified_at", optionalDocument stampDocument e.modifiedAt)]

/-- A settlement as clients see it. -/
def settlementDocument (s : Settlement) : Json :=
  .object [("id", .text s.id.text), ("start_date", optionalDocument stampDocument s.start),
    ("end_date", stampDocument s.finish), ("transactions", .array (s.transfers.map Transfer.document))]

/-- The document of an answer, if it has one. -/
def productDocument : Product → Option Json
  | .user u => some (userDocument u)
  | .group g => some (groupDocument g)
  | .member m => some (memberDocument m)
  | .expense e => some (expenseDocument e)
  | .expenses es => some (.array (es.map expenseDocument))
  | .settlement s => some (settlementDocument s)
  | .done => none

/-! ## Responses -/

/-- The content type of documents. -/
def jsonType : String := "application/json"

/-- The content type of problem documents. -/
def problemType : String := "application/problem+json"

/-- A response with a document. -/
def documentResponse (status : Nat) (body : Option Json) : Response :=
  ⟨status, some jsonType, body⟩

/-- A response with a problem document. A problem without a location is located at the path. -/
def problemResponse (path : String) (p : Problem) : Response :=
  let location := (p.location.filter (· ≠ "")).getD path
  ⟨p.status.toNat, some problemType,
    some (Problem.documentOf p.type p.title p.status p.detail (some location) p.extra)⟩

/-- The document of a fault in a field. -/
def faultDocument (f : FieldFault) : Json :=
  .object [("field", .text f.field), ("message", .text f.fault.message), ("type", .text f.fault.code)]

/-- A request failed in a way that nobody expected. -/
def unexpectedProblem : Problem :=
  .internal "An unexpected error occurred while processing your request" []

/-- The problem of a request whose fields are not filled properly. -/
def fieldProblem (faults : List FieldFault) : Problem :=
  .validation s!"Request validation failed for {faults.length} field(s)"
    [("errors", .array (faults.map faultDocument))]

/-- What is noted about a request whose fields are not filled properly. -/
def fieldEntry (method path : String) (faults : List FieldFault) : Log.Entry :=
  .warning "Request validation failed"
    [("path", .text path), ("method", .text method), ("error_count", .integer faults.length)]

/-- What is noted about a refusal that the client is told about. -/
def problemEntry (method path : String) (p : Problem) : Log.Entry :=
  ⟨if 500 ≤ p.status then .error else .warning, "Application exception occurred",
    [("path", .text path), ("method", .text method), ("exception_type", .text p.type),
      ("status_code", .integer p.status), ("detail", .text p.detail)]⟩

/-- What is noted about a failure that nobody expected; `name` says which kind it is. -/
def unexpectedEntry (method path name : String) : Log.Entry :=
  .error "Unexpected exception occurred"
    [("path", .text path), ("method", .text method), ("exception_type", .text name)]

/-- The response to a refused request, and what is noted about it. -/
def refused (method path : String) (r : Refusal) : Response × Log.Entry :=
  match r.cause with
  | .inl p => (problemResponse path p, problemEntry method path p)
  | .inr d => (problemResponse path unexpectedProblem, unexpectedEntry method path d.name)

/-- The response to a request whose fields are not filled properly, and what is noted. -/
def invalidFields (method path : String) (faults : List FieldFault) : Response × Log.Entry :=
  (problemResponse path (fieldProblem faults), fieldEntry method path faults)

end CommonPurse.Http
