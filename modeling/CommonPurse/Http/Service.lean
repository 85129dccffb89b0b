import CommonPurse.Http.Response
import CommonPurse.Http.Route
import CommonPurse.Service

/-!
# Answering requests

A request finds its route, its fields are read, the action is carried out, and the result is shown
to the client.

## Main definitions

* `CommonPurse.Http.respond` — the response to a request.
-/

namespace CommonPurse.Http

open CommonPurse.Store
open CommonPurse.Form (FieldFault Fields)

variable {σ τ : Type}

/-- The identifier that readiness is tried with; no account has it. -/
def probe : Id := Id.nil

/-- The response that tells that the service is alive. -/
def liveResponse (service : String) (now : Timestamp) : Response :=
  documentResponse 200 (some (.object [("alive", .bool true), ("timestamp", stampDocument now),
    ("service", .text service)]))

/-- The response that tells whether the store can be read. -/
def readyResponse (ok : Bool) (now : Timestamp) : Response :=
  documentResponse (if ok then 200 else 503) (some (.object [("ready", .bool ok),
    ("checks", .object [("store", .bool ok)]), ("timestamp", stampDocument now)]))

/-- Try the store. -/
def checkReady (b : Backend σ τ) (w : World σ) : Response × World σ :=
  match (b.view w.store).user probe with
  | .ok _ => (readyResponse true w.occasion.now, w)
  | .error _ =>
    (readyResponse false w.occasion.now, w.say [.warning "Store readiness check failed" []])

/-- Show the result of a command or a query. -/
def present (method path : String) (status : Nat) (r : Except Refusal Product) (w : World σ) :
    Response × World σ :=
  match r with
  | .ok p => (documentResponse status (productDocument p), w)
  | .error e =>
    match refused method path e with
    | (response, log) => (response, w.say [log])

/-- Carry out an action. -/
def act (b : Backend σ τ) (service method path : String) (status : Nat) (a : Action)
    (w : World σ) : Response × World σ :=
  match a with
  | .live => (liveResponse service w.occasion.now, w)
  | .ready => checkReady b w
  | .command c =>
    match w.perform b c with
    | (r, w) => present method path status r w
  | .query q =>
    match w.ask b q with
    | (r, w) => present method path status r w
  | .registerDevice user device => (documentResponse status none, w.registerDevice b user device)
  | .removeDevice user => (documentResponse status none, w.removeDevice b user)

/-- The fields of a request on a route; nothing when its body cannot be read. -/
def readFields? (route : Route) (args : List String) (r : Request) : Option (Fields Action) :=
  if route.hasBody then
    match r.body with
    | .error .unreadable => none
    | .error (.malformed position) => some (.error [⟨s!"body.{position}", .badJson⟩])
    | .ok body => some (route.read r args body)
  else some (route.read r args .absent)

/-- A document that says nothing but a detail. -/
def plainDetail (status : Nat) (detail : String) : Response :=
  documentResponse status (some (.object [("detail", .text detail)]))

/-- The response to a request; `service` is the name that the service tells. -/
def respond (b : Backend σ τ) (service : String) (r : Request) (w : World σ) :
    Response × World σ :=
  let path := r.path
  match find r.method path with
  | .nothing => (plainDetail 404 "Not Found", w)
  | .wrongMethod => (plainDetail 405 "Method Not Allowed", w)
  | .withoutSlash => (⟨307, none, none⟩, w)
  | .route route args =>
    match readFields? route args r with
    | none => (plainDetail 400 "There was an error parsing the body", w)
    | some (.error faults) =>
      match invalidFields r.method path faults with
      | (response, log) => (response, w.say [log])
    | some (.ok a) => act b service r.method path route.status a w

end CommonPurse.Http
