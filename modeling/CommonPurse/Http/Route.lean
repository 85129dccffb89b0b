import CommonPurse.Command
import CommonPurse.Http.Request

/-!
# Routes

Which requests there are: their methods, their paths, and the fields they take.

## Main definitions

* `CommonPurse.Http.Action` — what a request asks for.
* `CommonPurse.Http.Route` — a method, a pattern of a path, and how to read the fields.
* `CommonPurse.Http.routes` — all routes.
* `CommonPurse.Http.find` — the route of a method and a path.
-/

namespace CommonPurse.Http

open CommonPurse.Form (FieldFault Fields)

/-- What a request asks for. -/
inductive Action where
  | live
  | ready
  | command (c : Command)
  | query (q : Query)
  | registerDevice (user : Id) (device : String)
  | removeDevice (user : Id)
  deriving DecidableEq, Repr, Inhabited

/-- A part of a pattern: a fixed word, or a part of the path that is an argument. -/
inductive Piece where
  | word (s : String)
  | argument
  deriving DecidableEq, Repr

/-- The arguments of a path that fits a pattern. Arguments are not empty. -/
def fit? : List Piece → List String → Option (List String)
  | [], [] => some []
  | .word w :: ps, s :: ss => if w = s then fit? ps ss else none
  | .argument :: ps, s :: ss => if s.isEmpty then none else (fit? ps ss).map (s :: ·)
  | _, _ => none

/-- A route: its method, the pattern of its path, the status of its success, whether it has a
body, and how its fields are read from the request, its arguments and its body. -/
structure Route where
  method : String
  pattern : List Piece
  status : Nat
  hasBody : Bool
  read : Request → List String → Body → Fields Action

/-! ## Fields -/

/-- The first argument of a path. -/
def groupArgument (args : List String) : Fields Id := pathId "group_id" (args[0]?.getD "")

/-- The second argument of a path. -/
def expenseArgument (args : List String) : Fields Id := pathId "expense_id" (args[1]?.getD "")

/-- The fields of a registration. -/
def readRegistration (b : Body) : Fields Action :=
  (b.fill fun ms =>
    .both (needed "name" Form.text ms)
      (.both (needed "email" Form.text ms) (optional "password_hash" Form.text ms))).map
    fun (n, e, h) => .command (.register (some n) (some e) h)

/-- The fields of a new group. -/
def readNewGroup (r : Request) (b : Body) : Fields Action :=
  (Fields.both r.actor
    (b.fill fun ms => .both (needed "name" Form.text ms) (optional "color" Form.text ms))).map
    fun (u, n, c) => .command (.createGroup u n c)

/-- The fields of an expense: its title and its amount. -/
def readEntry (b : Body) : Fields (String × Decimal) :=
  b.fill fun ms => .both (needed "title" Form.text ms) (needed "amount" (Form.decimal .document) ms)

/-- The fields of a device. -/
def readDevice (r : Request) (b : Body) : Fields Action :=
  (Fields.both r.actor (b.fill fun ms =>
    needed "device_id" (fun v => (Form.text v).bind (Form.boundedText (some 1) (some 255))) ms)).map
    fun (u, d) => .registerDevice u d

/-- A route whose only fields are the group and the acting user. -/
def readInGroup (f : Id → Id → Action) (r : Request) (args : List String) (_ : Body) :
    Fields Action :=
  (Fields.both (groupArgument args) r.actor).map fun (g, u) => f u g

/-! ## Routes -/

/-- The pattern of a path behind the common prefix. -/
def underApi (pieces : List Piece) : List Piece :=
  [.word "", .word "api", .word "v1"] ++ pieces

/-- The pattern of a path that begins with a group. -/
def underGroup (pieces : List Piece) : List Piece :=
  underApi ([.word "groups", .argument] ++ pieces)

/-- All routes, in the order in which they are tried. -/
def routes : List Route := [
  ⟨"GET", [.word "", .word "health", .word "live"], 200, false, fun _ _ _ => .ok .live⟩,
  ⟨"GET", [.word "", .word "health", .word "ready"], 200, false, fun _ _ _ => .ok .ready⟩,
  ⟨"POST", underApi [.word "users"], 201, true, fun _ _ b => readRegistration b⟩,
  ⟨"GET", underApi [.word "users", .word "me"], 200, false,
    fun r _ _ => r.actor.map fun u => .query (.user u)⟩,
  ⟨"PUT", underApi [.word "devices"], 204, true, fun r _ b => readDevice r b⟩,
  ⟨"DELETE", underApi [.word "devices"], 204, false, fun r _ _ => r.actor.map .removeDevice⟩,
  ⟨"POST", underApi [.word "groups"], 201, true, fun r _ b => readNewGroup r b⟩,
  ⟨"GET", underGroup [], 200, false, readInGroup fun u g => .query (.group u g)⟩,
  ⟨"DELETE", underGroup [], 204, false, readInGroup fun u g => .command (.deleteGroup u g)⟩,
  ⟨"POST", underGroup [.word "members"], 201, true, fun r args b =>
    (Fields.both (groupArgument args)
      (.both r.actor (b.fill fun ms => optional "color" Form.text ms))).map
      fun (g, u, c) => .command (.joinGroup u g c)⟩,
  ⟨"PUT", underGroup [.word "members", .word "me", .word "color"], 200, true, fun r args b =>
    (Fields.both (groupArgument args)
      (.both r.actor (b.fill fun ms => needed "color" Form.text ms))).map
      fun (g, u, c) => .command (.changeColor u g (some c))⟩,
  ⟨"GET", underGroup [.word "expenses"], 200, false,
    readInGroup fun u g => .query (.expenses u g)⟩,
  ⟨"POST", underGroup [.word "expenses"], 201, true, fun r args b =>
    (Fields.both (groupArgument args) (.both r.actor (readEntry b))).map
      fun (g, u, t, a) => .command (.createExpense u g t a.text)⟩,
  ⟨"PUT", underGroup [.word "expenses", .argument], 200, true, fun r args b =>
    (Fields.both (groupArgument args)
      (.both (expenseArgument args) (.both r.actor (readEntry b)))).map
      fun (g, e, u, t, a) => .command (.updateExpense u g e t a.text)⟩,
  ⟨"DELETE", underGroup [.word "expenses", .argument], 204, false, fun r args _ =>
    (Fields.both (groupArgument args) (.both (expenseArgument args) r.actor)).map
      fun (g, e, u) => .command (.deleteExpense u g e)⟩,
  ⟨"POST", underGroup [.word "settle"], 201, false,
    readInGroup fun u g => .command (.settle u g)⟩]

/-- What a method and a path lead to. -/
inductive Found where
  | route (r : Route) (args : List String)
  | wrongMethod
  | withoutSlash
  | nothing

/-- The first route whose pattern fits a path, among those of a method. -/
def firstFit (parts : List String) : List Route → Option (Route × List String)
  | [] => none
  | r :: rest =>
    match fit? r.pattern parts with
    | some args => some (r, args)
    | none => firstFit parts rest

/-- Whether some route fits a path. -/
def isKnown (parts : List String) : Bool := (firstFit parts routes).isSome

/-- The path with a slash at its end taken away, or put there. -/
def slashVariant (path : String) : String :=
  if path.endsWith "/" then String.ofList (path.toList.reverse.dropWhile (· == '/')).reverse
  else path ++ "/"

/-- The route of a method and a path. -/
def find (method path : String) : Found :=
  let parts := segments path
  match firstFit parts (routes.filter (·.method == method)) with
  | some (r, args) => .route r args
  | none =>
    if isKnown parts then .wrongMethod
    else if path ≠ "/" ∧ isKnown (segments (slashVariant path)) then .withoutSlash
    else .nothing

end CommonPurse.Http
