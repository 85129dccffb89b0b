import CommonPurse.Store.Backend

/-!
# Commands

What a user can ask for. A command is decided on what the store shows: either it is refused, or
it comes with everything that is to be written, the event that tells of it, and the answer.

## Main definitions

* `CommonPurse.Command` — a request to change something.
* `CommonPurse.Query` — a request to see something.
* `CommonPurse.Product` — the answer to a request.
* `CommonPurse.Plan` — what a command leads to.
* `CommonPurse.Command.plan`, `CommonPurse.Query.answer` — deciding on a request.
-/

namespace CommonPurse

open CommonPurse.Store

/-- A request to change something. -/
inductive Command where
  | register (name email : Option String) (hash : Option String)
  | login (email : Option String) (hash : String)
  | logout (user : Id)
  | deleteUser (user : Id)
  | createGroup (user : Id) (name : String) (color : Option String)
  | joinGroup (user group : Id) (color : Option String)
  | changeColor (user group : Id) (color : Option String)
  | createExpense (user group : Id) (title amount : String)
  | updateExpense (user group expense : Id) (title amount : String)
  | deleteExpense (user group expense : Id)
  | settle (user group : Id)
  | deleteGroup (user group : Id)
  deriving DecidableEq, Repr, Inhabited

/-- A request to see something. -/
inductive Query where
  | user (user : Id)
  | group (user group : Id)
  | expenses (user group : Id)
  deriving DecidableEq, Repr, Inhabited

/-- The answer to a request. -/
inductive Product where
  | user (user : User)
  | group (group : Group)
  | member (member : Member)
  | expense (expense : Expense)
  | expenses (expenses : List Expense)
  | settlement (settlement : Settlement)
  | done
  deriving DecidableEq, Repr, Inhabited

/-- What a command leads to: the writes and the events of one unit of work, the answer, the user
whose device is forgotten afterwards, what is noted in the log at the end, and how many fresh
identifiers it took. -/
structure Plan where
  operation : String
  writes : List Write
  events : List Event
  product : Product
  forget : Option Id
  notices : List Log.Entry
  drawn : Nat
  deriving Inhabited

/-- Why there is no answer: the request is refused, or the store cannot be read in the course of
an operation. -/
inductive Stop where
  | refused (r : Refusal)
  | unreadable (operation : String) (e : Error)
  deriving Inhabited

/-! ## Refusals and failures -/

/-- What the client is told when the store fails. -/
def Problem.storage (operation : String) : Problem :=
  .internal Problem.internalDetail [("operation", .text operation)]

/-- What is refused to the client. -/
def Stop.refusal : Stop → Refusal
  | .refused r => r
  | .unreadable operation _ => .problem (.storage operation)

/-- What is noted about a failure of the store. -/
def storageEntry (message operation : String) (e : Error) : Log.Entry :=
  .error message [("operation", .text operation), ("corrupted_data", .bool e.isCorruption)]

/-- What is noted about a request that has no answer. -/
def Stop.log : Stop → List Log.Entry
  | .refused r =>
    match r with
    | .unsettleable f => f.log
    | _ => []
  | .unreadable operation e => [storageEntry "Storage read failed" operation e]

/-- A refusal for a reason that the client is told. -/
def Stop.problem (p : Problem) : Stop := .refused (.problem p)

/-! ## Reading -/

/-- A value of an answer of the store in the course of an operation. -/
def read {α : Type} (operation : String) : Except Error α → Except Stop α
  | .ok a => .ok a
  | .error e => .error (.unreadable operation e)

/-- The account of a user, which must exist. -/
def loadUser (v : View) (operation : String) (user : Id) : Except Stop User :=
  match v.user user with
  | .error e => .error (.unreadable operation e)
  | .ok none => .error (.problem (.notFound "User not found" "user-not-found"))
  | .ok (some u) => .ok u

/-- A group, which must exist, without pending events. -/
def loadGroup (v : View) (group : Id) : Except Stop OpenGroup :=
  match v.group group with
  | .error e => .error (.unreadable "load_group" e)
  | .ok none => .error (.problem (.notFound "Group not found" "group-not-found"))
  | .ok (some g) => .ok (.ofGroup g)

/-- A list that must have an order. -/
def ordered {α : Type} : Option α → Except Stop α
  | some a => .ok a
  | none => .error (.refused .unordered)

/-- The colour that a text names. -/
def readColor (text : Option String) : Except Stop Color :=
  match Color.parse text with
  | .ok c => .ok c
  | .error p => .error (.problem p)

/-- What an operation on a group made of it, if it was not refused. -/
def accepted {α : Type} (r : Except Refusal α × OpenGroup) : Except Stop (α × OpenGroup) :=
  match r with
  | (.ok a, w) => .ok (a, w)
  | (.error e, _) => .error (.refused e)

/-- Whether two hashes are the same. Hashes are compared only when both are plain ASCII. -/
def sameHash (stored given : String) : Except Stop Bool :=
  let plain (s : String) : Bool := s.toList.all fun c => c.toNat < 128
  if plain stored && plain given then .ok (stored == given)
  else .error (.refused .unreadableHash)

/-! ## Deciding -/

namespace Command

/-- A new account. -/
def planRegister (v : View) (o : Occasion) (name email hash : Option String) :
    Except Stop Plan := do
  match User.register o name email with
  | .error p => .error (.problem p)
  | .ok (u, e) =>
    match ← read "register" (v.userByEmail u.email) with
    | some _ => .error (.problem (.conflict "Email is already registered" (some "email-taken") []))
    | none =>
      let credential := match hash with
        | some h => if h.isEmpty then [] else [Write.saveCredential u.email h]
        | none => []
      .ok ⟨"register", .saveUser u :: credential, [e], .user u, none,
        [.info "User registered" [("user_id", .text u.id.text)]], 2⟩

/-- A user logs in with the hash that was given at the registration. -/
def planLogin (v : View) (o : Occasion) (email : Option String) (hash : String) :
    Except Stop Plan := do
  match Entry.email email with
  | .error p => .error (.problem p)
  | .ok address =>
    let stored ← read "login" (v.credential address)
    let user ← read "login" (v.userByEmail address)
    match stored, user with
    | some h, some u =>
      if ← sameHash h hash then
        .ok ⟨"login", [], [u.record (o.ids 0) o.now .loggedIn], .user u, none, [], 1⟩
      else .error (.problem (.unauthorized "Invalid credentials"))
    | _, _ => .error (.problem (.unauthorized "Invalid credentials"))

/-- A user logs out; the device of the user is forgotten. -/
def planLogout (v : View) (o : Occasion) (user : Id) : Except Stop Plan := do
  let u ← loadUser v "get_user" user
  .ok ⟨"logout", [], [u.record (o.ids 0) o.now .loggedOut], .done, some user, [], 1⟩

/-- An account is removed with its credential; the device of the user is forgotten. -/
def planDeleteUser (v : View) (o : Occasion) (user : Id) : Except Stop Plan := do
  let u ← loadUser v "get_user" user
  .ok ⟨"delete_user", [.deleteCredential u.email, .deleteUser u.id],
    [u.record (o.ids 0) o.now .deleted], .done, some user,
    [.info "User deleted" [("user_id", .text user.text)]], 1⟩

/-- A user founds a group. -/
def planCreateGroup (v : View) (o : Occasion) (user : Id) (name : String)
    (color : Option String) : Except Stop Plan := do
  let c ← readColor color
  let u ← loadUser v "load_user" user
  match OpenGroup.create o name u c with
  | .error p => .error (.problem p)
  | .ok w =>
    .ok ⟨"create_group", [.saveGroup w.group], w.pending, .group w.group, none,
      [.info "Group created" [("group_id", .text w.group.id.text), ("user_id", .text user.text)]],
      2⟩

/-- A user joins a group. -/
def planJoinGroup (v : View) (o : Occasion) (user group : Id) (color : Option String) :
    Except Stop Plan := do
  let c ← readColor color
  let u ← loadUser v "load_user" user
  let w ← loadGroup v group
  let (m, w) ← accepted (w.addMember o u c)
  .ok ⟨"join_group", [.saveGroup w.group], w.pending, .member m, none, [], 1⟩

/-- A member takes another colour. -/
def planChangeColor (v : View) (o : Occasion) (user group : Id) (color : Option String) :
    Except Stop Plan := do
  let c ← readColor color
  let w ← loadGroup v group
  let (m, w) ← accepted (w.changeColor o user c)
  .ok ⟨"change_member_color", [.saveGroup w.group], w.pending, .member m, none, [], 1⟩

/-- A member enters an expense. -/
def planCreateExpense (v : View) (o : Occasion) (user group : Id) (title amount : String) :
    Except Stop Plan := do
  let w ← loadGroup v group
  let (e, w) ← accepted (w.addExpense o user title amount)
  .ok ⟨"create_expense", [.saveExpense e], w.pending, .expense e, none, [], 2⟩

/-- A member changes an expense. -/
def planUpdateExpense (v : View) (o : Occasion) (user group expense : Id)
    (title amount : String) : Except Stop Plan := do
  let w ← loadGroup v group
  let old ← read "load_expense" (v.expense expense)
  match w.updateExpense o user old title amount with
  | (.error r, _, _) => .error (.refused r)
  | (.ok e, w, _) =>
    .ok ⟨"update_expense", [.saveExpense e], w.pending, .expense e, none, [], 1⟩

/-- A member takes an expense back. -/
def planDeleteExpense (v : View) (o : Occasion) (user group expense : Id) :
    Except Stop Plan := do
  let w ← loadGroup v group
  let old ← read "load_expense" (v.expense expense)
  let (e, w) ← accepted (w.deleteExpense o user old)
  .ok ⟨"delete_expense", [.deleteExpense e.id], w.pending, .done, none, [], 1⟩

/-- The administrator settles the open expenses of a group. -/
def planSettle (v : View) (o : Occasion) (user group : Id) : Except Stop Plan := do
  let w ← loadGroup v group
  let es ← ordered (← read "settle" (v.unsettled group))
  let last ← ordered (← read "settle" (v.lastSettlement group))
  match w.settle o user es last with
  | (.error r, _, _) => .error (.refused r)
  | (.ok s, w, es) =>
    .ok ⟨"settle", .saveSettlement s :: es.map .saveExpense, w.pending, .settlement s, none,
      [.info "Group settled" [("group_id", .text group.text),
        ("transactions", .integer s.transfers.length)]], 2⟩

/-- The administrator closes a group. -/
def planDeleteGroup (v : View) (o : Occasion) (user group : Id) : Except Stop Plan := do
  let w ← loadGroup v group
  let ((), w) ← accepted (w.delete o user)
  .ok ⟨"delete_group", [.deleteGroup group], w.pending, .done, none,
    [.info "Group deleted" [("group_id", .text group.text)]], 1⟩

/-- What a command leads to. -/
def plan (v : View) (o : Occasion) : Command → Except Stop Plan
  | register name email hash => planRegister v o name email hash
  | login email hash => planLogin v o email hash
  | logout user => planLogout v o user
  | deleteUser user => planDeleteUser v o user
  | createGroup user name color => planCreateGroup v o user name color
  | joinGroup user group color => planJoinGroup v o user group color
  | changeColor user group color => planChangeColor v o user group color
  | createExpense user group title amount => planCreateExpense v o user group title amount
  | updateExpense user group expense title amount =>
    planUpdateExpense v o user group expense title amount
  | deleteExpense user group expense => planDeleteExpense v o user group expense
  | settle user group => planSettle v o user group
  | deleteGroup user group => planDeleteGroup v o user group

end Command

namespace Query

/-- A group as one of its members sees it. -/
def groupFor (v : View) (user group : Id) : Except Stop Group := do
  let w ← loadGroup v group
  match w.group.requireMember user with
  | .error p => .error (.problem p)
  | .ok _ => .ok w.group

/-- The answer to a query. -/
def answer (v : View) : Query → Except Stop Product
  | user u => (loadUser v "get_user" u).map .user
  | group u g => (groupFor v u g).map .group
  | expenses u g => do
    let found ← groupFor v u g
    .ok (.expenses (← ordered (← read "get_expenses" (v.unsettled found.id))))

end Query

end CommonPurse
