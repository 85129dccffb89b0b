import CommonPurse.Event
import CommonPurse.Form
import CommonPurse.Json.Parser
import CommonPurse.Text.Utf8

/-!
# Event documents

Events as JSON documents, in which form they are stored. A document is read loosely; what does
not describe an event is refused with the number of faults in it.

## Main definitions

* `CommonPurse.Event.document` — the document of an event.
* `CommonPurse.Event.ofDocument` — the event of a document.
* `CommonPurse.Event.encode` — the text of the document.
* `CommonPurse.Event.decode`, `decodeBytes` — the event of a text or of bytes.
-/

namespace CommonPurse

open Form

/-! ## Writing -/

/-- The document of a colour. -/
def Color.document (c : Color) : Json :=
  .object [("red", .integer c.red), ("green", .integer c.green), ("blue", .integer c.blue)]

/-- The document of a transfer. -/
def Transfer.document (t : Transfer) : Json :=
  .object [("from_id", .text t.payer.text), ("to_id", .text t.payee.text),
    ("amount", .text t.amount.text)]

/-- The document of a timestamp that may be missing. -/
def optionalTimestamp : Option Timestamp → Json
  | none => .null
  | some t => .text t.zuluText

/-- The members of an account action, behind its tag. -/
def AccountAction.members : AccountAction → List (String × Json)
  | .created name email => [("name", .text name), ("email", .text email)]
  | .loggedIn => []
  | .loggedOut => []
  | .deleted => []

/-- The members of a group action, behind its tag. -/
def GroupAction.members : GroupAction → List (String × Json)
  | .created name color => [("name", .text name), ("color", color.document)]
  | .joined color => [("color", color.document)]
  | .colorChanged previous new =>
    [("previous_color", previous.document), ("new_color", new.document)]
  | .expenseCreated id description amount date =>
    [("id", .text id.text), ("description", .text description), ("amount", .text amount.text),
      ("date", .text date.zuluText)]
  | .expenseModified id pd nd pa na =>
    [("id", .text id.text), ("previous_description", .text pd), ("new_description", .text nd),
      ("previous_amount", .text pa.text), ("new_amount", .text na.text)]
  | .expenseDeleted id => [("id", .text id.text)]
  | .settled id start finish transfers =>
    [("id", .text id.text), ("start_date", optionalTimestamp start),
      ("end_date", .text finish.zuluText), ("transactions", .array (transfers.map (·.document)))]
  | .deleted => []

/-- The document of an account action. -/
def AccountAction.document (a : AccountAction) : Json :=
  .object (("type", .text a.tag) :: a.members)

/-- The document of a group action. -/
def GroupAction.document (a : GroupAction) : Json :=
  .object (("type", .text a.tag) :: a.members)

namespace Event

/-- The document of an event. -/
def document (e : Event) : Json :=
  match e.subject with
  | .account user action =>
    .object [("aggregate", .text "user"), ("id", .text e.id.text),
      ("occurred_at", .text e.occurredAt.zuluText), ("user_id", .text user.text),
      ("kind", action.document)]
  | .group group member action =>
    .object [("aggregate", .text "group"), ("id", .text e.id.text),
      ("occurred_at", .text e.occurredAt.zuluText), ("group_id", .text group.text),
      ("member_id", .text member.text), ("kind", action.document)]

/-- The text of the document of an event. -/
def encode (e : Event) : String := e.document.compact

/-! ## Reading -/

/-- A required member of a record. -/
def required {α : Type} (members : List (String × Json)) (name : String)
    (read : Json → Checked α) : Checked α :=
  match Json.lookup name members with
  | some v => read v
  | none => .faulty 1

/-- A required member that is a single field. -/
def field {α : Type} (members : List (String × Json)) (name : String)
    (read : Json → Except Fault α) : Checked α :=
  required members name fun v => .ofField (read v)

/-- A component of a colour. -/
def component (v : Json) : Except Fault (Fin 256) :=
  match integer v with
  | .error e => .error e
  | .ok n =>
    match Color.component? n with
    | some c => .ok c
    | none => .error (if n < 0 then .below "0" else .above "255")

/-- Read a colour. -/
def readColor : Json → Checked Color
  | .object ms =>
    .map3 Color.mk (field ms "red" component) (field ms "green" component)
      (field ms "blue" component)
  | _ => .faulty 1

/-- Read a transfer. -/
def readTransfer (mode : Mode) : Json → Checked Transfer
  | .object ms =>
    .map3 Transfer.mk (field ms "from_id" identifier) (field ms "to_id" identifier)
      (field ms "amount" (decimal mode))
  | _ => .faulty 1

/-- Read the transfers of a settlement. -/
def readTransfers (mode : Mode) (members : List (String × Json)) : Checked (List Transfer) :=
  match Json.lookup "transactions" members with
  | none => .ok []
  | some (.array items) => .list (readTransfer mode) items
  | some _ => .faulty 1

/-- Read a timestamp that may be null. -/
def nullable {α : Type} (read : Json → Except Fault α) : Json → Except Fault (Option α)
  | .null => .ok none
  | v => (read v).map some

/-- Read what happened to an account. -/
def readAccountAction : Json → Checked AccountAction
  | .object ms =>
    match Json.lookup "type" ms with
    | some (.text tag) =>
      if tag = "user_created" then
        .map2 AccountAction.created (field ms "name" text) (field ms "email" text)
      else if tag = "user_login" then .ok .loggedIn
      else if tag = "user_logout" then .ok .loggedOut
      else if tag = "user_deleted" then .ok .deleted
      else .faulty 1
    | _ => .faulty 1
  | _ => .faulty 1

/-- Read what happened inside a group. -/
def readGroupAction (mode : Mode) : Json → Checked GroupAction
  | .object ms =>
    match Json.lookup "type" ms with
    | some (.text tag) =>
      if tag = "group_created" then
        .map2 GroupAction.created (field ms "name" text) (required ms "color" readColor)
      else if tag = "member_joined" then (required ms "color" readColor).map .joined
      else if tag = "member_color_changed" then
        .map2 GroupAction.colorChanged (required ms "previous_color" readColor)
          (required ms "new_color" readColor)
      else if tag = "expense_created" then
        .map2 (fun a b => GroupAction.expenseCreated a.1 a.2 b.1 b.2)
          ((field ms "id" identifier).and (field ms "description" text))
          ((field ms "amount" (decimal mode)).and (field ms "date" timestamp))
      else if tag = "expense_modified" then
        .map3 (fun i d a => GroupAction.expenseModified i d.1 d.2 a.1 a.2)
          (field ms "id" identifier)
          ((field ms "previous_description" text).and (field ms "new_description" text))
          ((field ms "previous_amount" (decimal mode)).and (field ms "new_amount" (decimal mode)))
      else if tag = "expense_deleted" then (field ms "id" identifier).map .expenseDeleted
      else if tag = "settled" then
        .map2 (fun a b => GroupAction.settled a.1 a.2 b.1 b.2)
          ((field ms "id" identifier).and (field ms "start_date" (nullable timestamp)))
          ((field ms "end_date" timestamp).and (readTransfers mode ms))
      else if tag = "group_deleted" then .ok .deleted
      else .faulty 1
    | _ => .faulty 1
  | _ => .faulty 1

/-- Read a member that has a value of its own when it is missing. -/
def withDefault {α : Type} (members : List (String × Json)) (name : String) (usual : α)
    (read : Json → Except Fault α) : Checked α :=
  match Json.lookup name members with
  | some v => .ofField (read v)
  | none => .ok usual

/-- Read the subject of an event from the members of its document. -/
def readSubject (mode : Mode) (ms : List (String × Json)) : Checked Subject :=
  match Json.lookup "aggregate" ms with
  | some (.text family) =>
    if family = "user" then
      .map2 Subject.account (field ms "user_id" identifier) (required ms "kind" readAccountAction)
    else if family = "group" then
      .map3 Subject.group (field ms "group_id" identifier) (field ms "member_id" identifier)
        (required ms "kind" (readGroupAction mode))
    else .faulty 1
  | _ => .faulty 1

/-- Whether a document names one of the two families of events. -/
def hasFamily (ms : List (String × Json)) : Bool :=
  match Json.lookup "aggregate" ms with
  | some (.text family) => family == "user" || family == "group"
  | _ => false

/-- The event of a document. A document without an identifier or without a time gets those that
are given. -/
def ofDocument (mode : Mode) (freshId : Id) (now : Timestamp) : Json → Checked Event
  | .object ms =>
    if hasFamily ms then
      .map3 Event.mk (withDefault ms "id" freshId identifier)
        (withDefault ms "occurred_at" now timestamp) (readSubject mode ms)
    else .faulty 1
  | _ => .faulty 1

/-- How deep a stored text may be nested. -/
def maxDepth : Nat := 200

/-- The event of a text. A text that is not JSON, that is nested too deep or that holds half of a
surrogate pair has one fault. -/
def decode (freshId : Id) (now : Timestamp) (s : String) : Checked Event :=
  match Json.parse? s with
  | none => .faulty 1
  | some v =>
    if v.isWellFormed && v.depth ≤ maxDepth then ofDocument .jsonText freshId now v
    else .faulty 1

/-- The event of a text in UTF-8. -/
def decodeBytes (freshId : Id) (now : Timestamp) (bytes : List UInt8) : Checked Event :=
  match Text.decodeUtf8? bytes with
  | some s => decode freshId now s
  | none => .faulty 1

end Event

end CommonPurse
