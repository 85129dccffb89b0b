import CommonPurse.Notification.Message
import CommonPurse.Store.Backend
import CommonPurse.Text.Query

/-!
# Transports of notifications

A notification goes to one recipient at a time: it is kept in memory, or posted to a push service
that knows the recipient by a registered device.

## Main definitions

* `CommonPurse.Notification.Transport` — how notifications are delivered.
* `CommonPurse.Notification.Delivery` — what came of one delivery.
* `CommonPurse.Notification.Transport.send` — deliver a message to a recipient.
-/

namespace CommonPurse.Notification

open CommonPurse.Store

/-- What a push service answers: a status, or nothing because it cannot be reached. -/
inductive Reply where
  | status (code : Nat)
  | unreachable
  deriving DecidableEq, Repr, Inhabited

/-- A request to a push service: its address, the key that it is signed with, the device and the
text. -/
structure PushRequest where
  url : String
  key : String
  device : String
  text : String
  deriving DecidableEq, Repr, Inhabited

/-- The address that a request goes to. -/
def PushRequest.address (r : PushRequest) : String :=
  r.url ++ "?api_key=" ++ Text.queryText r.key

/-- The body of a request to a push service. -/
def PushRequest.body (r : PushRequest) : Json :=
  .object [("to", .text r.device), ("data", .object [("message", .text r.text)])]

/-- How notifications are delivered: kept in memory, with recipients that cannot be reached, or
posted to a push service, of which the next replies are known. -/
inductive Transport where
  | memory (failing : List Id)
  | push (url token : String) (replies : List Reply)
  deriving DecidableEq, Repr, Inhabited

/-- What came of a delivery: why it failed if it did, what is logged, and what is sent. -/
structure Delivery where
  failure : Option String
  log : List Log.Entry
  kept : Bool
  posted : Option PushRequest
  deriving Inhabited

namespace Delivery

/-- A delivery that fails before anything is sent. -/
def failed (reason : String) : Delivery := ⟨some reason, [], false, none⟩

/-- What a push service made of a request. -/
def ofReply (recipient : Id) (request : PushRequest) : Reply → Delivery
  | .unreachable => ⟨some "Pushy request failed: unreachable", [], false, some request⟩
  | .status 200 => ⟨none, [], false, some request⟩
  | .status code =>
    ⟨some s!"Pushy returned HTTP {code}",
      [.warning "Pushy rejected notification"
        [("recipient_id", .text recipient.text), ("status_code", .integer code)]],
      false, some request⟩

end Delivery

/-- An address without the slashes at its end. -/
def withoutFinalSlashes (url : String) : String :=
  String.ofList (url.toList.reverse.dropWhile (· == '/')).reverse

namespace Transport

/-- The next reply of a push service, and the replies behind it. -/
def nextReply : List Reply → Reply × List Reply
  | [] => (.status 200, [])
  | r :: rest => (r, rest)

/-- Post a message to the device of a recipient. -/
def post (v : View) (url token : String) (replies : List Reply) (recipient : Id) (m : Message) :
    Delivery × Transport :=
  match v.device recipient with
  | .error _ => (.failed "Failed to look up device", .push url token replies)
  | .ok none => (.failed "No device registered", .push url token replies)
  | .ok (some device) =>
    let request : PushRequest :=
      ⟨withoutFinalSlashes url ++ "/push", token, device, m.title ++ "|" ++ m.body⟩
    let (reply, rest) := nextReply replies
    (.ofReply recipient request reply, .push url token rest)

/-- Deliver a message to a recipient. -/
def send (v : View) (recipient : Id) (m : Message) : Transport → Delivery × Transport
  | .memory failing =>
    if failing.contains recipient then (.failed "Recipient unreachable", .memory failing)
    else
      (⟨none, [.debug "Recorded notification" [("recipient_id", .text recipient.text)]],
        true, none⟩, .memory failing)
  | .push url token replies => post v url token replies recipient m

end Transport

end CommonPurse.Notification
