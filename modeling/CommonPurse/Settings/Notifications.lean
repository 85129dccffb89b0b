import CommonPurse.Notification.Transport
import CommonPurse.Settings.Source

/-!
# Settings of notifications

How members of groups are told what has happened.

## Main definitions

* `CommonPurse.Settings.Notifications` — the settings.
* `CommonPurse.Settings.Notifications.read` — the settings of a section.
* `CommonPurse.Settings.Notifications.transport` — the transport that they ask for.
-/

namespace CommonPurse.Settings

open CommonPurse.Form (Fields)

/-- How members of groups are told what has happened. -/
structure Notifications where
  provider : String
  pushyUrl : String
  pushyToken : Option Secret
  timeout : Binary64
  deriving DecidableEq, Repr, Inhabited

namespace Notifications

/-- What the beginning of the names is in the environment. -/
def mark : String := "notification_"

/-- The settings of a section. -/
def read (c : Section) : Fields Notifications :=
  (((Fields.of "" (.ok Notifications.mk)).apply
    (c.choice "provider" "none" ["none", "memory", "pushy"])).apply
    (c.text "pushy_url" "https://api.pushy.me")).apply
    (Secret.field c "pushy_token") |>.apply
    (c.real "timeout" (.ofInt 10) (some (.ofRatio false 1 10)) (some (.ofInt 120)))

/-- Whether anybody is told anything. -/
def isEnabled (n : Notifications) : Bool := n.provider != "none"

/-- What is said when the key of the push service is missing. -/
def missingText : String := "NOTIFICATION_PUSHY_TOKEN must be set when NOTIFICATION_PROVIDER=pushy"

/-- The transport of notifications, if there is to be one. -/
def transport (n : Notifications) : Except String (Option Notification.Transport) :=
  match n.provider, n.pushyToken with
  | "memory", _ => .ok (some (.memory []))
  | "pushy", some token =>
    .ok (some (.push (Notification.withoutFinalSlashes n.pushyUrl) token.value []))
  | "pushy", none => .error missingText
  | _, _ => .ok none

/-- The settings as a document. -/
def document (n : Notifications) : Json :=
  .object [("provider", .text n.provider), ("pushy_url", .text n.pushyUrl),
    ("pushy_token", Secret.document n.pushyToken), ("timeout", .real n.timeout)]

end Notifications

end CommonPurse.Settings
