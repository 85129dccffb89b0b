import CommonPurse.Json.Parser
import CommonPurse.Settings.App
import CommonPurse.Settings.EventBus
import CommonPurse.Settings.Logging
import CommonPurse.Settings.Notifications
import CommonPurse.Settings.Store

/-!
# Settings

All settings of the service. A section is given as an object, or as the JSON text of one in the
environment, or both; what it leaves open comes from where its settings come from on their own. A
section of which nothing is given stands for itself: the first one that cannot be read is the only
one of which faults are told.

## Main definitions

* `CommonPurse.Settings` — the settings.
* `CommonPurse.Settings.Failure` — why there are none.
* `CommonPurse.Settings.read` — the settings that are given, and those around.
-/

namespace CommonPurse

/-- All settings. -/
structure Settings where
  app : Settings.App
  logging : Settings.Logging
  store : Settings.Store
  eventBus : Settings.EventBus
  notifications : Settings.Notifications
  deriving DecidableEq, Repr, Inhabited

namespace Settings

open CommonPurse.Form (FieldFault Fields)

/-- Why there are no settings: faults in fields, or a section whose text in the environment is not
JSON. -/
inductive Failure where
  | faults (fs : List FieldFault)
  | unreadable (name : String)
  deriving DecidableEq, Repr

/-- What is said about a section whose text is not JSON. -/
def unreadableText (name : String) : String :=
  "error parsing value for field \"" ++ name ++ "\" from source \"EnvSettingsSource\""

/-- How a section is read: its name, the word for what it must be an instance of, the mark of its
settings, and its reader. -/
structure Reader (α : Type) where
  name : String
  kind : String
  mark : String
  read : Section → Fields α

/-- What is given and what is in the environment; objects are merged, and otherwise what is given
counts. -/
def merged (given around : Option Json) : Option Json :=
  match given, around with
  | some (.object ms), some (.object ns) => some (.object (Json.putAll ns ms))
  | some v, _ => some v
  | none, some .null => none
  | none, v => v

/-- The text of a section in the environment. -/
def around (s : Source) (name : String) : Except Failure (Option Json) :=
  match (s.environment.reverse.find? fun v => Text.lower v.1 == name) with
  | none => .ok none
  | some v =>
    match Json.parse? v.2 with
    | some j => .ok (some j)
    | none => .error (.unreadable name)

/-- A section: `inl` when it is given, with the faults in it, and `inr` when it stands for
itself. -/
def section? {α : Type} (r : Reader α) (s : Source) (given : List (String × Json)) :
    Except Failure (Fields α ⊕ Fields α) :=
  (around s r.name).map fun env =>
    match merged (Json.lookup r.name given) env with
    | none => .inr (r.read (Section.of s r.mark []))
    | some (.object ms) => .inl (.under r.name (r.read (Section.of s r.mark ms)))
    | some _ => .inl (.error [⟨r.name, .notInstance r.kind⟩])

/-- Add a section to those that have been read. Faults in a section that stands for itself are
told at once, and alone. -/
def addSection {α β : Type} (r : Reader α) (s : Source) (given : List (String × Json))
    (before : Except Failure (Fields (α → β))) : Except Failure (Fields β) :=
  match before with
  | .error f => .error f
  | .ok f =>
    match section? r s given with
    | .error e => .error e
    | .ok (.inl a) => .ok (f.apply a)
    | .ok (.inr (.ok a)) => .ok (f.apply (.ok a))
    | .ok (.inr (.error fs)) => .error (.faults fs)

/-- The first section whose text in the environment is not JSON. -/
def unreadable? (s : Source) : Option Failure :=
  ["app", "logging", "store", "event_bus", "notification"].findSome? fun name =>
    match around s name with
    | .error f => some f
    | .ok _ => none

/-- The settings that are given, and those around. -/
def read (s : Source) (given : List (String × Json)) : Except Failure Settings :=
  match unreadable? s with
  | some f => .error f
  | none =>
    let app := addSection ⟨"app", "AppSettings", App.mark, App.read⟩ s given
      (.ok (.ok Settings.mk))
    let logging := addSection ⟨"logging", "LoggingSettings", Logging.mark, Logging.read⟩ s given app
    let store := addSection ⟨"store", "StoreSettings", Store.mark, Store.read⟩ s given logging
    let bus := addSection ⟨"event_bus", "EventBusSettings", EventBus.mark, EventBus.read⟩ s given
      store
    match addSection ⟨"notification", "NotificationSettings", Notifications.mark,
      Notifications.read⟩ s given bus with
    | .error f => .error f
    | .ok (.error fs) => .error (.faults fs)
    | .ok (.ok settings) => .ok settings

/-- The settings as a document. -/
def document (s : Settings) : Json :=
  .object [("app", s.app.document), ("logging", s.logging.document), ("store", s.store.document),
    ("event_bus", s.eventBus.document), ("notification", s.notifications.document)]

end Settings

end CommonPurse
