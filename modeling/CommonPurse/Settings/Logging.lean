import CommonPurse.Log.Pipeline
import CommonPurse.Settings.Source

/-!
# Settings of the log

What is logged, and where it goes.

## Main definitions

* `CommonPurse.Settings.Logging` — the settings.
* `CommonPurse.Settings.Logging.read` — the settings of a section.
* `CommonPurse.Settings.Logging.configuration` — the configuration of the log that they ask for.
-/

namespace CommonPurse.Settings

open CommonPurse.Form (Fields)

/-- What is logged, and where it goes. -/
structure Logging where
  level : String
  json : Bool
  console : Bool
  includeContext : Bool
  captureWarnings : Bool
  file : Option String
  limit : Int
  copies : Int
  deriving DecidableEq, Repr, Inhabited

namespace Logging

/-- What the beginning of the names is in the environment. -/
def mark : String := "log_"

/-- The settings of a section. -/
def read (c : Section) : Fields Logging :=
  (((((((Fields.of "" (.ok Logging.mk)).apply
    (c.choice "level" "INFO" ["DEBUG", "INFO", "WARNING", "ERROR", "CRITICAL"])).apply
    (c.flag "json_logs" true)).apply (c.flag "console_enabled" true)).apply
    (c.flag "include_context" true)).apply (c.flag "capture_warnings" true)).apply
    (c.field "file_path" none (Form.nullable Form.path))).apply
    (c.integer "file_max_bytes" 10485760 (some 1024) none) |>.apply
    (c.integer "file_backup_count" 5 (some 0) (some 100))

/-- The settings other than the level, as members of a document. -/
def members (l : Logging) : List (String × Json) :=
  [("json_logs", .bool l.json), ("console_enabled", .bool l.console),
    ("include_context", .bool l.includeContext), ("capture_warnings", .bool l.captureWarnings),
    ("file_path", (l.file.map Json.text).getD .null), ("file_max_bytes", .integer l.limit),
    ("file_backup_count", .integer l.copies)]

/-- The settings as a document. -/
def document (l : Logging) : Json := .object (("level", .text l.level) :: l.members)

/-- The configuration of the log of a service. -/
def configuration (l : Logging) (service : String) : Log.Configuration :=
  ⟨l.level, l.file, l.json, l.console, l.includeContext, l.limit, l.copies, service⟩

end Logging

end CommonPurse.Settings
