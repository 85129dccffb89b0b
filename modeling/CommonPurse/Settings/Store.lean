import CommonPurse.Settings.Source

/-!
# Settings of the store

Where data is kept.

## Main definitions

* `CommonPurse.Settings.Store` — the settings.
* `CommonPurse.Settings.Store.read` — the settings of a section.
* `CommonPurse.Settings.Store.url` — the address of the database.
-/

namespace CommonPurse.Settings

open CommonPurse.Form (Fields)

/-- Where data is kept: in memory, or in a database with a pool of connections. -/
structure Store where
  backend : String
  databaseUrl : Option Secret
  poolSize : Int
  maxOverflow : Int
  poolTimeout : Binary64
  poolRecycle : Int
  poolPing : Bool
  echo : Bool
  createSchema : Bool
  deriving DecidableEq, Repr, Inhabited

namespace Store

/-- What the beginning of the names is in the environment. -/
def mark : String := "store_"

/-- The settings of a section. -/
def read (c : Section) : Fields Store :=
  ((((((((Fields.of "" (.ok Store.mk)).apply
    (c.choice "backend" "memory" ["memory", "postgres"])).apply
    (Secret.field c "database_url")).apply
    (c.integer "pool_size" 10 (some 1) (some 100))).apply
    (c.integer "max_overflow" 10 (some 0) (some 100))).apply
    (c.real "pool_timeout" (.ofInt 30) (some (.ofInt 1)) none)).apply
    (c.integer "pool_recycle" 1800 (some (-1)) none)).apply
    (c.flag "pool_pre_ping" true)).apply (c.flag "echo" false) |>.apply
    (c.flag "create_schema" false)

/-- Whether data is kept in a database. -/
def usesDatabase (s : Store) : Bool := s.backend == "postgres"

/-- Whether the address of a database is known. -/
def isConfigured (s : Store) : Bool := s.databaseUrl.isSome

/-- What is said when the address of the database is missing. -/
def missingText : String := "STORE_DATABASE_URL must be set when STORE_BACKEND=postgres"

/-- The address of the database. -/
def url (s : Store) : Except String String :=
  match s.databaseUrl with
  | some u => .ok u.value
  | none => .error missingText

/-- The settings as a document. -/
def document (s : Store) : Json :=
  .object [("backend", .text s.backend), ("database_url", Secret.document s.databaseUrl),
    ("pool_size", .integer s.poolSize), ("max_overflow", .integer s.maxOverflow),
    ("pool_timeout", .real s.poolTimeout), ("pool_recycle", .integer s.poolRecycle),
    ("pool_pre_ping", .bool s.poolPing), ("echo", .bool s.echo),
    ("create_schema", .bool s.createSchema)]

end Store

end CommonPurse.Settings
