/-!
# Addresses of databases

The address of a database names a kind of database and a driver before `://`. Two drivers can be
used: one for files and one for a server.

## Main definitions

* `CommonPurse.Store.Relational.AddressFault` — what is wrong with an address.
* `CommonPurse.Store.Relational.addressFault?` — the fault of an address, if there is one.
* `CommonPurse.Store.Relational.isFile` — whether an address is that of a file.
-/

namespace CommonPurse.Store.Relational

/-- What is wrong with the address of a database. -/
inductive AddressFault where
  /-- It does not have the form of an address. -/
  | malformed
  /-- There is no such kind of database. -/
  | unknownKind (name : String)
  /-- The driver is not there. -/
  | missingDriver (name : String)
  /-- The driver does not let other work go on. -/
  | blockingDriver (name : String)
  deriving DecidableEq, Repr

/-- What is said about an address that cannot be used. -/
def AddressFault.message : AddressFault → String
  | malformed => "Could not parse SQLAlchemy URL from given URL string"
  | unknownKind name =>
    "Can't load plugin: sqlalchemy.dialects:" ++ name.map fun c => if c = '+' then '.' else c
  | missingDriver name => "No module named '" ++ name ++ "'"
  | blockingDriver name =>
    "The asyncio extension requires an async driver to be used. The loaded '" ++ name ++
      "' is not async."

/-- Whether a character can stand in the name of a kind and a driver. -/
def isKindChar (c : Char) : Bool := c.isAlphanum || c = '_' || c = '+'

/-- The kind and the driver that an address names. -/
def kind? (address : String) : Option String :=
  let s := address.toList
  let name := s.takeWhile isKindChar
  match s.drop name.length with
  | ':' :: '/' :: '/' :: _ => if name.isEmpty then none else some (String.ofList name)
  | _ => none

/-- What is wrong with an address. -/
def addressFault? (address : String) : Option AddressFault :=
  match kind? address with
  | none => some .malformed
  | some "sqlite+aiosqlite" | some "postgresql+psycopg" | some "postgresql+psycopg_async" => none
  | some "sqlite" | some "sqlite+pysqlite" => some (.blockingDriver "pysqlite")
  | some "postgresql" | some "postgresql+psycopg2" => some (.missingDriver "psycopg2")
  | some "postgresql+asyncpg" => some (.missingDriver "asyncpg")
  | some name => some (.unknownKind name)

/-- Whether an address is that of a file. -/
def isFile (address : String) : Bool := address.startsWith "sqlite"

end CommonPurse.Store.Relational
