import CommonPurse.Json

/-!
# The shapes of the tables

The columns of each table: what they hold, whether they may be empty, and which place they have in
the key of the table.

## Main definitions

* `CommonPurse.Store.Relational.Column` — a column.
* `CommonPurse.Store.Relational.Shape` — the shape of a table.
* `CommonPurse.Store.Relational.schema` — the shapes of the tables of the store.
-/

namespace CommonPurse.Store.Relational

/-- What a column holds. -/
inductive ColumnType where
  | fixedText (length : Nat)
  | shortText (most : Nat)
  | text
  | amount (digits places : Nat)
  | time
  | flag
  | document
  deriving DecidableEq, Repr, Inhabited

/-- How the type of a column is declared. -/
def ColumnType.declaration : ColumnType → String
  | fixedText n => s!"CHAR({n})"
  | shortText n => s!"VARCHAR({n})"
  | text => "TEXT"
  | amount d p => s!"NUMERIC({d}, {p})"
  | time => "DATETIME"
  | flag => "BOOLEAN"
  | document => "JSON"

/-- A column; its place in the key counts from one, and is zero when it is not in the key. -/
structure Column where
  name : String
  type : ColumnType
  required : Bool
  keyPlace : Nat
  deriving DecidableEq, Repr, Inhabited

namespace Column

/-- A column in some place of the key. -/
def key (place : Nat) (name : String) (type : ColumnType) : Column := ⟨name, type, true, place⟩

/-- A column that has to be filled. -/
def needed (name : String) (type : ColumnType) : Column := ⟨name, type, true, 0⟩

/-- A column that may be empty. -/
def optional (name : String) (type : ColumnType) : Column := ⟨name, type, false, 0⟩

/-- A column as a document: its name, its type, whether it has to be filled, and its place in the
key. -/
def document (c : Column) : Json :=
  .array [.text c.name, .text c.type.declaration, .bool c.required, .integer c.keyPlace]

end Column

/-- The shape of a table. -/
structure Shape where
  name : String
  columns : List Column
  deriving DecidableEq, Repr, Inhabited

/-- The columns of a shape as a document. -/
def Shape.document (s : Shape) : Json := .array (s.columns.map Column.document)

/-- The type of columns with identifiers. -/
def idType : ColumnType := .fixedText 32

/-- The type of columns with names. -/
def nameType : ColumnType := .shortText 255

/-- The type of columns with addresses. -/
def emailType : ColumnType := .shortText 320

/-- The shapes of the tables of the store, in the order in which they are created. -/
def schema : List Shape :=
  [⟨"users", [.key 1 "id" idType, .needed "name" nameType, .needed "email" emailType,
      .needed "created_at" .time]⟩,
    ⟨"credentials", [.key 1 "email" emailType, .needed "password_hash" .text]⟩,
    ⟨"devices", [.key 1 "user_id" idType, .needed "device_id" nameType]⟩,
    ⟨"groups", [.key 1 "id" idType, .needed "name" nameType, .needed "admin_id" idType,
      .needed "created_at" .time]⟩,
    ⟨"group_members", [.key 1 "group_id" idType, .key 2 "user_id" idType, .needed "name" nameType,
      .needed "email" emailType, .needed "is_admin" .flag, .needed "color" (.shortText 11),
      .needed "joined_at" .time]⟩,
    ⟨"expenses", [.key 1 "id" idType, .needed "group_id" idType, .needed "member_id" idType,
      .needed "title" nameType, .needed "amount" (.amount 12 2), .needed "created_at" .time,
      .optional "modified_at" .time, .needed "settled" .flag]⟩,
    ⟨"settlements", [.key 1 "id" idType, .needed "group_id" idType, .optional "start_date" .time,
      .needed "end_date" .time, .needed "transactions" .document,
      .needed "expense_ids" .document]⟩,
    ⟨"koru_event", [.key 1 "id" idType, .needed "occurred_at" .time,
      .optional "processed_at" .time, .needed "event_data" .document]⟩]

end CommonPurse.Store.Relational
