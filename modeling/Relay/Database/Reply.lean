import Relay.Table.Call
import Relay.Text.Quoted

/-!
# What a database answers

A `Datum` is a value that is sent to a database or comes back from it, and a `Reply` the answer to
one statement. Values are taken out of a returned record by name or by place; a value that is
missing, null where it must not be, or of another type than expected is a `DatabaseFault`, and
`DatabaseFault.toStoreError` says what the caller of the store is told.
-/

namespace Relay

/-- The types of columns. -/
inductive ColumnType where
  | uuid
  | text
  | smallint
  | integer
  | bigint
  | boolean
  | timestamp
  deriving DecidableEq, Repr

namespace ColumnType

/-- The name of a type in the database. -/
def name : ColumnType → String
  | .uuid => "UUID"
  | .text => "TEXT"
  | .smallint => "INT2"
  | .integer => "INT4"
  | .bigint => "INT8"
  | .boolean => "BOOL"
  | .timestamp => "TIMESTAMPTZ"

/-- All types. -/
def all : List ColumnType := [.uuid, .text, .smallint, .integer, .bigint, .boolean, .timestamp]

/-- The type with a name, in whatever case. -/
def ofName? (s : String) : Option ColumnType := all.find? fun t => t.name = s.map Char.toUpper

/-- The name of the type that values are read into, as complaints about a type give it. -/
def target : ColumnType → String
  | .uuid => "uuid::Uuid"
  | .text => "alloc::string::String"
  | .smallint => "i16"
  | .integer => "i32"
  | .bigint => "i64"
  | .boolean => "bool"
  | .timestamp => "chrono::datetime::DateTime<chrono::offset::utc::Utc>"

end ColumnType

/-- A value in a database. -/
inductive Datum where
  | null
  | uuid (id : Uuid)
  | text (s : String)
  | integer (n : Int)
  | boolean (b : Bool)
  | timestamp (t : Instant)
  | uuids (ids : List Uuid)
  deriving DecidableEq, Repr

/-- A value of a type, as it is read. -/
@[reducible] def ColumnType.Value : ColumnType → Type
  | .uuid => Uuid
  | .text => String
  | .smallint => Int
  | .integer => Int
  | .bigint => Int
  | .boolean => Bool
  | .timestamp => Instant

/-- The value of a type that a datum holds. -/
def Datum.as? : (type : ColumnType) → Datum → Option type.Value
  | .uuid, .uuid id => some id
  | .text, .text s => some s
  | .smallint, .integer n => some n
  | .integer, .integer n => some n
  | .bigint, .integer n => some n
  | .boolean, .boolean b => some b
  | .timestamp, .timestamp t => some t
  | _, _ => none

/-- Whether a datum is a value of a type. -/
def ColumnType.holds : ColumnType → Datum → Bool
  | .smallint, .integer n => -0x8000 ≤ n && n < 0x8000
  | .integer, .integer n => -0x8000_0000 ≤ n && n < 0x8000_0000
  | .bigint, .integer n => -0x8000_0000_0000_0000 ≤ n && n < 0x8000_0000_0000_0000
  | type, d => (d.as? type).isSome

/-- A returned record: its columns with their types, and its values. -/
structure Record where
  columns : List (String × ColumnType)
  values : List Datum
  deriving DecidableEq, Repr

/-- The answer to a statement. -/
inductive Reply where
  /-- The statement changed a number of rows. -/
  | changed (count : Nat)
  /-- The database refused the statement. -/
  | refused (code message : String)
  /-- The statement returned records. -/
  | returned (records : List Record)
  /-- The statement was not sent, as the connection was closed before. -/
  | closed
  deriving DecidableEq, Repr

/-- What went wrong between a store and its database. -/
inductive DatabaseFault where
  | refused (code message : String)
  | closed
  /-- A record was expected and none came. -/
  | noRecord
  | noColumn (name : String)
  | noPlace (count place : Nat)
  /-- A value is null that must not be; `label` names its column. -/
  | null (label : String)
  | mismatch (label target : String) (expected found : ColumnType)
  deriving DecidableEq, Repr

namespace DatabaseFault

/-- The code of a refusal because of a row that is there already. -/
def duplicateCode : String := "23505"

/-- What the caller of a store is told about a fault in an operation. -/
def toStoreError (operation : String) : DatabaseFault → StoreError
  | .refused code message =>
    let text := "database error in " ++ operation ++ ": " ++ message
    .storage (if code = duplicateCode then "duplicate row: " ++ text else text)
  | .closed => .storage ("connection pool closed in " ++ operation)
  | .noRecord =>
    .storage ("sqlx error in " ++ operation ++
      ": no rows returned by a query that expected to return at least one row")
  | .noColumn name =>
    .storage ("sqlx error in " ++ operation ++ ": no column found for name: " ++ name)
  | .noPlace count place =>
    .storage ("sqlx error in " ++ operation ++ ": column index out of bounds: the len is " ++
      toString count ++ ", but the index is " ++ toString place)
  | .null label =>
    .serialization ("decode error in " ++ operation ++ ": error occurred while decoding column " ++
      label ++ ": unexpected null; try decoding as an `Option`")
  | .mismatch label target expected found =>
    .serialization ("decode error in " ++ operation ++ ": error occurred while decoding column " ++
      label ++ ": mismatched types; Rust type `" ++ target ++ "` (as SQL type `" ++
      expected.name ++ "`) is not compatible with SQL type `" ++ found.name ++ "`")

end DatabaseFault

namespace Record

/-- The place, the type and the value of a column. Of columns with one name the last counts. -/
def find? (r : Record) (name : String) : Option (ColumnType × Datum) :=
  ((r.columns.zip r.values).reverse.find? fun c => c.1.1 = name).map fun c => (c.1.2, c.2)

/-- Reads a value that may be null. A null is read whatever its type. -/
def readOptional (label : String) (type : ColumnType) :
    ColumnType × Datum → Except DatabaseFault (Option type.Value)
  | (_, .null) => .ok none
  | (found, d) =>
    if found = type then .ok (d.as? type)
    else .error (.mismatch label ("core::option::Option<" ++ type.target ++ ">") type found)

/-- Reads a value. -/
def readValue (label : String) (type : ColumnType) :
    ColumnType × Datum → Except DatabaseFault type.Value
  | (found, d) =>
    if d = .null then .error (.null label)
    else
      match if found = type then d.as? type else none with
      | some v => .ok v
      | none => .error (.mismatch label type.target type found)

/-- The value of a column that may be null. -/
def optional (r : Record) (name : String) (type : ColumnType) :
    Except DatabaseFault (Option type.Value) :=
  match r.find? name with
  | some c => readOptional (Text.quote name) type c
  | none => .error (.noColumn name)

/-- The value of a column. -/
def value (r : Record) (name : String) (type : ColumnType) : Except DatabaseFault type.Value :=
  match r.find? name with
  | some c => readValue (Text.quote name) type c
  | none => .error (.noColumn name)

/-- The value at a place. -/
def valueAt (r : Record) (place : Nat) (type : ColumnType) : Except DatabaseFault type.Value :=
  match (r.columns.zip r.values)[place]? with
  | some c => readValue (toString place) type (c.1.2, c.2)
  | none => .error (.noPlace r.columns.length place)

end Record

namespace Reply

/-- The number of rows that were changed or returned. -/
def count : Reply → Except DatabaseFault Nat
  | .changed n => .ok n
  | .returned records => .ok records.length
  | .refused code message => .error (.refused code message)
  | .closed => .error .closed

/-- The returned records. -/
def records : Reply → Except DatabaseFault (List Record)
  | .changed _ => .ok []
  | .returned records => .ok records
  | .refused code message => .error (.refused code message)
  | .closed => .error .closed

/-- The first returned record, which there must be. -/
def first (r : Reply) : Except DatabaseFault Record := do
  match ← r.records with
  | [] => .error .noRecord
  | record :: _ => .ok record

end Reply

end Relay
