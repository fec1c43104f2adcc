import Relay.Row.Basic

/-!
# Statements

The statements that a store sends to a database, as data. A `Condition` selects rows: it compares
columns with parameters, which are numbered from one, and with constants. `Condition.due` says of
a row, by its columns, that it may be claimed; the first two parameters of every statement with it
are the time and the most attempts. `Statement.text` writes a statement for a table.
-/

namespace Relay

/-- The columns of a table of rows. -/
inductive Column where
  | id
  | name
  | version
  | tenant
  | username
  | occurred
  | correlation
  | causation
  | traceId
  | parentSpan
  | traceFlags
  | traceState
  | payload
  | created
  | processed
  | attempts
  | notBefore
  | claimedBy
  | claimedUntil
  | poisoned
  | lastError
  deriving DecidableEq, Repr

namespace Column

/-- The name of a column. -/
def text : Column → String
  | .id => "id"
  | .name => "name"
  | .version => "version"
  | .tenant => "tenant_id"
  | .username => "username"
  | .occurred => "occurred_utc"
  | .correlation => "correlation_id"
  | .causation => "causation_id"
  | .traceId => "trace_id"
  | .parentSpan => "parent_span_id"
  | .traceFlags => "trace_flags"
  | .traceState => "trace_state"
  | .payload => "payload"
  | .created => "created_utc"
  | .processed => "processed_utc"
  | .attempts => "attempts"
  | .notBefore => "do_not_process_before_utc"
  | .claimedBy => "claimed_by"
  | .claimedUntil => "claimed_until"
  | .poisoned => "is_poisoned"
  | .lastError => "last_error"

/-- The columns in their order. -/
def all : List Column :=
  [.id, .name, .version, .tenant, .username, .occurred, .correlation, .causation, .traceId,
    .parentSpan, .traceFlags, .traceState, .payload, .created, .processed, .attempts, .notBefore,
    .claimedBy, .claimedUntil, .poisoned, .lastError]

/-- The type of a column and what holds of its values, as a table is declared with it. -/
def declared : Column → String
  | .id => "UUID PRIMARY KEY"
  | .tenant => "UUID NOT NULL"
  | .name | .username | .payload => "TEXT NOT NULL"
  | .version => "INTEGER NOT NULL"
  | .attempts => "INTEGER NOT NULL DEFAULT 0"
  | .occurred | .created => "TIMESTAMPTZ NOT NULL"
  | .processed | .notBefore | .claimedUntil => "TIMESTAMPTZ"
  | .traceFlags => "SMALLINT"
  | .poisoned => "BOOLEAN NOT NULL DEFAULT FALSE"
  | .correlation | .causation | .traceId | .parentSpan | .traceState | .claimedBy | .lastError =>
    "TEXT"

/-- Names of columns, divided by commas. -/
def list (cs : List Column) : String := ", ".intercalate (cs.map text)

end Column

/-- What a column is compared with or set to. -/
inductive Term where
  /-- A parameter, counted from one. -/
  | parameter (n : Nat)
  | integer (n : Nat)
  | boolean (b : Bool)
  | null
  deriving DecidableEq, Repr

/-- The text of a term. -/
def Term.text : Term → String
  | .parameter n => "$" ++ toString n
  | .integer n => toString n
  | .boolean true => "TRUE"
  | .boolean false => "FALSE"
  | .null => "NULL"

/-- How a column is compared. -/
inductive Comparison where
  | equal
  | less
  | atMost
  | more
  | atLeast
  deriving DecidableEq, Repr

/-- The sign of a comparison. -/
def Comparison.text : Comparison → String
  | .equal => "="
  | .less => "<"
  | .atMost => "<="
  | .more => ">"
  | .atLeast => ">="

/-- What holds of a row. -/
inductive Condition where
  | isNull (c : Column)
  | isNotNull (c : Column)
  /-- A column that holds truth values is true. -/
  | holds (c : Column)
  | fails (c : Column)
  | compares (c : Column) (r : Comparison) (t : Term)
  /-- The column is one of those in a parameter that is a list. -/
  | among (c : Column) (parameter : Nat)
  | and (a b : Condition)
  | or (a b : Condition)
  deriving DecidableEq, Repr

namespace Condition

/-- The text of a condition. Alternatives stand in brackets. -/
def text : Condition → String
  | .isNull c => c.text ++ " IS NULL"
  | .isNotNull c => c.text ++ " IS NOT NULL"
  | .holds c => c.text
  | .fails c => "NOT " ++ c.text
  | .compares c r t => c.text ++ " " ++ r.text ++ " " ++ t.text
  | .among c n => c.text ++ " = ANY($" ++ toString n ++ ")"
  | .and a b => a.text ++ " AND " ++ b.text
  | .or a b => "(" ++ a.text ++ " OR " ++ b.text ++ ")"

/-- The row is neither processed nor poisoned. -/
def live : Condition := .and (.isNull .processed) (.fails .poisoned)

/-- The retry delay of the row is over. -/
def ready : Condition := .or (.isNull .notBefore) (.compares .notBefore .atMost (.parameter 1))

/-- No live claim holds the row. -/
def unclaimed : Condition :=
  .or (.isNull .claimedUntil) (.compares .claimedUntil .less (.parameter 1))

/-- The row has attempts left. -/
def untired : Condition := .compares .attempts .less (.parameter 2)

/-- The row may be claimed. -/
def due : Condition := .and live (.and ready (.and unclaimed untired))

/-- The row is the one of the first parameter. -/
def chosen : Condition := .compares .id .equal (.parameter 1)

end Condition

/-- A count of the rows for which a condition holds. -/
structure Tallied where
  name : String
  condition : Condition
  /-- Whether blanks set the condition apart from its brackets. -/
  spaced : Bool
  deriving DecidableEq, Repr

/-- A statement about a table of rows. -/
inductive Statement where
  | createTable
  | createIndex (name : String) (columns : List Column) (condition : Condition)
  /-- Adds a row; its columns are the parameters in their order. -/
  | insert
  /-- Whether there is a row for which a condition holds. -/
  | exists (condition : Condition)
  /-- The rows for which a condition holds, the oldest first, as many as a parameter says. -/
  | select (columns : List Column) (condition : Condition) (limit : Option Nat)
  /-- The row with a given id. -/
  | selectOne (columns : List Column) (condition : Condition)
  | update (changes : List (Column × Term)) (condition : Condition)
  | count (tallied : List Tallied)
  deriving DecidableEq, Repr

namespace Statement

/-- The text of a count. -/
def countText (t : Tallied) : String :=
  let blank := if t.spaced then " " else ""
  "COUNT(*) FILTER (" ++ blank ++ "WHERE " ++ t.condition.text ++ blank ++ ") AS " ++ t.name

/-- The text of a statement about a table. -/
def text (table : String) : Statement → String
  | .createTable =>
    "CREATE TABLE IF NOT EXISTS " ++ table ++ " ( " ++
      ", ".intercalate (Column.all.map fun c => c.text ++ " " ++ c.declared) ++ " )"
  | .createIndex name columns condition =>
    "CREATE INDEX IF NOT EXISTS " ++ table ++ "_" ++ name ++ " ON " ++ table ++ " (" ++
      Column.list columns ++ ") WHERE " ++ condition.text
  | .insert =>
    "INSERT INTO " ++ table ++ " (" ++ Column.list Column.all ++ ") VALUES (" ++
      ", ".intercalate
        ((List.range Column.all.length).map fun i => (Term.parameter (i + 1)).text) ++ ")"
  | .exists condition =>
    "SELECT EXISTS (SELECT 1 FROM " ++ table ++ " WHERE " ++ condition.text ++ ")"
  | .select columns condition limit =>
    "SELECT " ++ Column.list columns ++ " FROM " ++ table ++ " WHERE " ++ condition.text ++
      " ORDER BY created_utc ASC, id ASC" ++
      match limit with
      | some n => " LIMIT $" ++ toString n
      | none => ""
  | .selectOne columns condition =>
    "SELECT " ++ Column.list columns ++ " FROM " ++ table ++ " WHERE " ++ condition.text
  | .update changes condition =>
    "UPDATE " ++ table ++ " SET " ++
      ", ".intercalate (changes.map fun (c, t) => c.text ++ " = " ++ t.text) ++ " WHERE " ++
      condition.text
  | .count tallied =>
    "SELECT " ++ ", ".intercalate (tallied.map countText) ++ " FROM " ++ table

end Statement

end Relay
