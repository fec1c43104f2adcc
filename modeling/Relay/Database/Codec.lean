import Relay.Database.Reply
import Relay.Database.Statement
import Relay.Time.Stored

/-!
# Rows in a database

A row is sent as a value for every column and read back from a record by the names of the columns.
Attempts beyond what the column holds are sent as the most that it holds. A record is refused when
its version or its trace flags do not fit a row.
-/

namespace Relay

/-- The type of the values of a column. -/
def Column.type : Column → ColumnType
  | .id | .tenant => .uuid
  | .version | .attempts => .integer
  | .traceFlags => .smallint
  | .occurred | .created | .processed | .notBefore | .claimedUntil => .timestamp
  | .poisoned => .boolean
  | .name | .username | .correlation | .causation | .traceId | .parentSpan | .traceState | .payload
  | .claimedBy | .lastError => .text

/-- The largest number that a column of attempts holds. -/
def mostStoredAttempts : Nat := 1 <<< 31 - 1

/-- A number of attempts as it is sent. -/
def attemptsDatum (n : UInt32) : Datum := .integer (min n.toNat mostStoredAttempts)

/-- An instant as it is sent. -/
def Datum.ofInstant (t : Instant) : Datum := .timestamp t.stored

/-- A value that may be absent. -/
def Datum.ofOption {α : Type} (f : α → Datum) : Option α → Datum
  | some a => f a
  | none => .null

namespace Row

/-- The value of a row in a column. -/
def datum (r : Row) : Column → Datum
  | .id => .uuid r.id
  | .name => .text r.name
  | .version => .integer r.version.toNat
  | .tenant => .uuid r.tenant
  | .username => .text r.username
  | .occurred => .ofInstant r.occurred
  | .correlation => .ofOption .text r.correlation
  | .causation => .ofOption .text r.causation
  | .traceId => .ofOption .text r.traceId
  | .parentSpan => .ofOption .text r.parentSpan
  | .traceFlags => .ofOption (fun f : UInt8 => .integer f.toNat) r.traceFlags
  | .traceState => .ofOption .text r.traceState
  | .payload => .text r.payload
  | .created => .ofInstant r.created
  | .processed => .ofOption .ofInstant r.processed
  | .attempts => attemptsDatum r.attempts
  | .notBefore => .ofOption .ofInstant r.notBefore
  | .claimedBy => .ofOption .text r.claimedBy
  | .claimedUntil => .ofOption .ofInstant r.claimedUntil
  | .poisoned => .boolean r.poisoned
  | .lastError => .ofOption .text r.lastError

/-- The values of a row in the order of the columns. -/
def data (r : Row) : List Datum := Column.all.map r.datum

/-- The operation that faults in a record of a row are reported for. -/
def decodeOperation : String := "decode"

/-- The value of a column. -/
def readColumn (r : Record) (c : Column) : Except StoreError c.type.Value :=
  (r.value c.text c.type).mapError (·.toStoreError decodeOperation)

/-- The value of a column that may be null. -/
def readOptional (r : Record) (c : Column) : Except StoreError (Option c.type.Value) :=
  (r.optional c.text c.type).mapError (·.toStoreError decodeOperation)

/-- The fault of a number that does not fit a row. -/
def outOfRange (c : Column) (n : Int) : StoreError :=
  .serialization (c.text ++ " out of range: " ++ toString n)

/-- A version as it is read. -/
def versionOf (n : Int) : Except StoreError UInt16 :=
  if 0 ≤ n ∧ n < 0x1_0000 then .ok (UInt16.ofNat n.toNat) else .error (outOfRange .version n)

/-- Trace flags as they are read. -/
def traceFlagsOf (n : Int) : Except StoreError UInt8 :=
  if 0 ≤ n ∧ n < 0x100 then .ok (UInt8.ofNat n.toNat) else .error (outOfRange .traceFlags n)

/-- The row of a record. The columns that may not fit are read before the others. -/
def ofStored (r : Record) : Except StoreError Row := do
  let version ← versionOf (← readColumn r .version)
  let traceFlags ← (← readOptional r .traceFlags).mapM traceFlagsOf
  let attempts ← readColumn r .attempts
  let claimedBy ← readOptional r .claimedBy
  .ok
    { id := ← readColumn r .id
      name := ← readColumn r .name
      version
      tenant := ← readColumn r .tenant
      username := ← readColumn r .username
      occurred := ← readColumn r .occurred
      correlation := ← readOptional r .correlation
      causation := ← readOptional r .causation
      traceId := ← readOptional r .traceId
      parentSpan := ← readOptional r .parentSpan
      traceFlags
      traceState := ← readOptional r .traceState
      payload := ← readColumn r .payload
      created := ← readColumn r .created
      processed := ← readOptional r .processed
      attempts := UInt32.ofNat attempts.toNat
      notBefore := ← readOptional r .notBefore
      claimedBy
      claimedUntil := ← readOptional r .claimedUntil
      poisoned := ← readColumn r .poisoned
      lastError := ← readOptional r .lastError }

end Row

end Relay
