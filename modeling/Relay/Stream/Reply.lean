import Relay.Decimal.Natural
import Relay.Stream.Fault
import Relay.Text.Blank
import Relay.Text.Quoted
import Relay.Text.Utf8

/-!
# What a stream server answers

A reply of a stream server starts with a byte that says what follows: a status, an error, a number,
bytes of a given count, or a list of replies. `Reply.read` reads one off the front of some bytes, or
says why it cannot: the bytes may end too early, or be `Malformed`. `Reply.toText` is the text that
a reply stands for, if it is of a kind that has one. An error is a `Complaint`; one anywhere in a
list stands for the whole list.
-/

namespace Relay.Stream

/-- A reply. -/
inductive Reply where
  | nil
  | number (n : Int)
  | bytes (b : List UInt8)
  | list (rs : List Reply)
  | okay
  | status (s : String)

/-- An error that a server signals: a code and, after a blank, more about it. -/
structure Complaint where
  code : String
  detail : Option String
  deriving DecidableEq, Repr

namespace Complaint

/-- The codes that are known, and the kinds of their errors. -/
def kinds : List (String × FaultKind) :=
  [("ERR", .response), ("EXECABORT", .execAbort), ("LOADING", .busyLoading),
    ("NOSCRIPT", .noScript), ("MOVED", .moved), ("ASK", .ask), ("TRYAGAIN", .tryAgain),
    ("CLUSTERDOWN", .clusterDown), ("CROSSSLOT", .crossSlot), ("MASTERDOWN", .masterDown),
    ("READONLY", .readOnly), ("NOTBUSY", .notBusy)]

/-- The kind of a complaint. -/
def kind (c : Complaint) : FaultKind := (kinds.lookup c.code).getD .extension

/-- The wording of a complaint. -/
def message (c : Complaint) : String :=
  match kinds.lookup c.code, c.detail with
  | some kind, some detail =>
    "An error was signalled by the server - " ++ kind.name ++ ": " ++ detail
  | some kind, none => "An error was signalled by the server- " ++ kind.name
  | none, some detail => c.code ++ ": " ++ detail
  | none, none => c.code ++ ": Unknown extension error encountered"

/-- The fault of a command that is answered by a complaint. -/
def fault (c : Complaint) : Fault := ⟨c.kind, some c.code, c.message⟩

/-- The complaint of a line. -/
def ofLine (line : String) : Complaint :=
  let code := line.toList.takeWhile (· ≠ ' ')
  match line.toList.dropWhile (· ≠ ' ') with
  | [] => ⟨String.ofList code, none⟩
  | _ :: detail => ⟨String.ofList code, some (String.ofList detail)⟩

end Complaint

/-- Why bytes are no reply. -/
structure Malformed where
  /-- The number of bytes before the fault. -/
  place : Nat
  /-- What was found and not expected. -/
  unexpected : List String
  expected : Option String
  /-- What else there is to say. -/
  remarks : List String
  deriving DecidableEq, Repr

namespace Malformed

/-- A list with one more item at its end, unless it has that item. -/
def including (items : List String) (item : String) : List String :=
  if item ∈ items then items else items ++ [item]

/-- Adds a remark. -/
def remark (m : Malformed) (text : String) : Malformed :=
  { m with remarks := including m.remarks text }

/-- The wording of bytes that are no reply. -/
def message (m : Malformed) : String :=
  let heading := "parse error - " ++ FaultKind.parse.name ++ ": Parse error at " ++ toString m.place
  let lines := heading :: m.unexpected.map ("Unexpected " ++ ·) ++
    m.expected.toList.map ("Expected " ++ ·) ++ m.remarks
  String.join (lines.map (· ++ "\n"))

/-- The fault of a command that is not answered by a reply. -/
def fault (m : Malformed) : Fault := ⟨.parse, none, m.message⟩

end Malformed

/-- Why no reply could be read. -/
inductive Halt where
  /-- The bytes end within a reply. -/
  | incomplete
  | malformed (m : Malformed)
  deriving DecidableEq, Repr

/-- Bytes that are still to be read, and how many were read before them. -/
structure Input where
  place : Nat
  bytes : List UInt8

/-- Reads something off the front of some bytes. -/
abbrev Reader (α : Type) := Input → Except Halt (α × Input)

/-- How a byte is shown. -/
def shownByte (b : UInt8) : String := String.ofList ('\x60' :: Decimal.digits b.toNat ++ ['\x60'])

/-- The fault of a byte that is not the one expected. -/
def strayByte (expected : String) (i : Input) : Halt :=
  match i.bytes with
  | [] => .incomplete
  | b :: _ => .malformed ⟨i.place, [shownByte b], some expected, []⟩

/-- The fault of something that was read and cannot stand there. It is told of together with the
byte after it. -/
def strayStart (what : String) (i : Input) : Halt :=
  match i.bytes with
  | [] => .incomplete
  | b :: _ => .malformed ⟨i.place, Malformed.including [shownByte b] what, none, []⟩

/-- The bytes up to the next end of a line, and those after it. -/
def splitLine : List UInt8 → Option (List UInt8 × List UInt8)
  | 13 :: 10 :: rest => some ([], rest)
  | b :: rest => (splitLine rest).map fun (line, rest) => (b :: line, rest)
  | [] => none

/-- Reads a line. -/
def takeLine : Reader String := fun i =>
  match splitLine i.bytes with
  | none => .error .incomplete
  | some (line, rest) =>
    match Text.Utf8.decode line with
    | .ok s => .ok (String.ofList s, ⟨i.place + line.length + 2, rest⟩)
    | .error e => .error (.malformed ⟨i.place, [], none, [e.message]⟩)

/-- A number of up to 64 bits with a sign. -/
def readNumber (s : List Char) : Option Int :=
  match s with
  | '-' :: ds => (unsigned (1 <<< 63) ds).map fun n => -n
  | '+' :: ds => unsigned (1 <<< 63 - 1) ds
  | ds => unsigned (1 <<< 63 - 1) ds
where
  unsigned (most : Nat) (ds : List Char) : Option Int :=
    if ds.isEmpty then none
    else (Decimal.readDigits most 0 ds).toOption.map fun n => (n : Int)

/-- Reads a line that holds a number. -/
def takeNumber : Reader Int := fun i => do
  let (line, rest) ← takeLine i
  match readNumber (Text.trim line.toList) with
  | some n => .ok (n, rest)
  | none => .error (.malformed ⟨i.place, [], none, ["Expected integer, got garbage"]⟩)

/-- Reads the end of a line. -/
def takeLineEnd : Reader Unit := fun i =>
  match i.bytes with
  | 13 :: 10 :: rest => .ok ((), ⟨i.place + 2, rest⟩)
  | 13 :: rest => .error (strayByte "lf newline" ⟨i.place + 1, rest⟩)
  | _ => .error (strayByte "crlf newline" i)

/-- Reads bytes of a given count before the end of a line. -/
def takeBytes (n : Nat) : Reader (List UInt8) := fun i => do
  if i.bytes.length < n then .error .incomplete
  else
    let ((), rest) ← takeLineEnd ⟨i.place + n, i.bytes.drop n⟩
    .ok (i.bytes.take n, rest)

namespace Reply

/-- A reply, or the error in its place. -/
abbrev Result := Except Complaint Reply

/-- Reads a number of replies; the first error among them stands for all. -/
def readMany (one : Reader Result) : Nat → Reader (Except Complaint (List Reply))
  | 0, i => .ok (.ok [], i)
  | n + 1, i =>
    match one i with
    | .error (.malformed m) =>
      .error (.malformed (m.remark ("expected " ++ toString (n + 1) ++ " more elements")))
    | .error .incomplete => .error .incomplete
    | .ok (first, i) => do
      let (others, i) ← readMany one n i
      .ok (do .ok ((← first) :: (← others)), i)

/-- Reads a list, given how its replies are read. -/
def readList (one : Reader Result) : Reader Result := fun i => do
  let (n, rest) ← takeNumber i
  if n < 0 then .ok (.ok .nil, rest)
  else
    let (replies, rest) ← readMany one n.toNat rest
    .ok (replies.map .list, rest)

/-- Reads a reply, given how a list is read. -/
def readWith (list : Reader Result) : Reader Result := fun i =>
  match i.bytes with
  | [] => .error .incomplete
  | kind :: rest =>
    let i : Input := ⟨i.place + 1, rest⟩
    match Char.ofNat kind.toNat with
    | '+' => do
      let (line, i) ← takeLine i
      .ok (.ok (if line = "OK" then .okay else .status line), i)
    | '-' => do
      let (line, i) ← takeLine i
      .ok (.error (.ofLine line), i)
    | ':' => do
      let (n, i) ← takeNumber i
      .ok (.ok (.number n), i)
    | '$' => do
      let (n, i) ← takeNumber i
      if n < 0 then .ok (.ok .nil, i)
      else
        let (content, i) ← takeBytes n.toNat i
        .ok (.ok (.bytes content), i)
    | '*' => list i
    | _ => .error (strayStart (shownByte kind) i)

/-- Reads a reply in which lists are nested at most `depth` times. -/
def readNested : (depth : Nat) → Reader Result
  | 0 => readWith fun i => .error (strayStart "Maximum recursion depth exceeded" i)
  | depth + 1 => readWith (readList (readNested depth))

/-- How deep lists may be nested. -/
def deepest : Nat := 100

/-- Reads a reply off the front of some bytes. -/
def read (bytes : List UInt8) : Except Halt (Result × List UInt8) :=
  (readNested deepest ⟨0, bytes⟩).map fun (r, i) => (r, i.bytes)

/-- A reply as complaints about its kind show it. -/
def shown : Reply → String
  | .nil => "nil"
  | .number n => "int(" ++ toString n ++ ")"
  | .bytes b =>
    match Text.Utf8.decode b with
    | .ok s => "string-data('" ++ Text.quote (String.ofList s) ++ "')"
    | .error _ => "binary-data([" ++ ", ".intercalate (b.map fun x => toString x.toNat) ++ "])"
  | .list rs => "bulk(" ++ ", ".intercalate (rs.map shown) ++ ")"
  | .okay => "ok"
  | .status s => "status(" ++ Text.quote s ++ ")"

/-- The text that a reply stands for. -/
def toText : Reply → Option String
  | .bytes b => (Text.Utf8.decode b).toOption.map String.ofList
  | .okay => some "OK"
  | .status s => some s
  | _ => none

end Reply

end Relay.Stream
