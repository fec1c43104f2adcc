import Relay.Json.Kind
import Relay.Json.Scan
import Relay.Time.Text

/-!
# Reading JSON

`read` reads a value of a kind. A record is read by `parseRecord` from an object with its fields in
any order, other fields passed over, or from the list of its values; an optional field that is
missing is empty. Problems come in the order of the text: a value of the wrong type is read through
first, so that a problem in its own text wins, and fields are missed only at the closing bracket. A
problem with a whole list or object is met behind its closing bracket, if that comes next.
-/

namespace Relay.Json

open Relay.Text

/-- What a text begins with; numbers, words and strings are read through. -/
def foundIn (s : List Char) : Reading (Found × List Char) :=
  let ofNumber (negative : Bool) (s : List Char) : Reading (Found × List Char) :=
    (readNumber negative s).map fun (n, rest) => (n.found, rest)
  let ofWord (word : String) (found : Found) (s : List Char) : Reading (Found × List Char) :=
    (readWord word.toList s).map fun rest => (found, rest)
  match s with
  | 'n' :: rest => ofWord "ull" .null rest
  | 't' :: rest => ofWord "rue" (.boolean true) rest
  | 'f' :: rest => ofWord "alse" (.boolean false) rest
  | '-' :: rest => ofNumber true rest
  | '"' :: rest => (readString rest).map fun (t, rest) => (.text t, rest)
  | '[' :: _ => .ok (.sequence, s)
  | '\x7b' :: _ => .ok (.map, s)
  | c :: _ => if c.isDigit then ofNumber false s else stopAt .valueWanted s
  | [] => stopBefore .endInValue []

/-- Reads through a value that is of another type than the wanted one. -/
def mismatch {α : Type} (wanted : String) (s : List Char) : Reading α := do
  let (found, rest) ← foundIn s
  stopBefore (.type found wanted) rest

/-- A string, or what the wanted value is called. -/
def readText (wanted : String) (s : List Char) : Reading (String × List Char) :=
  match skipBlank s with
  | [] => stopBefore .endInValue []
  | '"' :: rest => readString rest
  | s => mismatch wanted s

/-- A string that holds something else. -/
def readContent {α : Type} (wanted : String) (content : List Char → Except String α)
    (s : List Char) : Reading (α × List Char) := do
  let (t, rest) ← readText wanted s
  match content t.toList with
  | .ok v => .ok (v, rest)
  | .error reason => stopBefore (.content reason) rest

/-- A number that is taken as a value of another type. -/
def readNumeric {α : Type} (wanted : String) (take : Number → Except Problem α) (s : List Char) :
    Reading (α × List Char) :=
  let finish (negative : Bool) (s : List Char) : Reading (α × List Char) := do
    let (n, rest) ← readNumber negative s
    let v ← judged (take n) rest
    .ok (v, rest)
  match skipBlank s with
  | [] => stopBefore .endInValue []
  | '-' :: rest => finish true rest
  | c :: rest => if c.isDigit then finish false (c :: rest) else mismatch wanted (c :: rest)

/-- A natural number of so many bits. -/
def takeNatural (bits : Nat) (n : Number) : Except Problem (Fin (1 <<< bits)) :=
  let wanted := "u" ++ toString bits
  match n with
  | .unsigned n => if h : n < 1 <<< bits then .ok ⟨n, h⟩ else .error (.range (.integer n) wanted)
  | .negative i => .error (.range (.integer i) wanted)
  | .float x => .error (.type (.float x) wanted)

/-- A signed number of 64 bits. -/
def takeInteger (n : Number) :
    Except Problem { i : Int // -0x8000_0000_0000_0000 ≤ i ∧ i < 0x8000_0000_0000_0000 } :=
  let ofInt (i : Int) :
      Except Problem { i : Int // -0x8000_0000_0000_0000 ≤ i ∧ i < 0x8000_0000_0000_0000 } :=
    if h : -0x8000_0000_0000_0000 ≤ i ∧ i < 0x8000_0000_0000_0000 then .ok ⟨i, h⟩
    else .error (.range (.integer i) "i64")
  match n with
  | .unsigned n => ofInt n
  | .negative i => ofInt i
  | .float x => .error (.type (.float x) "i64")

/-- Any number. -/
def takeFloat : Number → Float
  | .unsigned n => n.toUInt64.toFloat
  | .negative i => -(i.natAbs.toUInt64.toFloat)
  | .float x => x

/-- A truth value. -/
def readBoolean (s : List Char) : Reading (Bool × List Char) :=
  match skipBlank s with
  | [] => stopBefore .endInValue []
  | 't' :: rest => (readWord "rue".toList rest).map fun rest => (true, rest)
  | 'f' :: rest => (readWord "alse".toList rest).map fun rest => (false, rest)
  | s => mismatch "a boolean" s

/-- The place of a name among the known ones. -/
def readChoice (names : List String) (s : List Char) : Reading (Fin names.length × List Char) := do
  let (name, rest) ← readText "variant identifier" s
  match names.finIdxOf? name with
  | some i => .ok (i, rest)
  | none => stopBefore (.unknownVariant name names) rest

/-- Null, where nothing else may stand. -/
def readNull (s : List Char) : Reading (List Char) :=
  match skipBlank s with
  | [] => stopBefore .endInValue []
  | 'n' :: rest => readWord "ull".toList rest
  | s => mismatch "unit" s

/-- One of some names: the name itself, or an object with that name and null. -/
def readVariant (names : List String) (s : List Char) : Reading (Fin names.length × List Char) :=
  match skipBlank s with
  | [] => stopBefore .endInValue []
  | '"' :: rest => readChoice names ('"' :: rest)
  | '\x7b' :: rest => do
    let (i, rest) ← readChoice names rest
    let rest ← readNull (← readColon rest)
    match skipBlank rest with
    | [] => stopBefore .endInObject []
    | '\x7d' :: rest => .ok (i, rest)
    | rest => stopBefore .valueWanted rest
  | s => stopAt .valueWanted s

/-- One of some names, from a value that was read already; `members` are those of an object. -/
def variantOf (names : List String) (value : Found) (members : List (String × Found)) :
    Except Problem (Fin names.length) :=
  let named (name : String) : Except Problem (Fin names.length) :=
    match names.finIdxOf? name with
    | some i => .ok i
    | none => .error (.unknownVariant name names)
  match value, members with
  | .text name, _ => named name
  | .map, [(name, held)] => do
    let i ← named name
    match held with
    | .null => .ok i
    | found => .error (.type found "unit")
  | .map, _ => .error (.range .map "map with a single key")
  | found, _ => .error (.type found "string or map")

/-! ## Brackets -/

/-- Whether a list has another value, and the text from there. -/
def nextItem (first : Bool) (s : List Char) : Reading (Option (List Char)) :=
  match skipBlank s with
  | [] => stopBefore .endInList []
  | ']' :: _ => .ok none
  | c :: rest =>
    if first then .ok (some (c :: rest))
    else if c = ',' then
      match skipBlank rest with
      | [] => stopBefore .endInValue []
      | ']' :: rest => stopAt .trailingComma (']' :: rest)
      | rest => .ok (some rest)
    else stopAt .listCommaWanted (c :: rest)

/-- The end of a list. -/
def endList (s : List Char) : Reading (List Char) :=
  match skipBlank s with
  | [] => stopBefore .endInList []
  | ']' :: rest => .ok rest
  | ',' :: rest =>
    let rest := skipBlank rest
    stopAt (if rest.head? = some ']' then .trailingComma else .trailingCharacters) rest
  | s => stopAt .trailingCharacters s

/-- What is left when a problem with a whole list is met: its end is looked for first. -/
def pastList (s : List Char) : List Char :=
  match skipBlank s with
  | ']' :: rest => rest
  | ',' :: rest => skipBlank rest
  | s => s

/-- What is left when a problem with a whole object is met: its end is looked for first. -/
def pastObject (s : List Char) : List Char :=
  match skipBlank s with
  | '\x7d' :: rest => rest
  | s => s

/-- The next key of an object, or `none` at its closing bracket, which is passed over. -/
def nextKey (first : Bool) (s : List Char) : Reading (Option String × List Char) :=
  let key (s : List Char) : Reading (Option String × List Char) :=
    (readString s).map fun (k, rest) => (some k, rest)
  match skipBlank s with
  | [] => stopBefore .endInObject []
  | '\x7d' :: rest => .ok (none, rest)
  | c :: rest =>
    if first then (if c = '"' then key rest else stopAt .keyNotText (c :: rest))
    else if c = ',' then
      match skipBlank rest with
      | [] => stopBefore .endInValue []
      | '"' :: rest => key rest
      | '\x7d' :: rest => stopAt .trailingComma ('\x7d' :: rest)
      | rest => stopAt .keyNotText rest
    else stopAt .objectCommaWanted (c :: rest)

/-! ## Durations -/

/-- The two parts of a duration. -/
structure Parts where
  seconds : Option (Fin (1 <<< 64)) := none
  nanos : Option (Fin (1 <<< 32)) := none

/-- The fields of a duration in any order; no other fields may stand beside them. -/
def readParts : (fuel : Nat) → (first : Bool) → Parts → List Char → Reading (Parts × List Char)
  | 0, _, _, s => stopBefore .endInObject s
  | fuel + 1, first, parts, s => do
    match ← nextKey first s with
    | (none, rest) => .ok (parts, rest)
    | (some key, rest) =>
      if key = "secs" then
        if parts.seconds.isSome then stopBefore (.duplicateField key) (pastObject rest)
        else
          let (n, rest) ← readNumeric "u64" (takeNatural 64) (← readColon rest)
          readParts fuel false { parts with seconds := some n } rest
      else if key = "nanos" then
        if parts.nanos.isSome then stopBefore (.duplicateField key) (pastObject rest)
        else
          let (n, rest) ← readNumeric "u32" (takeNatural 32) (← readColon rest)
          readParts fuel false { parts with nanos := some n } rest
      else stopBefore (.unknownField key ["secs", "nanos"]) (pastObject rest)

/-- A duration of the given parts. -/
def durationOf (seconds nanos : Nat) : Except Problem Duration :=
  match Duration.ofParts seconds nanos with
  | some d => .ok d
  | none => .error (.content "overflow deserializing Duration")

/-- A duration: an object or list of its seconds and nanoseconds. -/
def readDuration (s : List Char) : Reading (Duration × List Char) :=
  let wanted := "struct Duration"
  match skipBlank s with
  | [] => stopBefore .endInValue []
  | '[' :: rest => do
    let some next ← nextItem true rest | stopBefore (.length 0 wanted) (pastList rest)
    let (seconds, rest) ← readNumeric "u64" (takeNatural 64) next
    let some next ← nextItem false rest | stopBefore (.length 1 wanted) (pastList rest)
    let (nanos, rest) ← readNumeric "u32" (takeNatural 32) next
    let d ← judged (durationOf seconds.val nanos.val) (pastList rest)
    .ok (d, ← endList rest)
  | '\x7b' :: rest => do
    let (parts, rest) ← readParts (rest.length + 1) true {} rest
    match parts.seconds, parts.nanos with
    | none, _ => stopBefore (.missingField "secs") rest
    | _, none => stopBefore (.missingField "nanos") rest
    | some seconds, some nanos =>
      let d ← judged (durationOf seconds.val nanos.val) rest
      .ok (d, rest)
  | s => mismatch wanted s

/-! ## Members of any kind -/

/-- The members of an object up to its closing bracket, with the texts of their values. -/
def readMembers : (fuel : Nat) → (first : Bool) → List Char → Reading (List (String × List Char))
  | 0, _, s => stopBefore .endInObject s
  | fuel + 1, first, s => do
    match ← nextKey first s with
    | (none, _) => .ok []
    | (some key, rest) =>
      let value := skipBlank (← readColon rest)
      let rest ← skipValue value
      .ok ((key, value.take (value.length - rest.length)) :: (← readMembers fuel false rest))

/-- The members of an object, with the texts of their values; other values have none. -/
def membersIn (s : List Char) : Reading (List (String × List Char)) :=
  match skipBlank s with
  | '\x7b' :: rest => readMembers (rest.length + 1) true rest
  | _ => .ok []

/-- One of some names, from the text of a value that is read without knowing what is wanted. -/
def variantIn (names : List String) (s : List Char) : Except Problem (Fin names.length) := do
  let found (s : List Char) : Except Problem Found :=
    ((foundIn s).mapError Stop.problem).map Prod.fst
  let members ← (membersIn s).mapError Stop.problem
  let members ← members.mapM fun (name, value) => do .ok (name, ← found value)
  variantOf names (← found s) members

/-! ## Values and records -/

/-- A value of a kind. -/
def read : (kind : Kind) → List Char → Reading (kind.Value × List Char)
  | .text, s => readText "a string" s
  | .uuid, s =>
    readContent "a formatted UUID string"
      (fun t => (Uuid.read t).mapError fun e => "UUID parsing failed: " ++ e.message) s
  | .instant, s =>
    readContent "an RFC 3339 formatted date and time string"
      (fun t => (Instant.read t).mapError InstantError.message) s
  | .boolean, s => readBoolean s
  | .natural bits, s => readNumeric ("u" ++ toString bits) (takeNatural bits) s
  | .integer, s => readNumeric "i64" takeInteger s
  | .number, s => readNumeric "f64" (fun n => .ok (takeFloat n)) s
  | .duration, s => readDuration s
  | .choice names, s => readVariant names s
  | .optional kind, s =>
    match skipBlank s with
    | 'n' :: rest => (readWord "ull".toList rest).map fun rest => (none, rest)
    | s => (read kind s).map fun (v, rest) => (some v, rest)

/-- The value of a field named `key`, whose name was read, put into its slot; the value of another
field is passed over. -/
def readSlot (key : String) : (fields : List Field) → Slots fields → List Char →
    Reading (Slots fields × List Char)
  | [], (), s => do
    let rest ← skipValue (← readColon s)
    .ok ((), rest)
  | f :: fs, (v, vs), s =>
    if f.name = key then
      if v.isSome then stopBefore (.duplicateField key) (pastObject s)
      else do
        let (v, rest) ← read f.kind (← readColon s)
        .ok ((some v, vs), rest)
    else do
      let (vs, rest) ← readSlot key fs vs s
      .ok ((v, vs), rest)

/-- The fields of an object up to its closing bracket. -/
def readSlots (fields : List Field) :
    (fuel : Nat) → (first : Bool) → Slots fields → List Char → Reading (Slots fields × List Char)
  | 0, _, _, s => stopBefore .endInObject s
  | fuel + 1, first, slots, s => do
    match ← nextKey first s with
    | (none, rest) => .ok (slots, rest)
    | (some key, rest) =>
      let (slots, rest) ← readSlot key fields slots rest
      readSlots fields fuel false slots rest

/-- The value of a field that was not there. -/
def absent (f : Field) : Except Problem f.kind.Value :=
  match f with
  | ⟨_, .optional _⟩ => .ok none
  | ⟨name, _⟩ => .error (.missingField name)

/-- The record of the values read, if none is missing. -/
def complete : (fields : List Field) → Slots fields → Except Problem (Record fields)
  | [], () => .ok ()
  | f :: fs, (v, vs) => do
    let v ← match v with
      | some v => .ok v
      | none => absent f
    let vs ← complete fs vs
    .ok (v, vs)

/-- The values of a list in the order of the fields; `place` of them were read. -/
def readItems (wanted : String) : (fields : List Field) → (place : Nat) → List Char →
    Reading (Record fields × List Char)
  | [], _, s => .ok ((), s)
  | f :: fs, place, s => do
    let some next ← nextItem (place = 0) s | stopBefore (.length place wanted) (pastList s)
    let (v, s) ← read f.kind next
    let (vs, s) ← readItems wanted fs (place + 1) s
    .ok ((v, vs), s)

/-- What a record is called in a fault. -/
def recordName (name : String) : String := "struct " ++ name

/-- What a list of the wrong length should have been. -/
def listName (name : String) (fields : List Field) : String :=
  let count := fields.length
  recordName name ++ " with " ++ toString count ++ (if count = 1 then " element" else " elements")

/-- A record. -/
def readRecord (name : String) (fields : List Field) (s : List Char) :
    Reading (Record fields × List Char) :=
  match skipBlank s with
  | [] => stopBefore .endInValue []
  | '[' :: rest => do
    let (r, rest) ← readItems (listName name fields) fields 0 rest
    .ok (r, ← endList rest)
  | '\x7b' :: rest => do
    let (slots, rest) ← readSlots fields (rest.length + 1) true (Slots.empty fields) rest
    let r ← judged (complete fields slots) rest
    .ok (r, rest)
  | s => mismatch (recordName name) s

/-- Nothing but blanks may follow what was read. -/
def ended {α : Type} : α × List Char → Reading α
  | (v, rest) =>
    if (skipBlank rest).isEmpty then .ok v else stopAt .trailingCharacters (skipBlank rest)

/-- Takes up a whole text. -/
def whole {α : Type} (reader : List Char → Reading (α × List Char)) (text : String) :
    Except Fault α := ((reader text.toList).bind ended).mapError fun stop => stop.inText text

/-- Reads a whole text as a value of a kind. -/
def parse (kind : Kind) (text : String) : Except Fault kind.Value := whole (read kind) text

/-- Reads a whole text as a record. -/
def parseRecord (name : String) (fields : List Field) (text : String) :
    Except Fault (Record fields) := whole (readRecord name fields) text

end Relay.Json
