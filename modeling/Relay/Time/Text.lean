import Relay.Decimal.Natural
import Relay.Text.Blank
import Relay.Time.Instant

/-!
# The text of instants

`Instant.text` writes an instant in UTC with the fewest of no, three, six or nine decimals that
are exact; years outside `0` to `9999` carry a sign. A leap second is written with the number after
that of the second it follows, which is 60 at the end of a minute and elsewhere that of the next
second. `Instant.read` reads a date, one of `T`, `t` and a space, a time of day and an offset from
UTC, and is lenient about blanks and about leading zeros. Parts are checked as they are read, so of
two faults the one further left is reported; that a day exists is checked once the whole text is
read.
-/

namespace Relay

/-- Why a text is no instant. -/
inductive InstantError where
  | outOfRange
  | impossible
  | invalid
  | tooShort
  | tooLong
  deriving DecidableEq, Repr

/-- The wording of a fault in the text of an instant. -/
def InstantError.message : InstantError → String
  | .outOfRange => "input is out of range"
  | .impossible => "no possible date and time matching input"
  | .invalid => "input contains invalid characters"
  | .tooShort => "premature end of input"
  | .tooLong => "trailing input"

namespace Instant

open Relay.Decimal Relay.Text Relay.Time

/-! ## Writing -/

/-- A year: four digits, with a sign outside `0` to `9999`. -/
def yearText (year : Int) : List Char :=
  if 0 ≤ year ∧ year ≤ 9999 then padded 4 year.toNat
  else (if year < 0 then '-' else '+') :: padded 4 year.natAbs

/-- The decimals of a second. -/
def fractionText (nanos : Nat) : List Char :=
  if nanos = 0 then []
  else if nanos % 1_000_000 = 0 then '.' :: padded 3 (nanos / 1_000_000)
  else if nanos % 1000 = 0 then '.' :: padded 6 (nanos / 1000)
  else '.' :: padded 9 nanos

/-- A date. -/
def dateText (d : Date) : List Char :=
  yearText d.year ++ ['-'] ++ padded 2 d.month ++ ['-'] ++ padded 2 d.day

/-- A time of day; inside a leap second the seconds are one more. -/
def clockText (secondOfDay nanos : Nat) : List Char :=
  padded 2 (secondOfDay / 3600) ++ [':'] ++ padded 2 (secondOfDay / 60 % 60) ++ [':']
    ++ padded 2 (secondOfDay % 60 + nanos / 1_000_000_000) ++ fractionText (nanos % 1_000_000_000)

/-- The characters of an instant. -/
def chars (t : Instant) : List Char :=
  dateText (Date.ofDayNumber (t.second / 86400)) ++ ['T']
    ++ clockText (t.second % 86400).toNat t.nanos ++ ['Z']

/-- The text of an instant. -/
def text (t : Instant) : String := String.ofList t.chars

/-- An instant as people read it. -/
def shown (t : Instant) : String :=
  String.ofList
    (dateText (Date.ofDayNumber (t.second / 86400)) ++ [' ']
      ++ clockText (t.second % 86400).toNat t.nanos) ++ " UTC"

instance : ToString Instant := ⟨text⟩

/-! ## Reading -/

/-- Reading a part answers its value and the rest of the text, or a fault. -/
abbrev Reading := Except InstantError

/-- Between one and `most` digits; a number beyond 64 bits is out of range. -/
def readNumber (most : Nat) (s : List Char) : Reading (Nat × List Char) :=
  let ds := (s.take most).takeWhile Char.isDigit
  match s, ds with
  | [], _ => .error .tooShort
  | _, [] => .error .invalid
  | _, _ =>
    match readDigits (1 <<< 63 - 1) 0 ds with
    | .ok n => .ok (n, s.drop ds.length)
    | .error _ => .error .outOfRange

/-- A number within bounds, blanks before it. -/
def readPart (low high : Nat) (s : List Char) : Reading (Nat × List Char) := do
  let (n, rest) ← readNumber 2 (trimStart s)
  if low ≤ n ∧ n ≤ high then .ok (n, rest) else .error .outOfRange

/-- A year: up to four digits, or a sign and any number of digits. -/
def readYear (s : List Char) : Reading (Int × List Char) := do
  let (year, rest) ← match trimStart s with
    | '-' :: r => (readNumber r.length r).map fun (n, rest) => (-(n : Int), rest)
    | '+' :: r => (readNumber r.length r).map fun (n, rest) => ((n : Int), rest)
    | r => (readNumber 4 r).map fun (n, rest) => ((n : Int), rest)
  if -0x8000_0000 ≤ year ∧ year < 0x8000_0000 then .ok (year, rest) else .error .outOfRange

/-- One character, blanks before it. -/
def expect (c : Char) (s : List Char) : Reading (List Char) :=
  match trimStart s with
  | [] => .error .tooShort
  | d :: rest => if d = c then .ok rest else .error .invalid

/-- The decimals of a second, if there is a point; digits past the ninth are dropped. -/
def readFraction : List Char → Reading (Nat × List Char)
  | '.' :: s => do
    let (n, rest) ← readNumber 9 s
    let used := s.length - rest.length
    .ok (n * Nat.pow 10 (9 - used), rest.dropWhile Char.isDigit)
  | s => .ok (0, s)

/-- Two digits, the first below `bound`. -/
def readPair (s : List Char) : Reading (Nat × List Char) :=
  match s with
  | a :: b :: rest =>
    if a.isDigit && b.isDigit then .ok (10 * digitValue a + digitValue b, rest) else .error .invalid
  | [a] => .error (if a.toNat < 0x80 then .tooShort else .invalid)
  | [] => .error .tooShort

/-- The sign of an offset: plus, hyphen or the minus sign. -/
def readSign : List Char → Reading (Bool × List Char)
  | [] => .error .tooShort
  | c :: rest =>
    if c = '+' then .ok (false, rest)
    else if c = '-' || c = '\u2212' then .ok (true, rest)
    else .error .invalid

/-- An offset from UTC in seconds: `Z`, the letters `UTC`, or a sign, hours and minutes with colons
and blanks between them. Whether the hours are in range is left open. -/
def readOffset (s : List Char) : Reading (Int × List Char) :=
  match s with
  | 'Z' :: rest => .ok (0, rest)
  | 'z' :: rest => .ok (0, rest)
  | _ =>
    if (s.take 3).map Char.toUpper = ['U', 'T', 'C'] then .ok (0, s.drop 3)
    else do
      let (negative, s) ← readSign s
      let (hours, s) ← readPair s
      let (minutes, s) ← readPair (s.dropWhile fun c => c = ':' || isBlank c)
      if 60 ≤ minutes then .error .outOfRange
      else
        let offset : Int := hours * 3600 + minutes * 60
        .ok (if negative then -offset else offset, s)

/-- The instant with the given date, second of the day, nanoseconds and offset. -/
def ofFields (date : Date) (hour minute second nanos : Nat) (offset : Int) :
    Reading Instant :=
  if !date.exists || date.year < -262143 || 262142 < date.year then .error .outOfRange
  else if offset ≤ -86400 || 86400 ≤ offset then .error .outOfRange
  else
    let leap := if second = 60 then 1 else 0
    let ofDay : Nat := hour * 3600 + minute * 60 + (second - leap)
    match ofParts (date.dayNumber * 86400 + ofDay - offset) (nanos + leap * 1_000_000_000) with
    | some t => .ok t
    | none => .error .impossible

/-- Reads an instant. -/
def read (s : List Char) : Reading Instant := do
  let (year, s) ← readYear s
  let s ← expect '-' s
  let (month, s) ← readPart 1 12 s
  let s ← expect '-' s
  let (day, s) ← readPart 1 31 s
  let s ← match s with
    | [] => .error .tooShort
    | c :: r => if c = 'T' || c = 't' || c = ' ' then .ok r else .error .invalid
  let (hour, s) ← readPart 0 23 s
  let s ← expect ':' s
  let (minute, s) ← readPart 0 59 s
  let s ← expect ':' s
  let (second, s) ← readPart 0 60 s
  let (nanos, s) ← readFraction s
  let (offset, s) ← readOffset (trimStart s)
  if !(trimStart s).isEmpty then .error .tooLong
  else ofFields ⟨year, month, day⟩ hour minute second nanos offset

end Instant

end Relay
