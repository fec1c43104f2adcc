import Relay.Decimal.Floating
import Relay.Json.Fault
import Relay.Text.Hex

/-!
# Scanning JSON text

The pieces that JSON text is made of: blanks, words, strings and numbers. Each reader takes the
text from its first character on and answers what it read with the rest of the text. `skipValue`
passes over a value that nobody asked for; it checks the grammar but not whether its numbers are in
range or its escapes name characters, and it keeps its own stack of open brackets, so that nesting
has no limit.

A reader that meets a problem says how many bytes it left; the place of the fault follows once the
whole text is known. The first byte of what was found wrong counts as read (`stopAt`), unless the
problem is with what came before it (`stopBefore`).
-/

namespace Relay.Json

open Relay.Text

/-- A problem, and how much of the text was left where it was met. -/
structure Stop where
  problem : Problem
  /-- The number of bytes that were left. -/
  left : Nat

/-- The fault of a text in which reading stopped. -/
def Stop.inText (stop : Stop) (text : String) : Fault :=
  ⟨stop.problem, .after (text.toUTF8.toList.take (text.utf8ByteSize - stop.left))⟩

/-- Reading a piece answers what it says and the rest of the text, or a problem. -/
abbrev Reading := Except Stop

/-- The number of bytes of a text. -/
def byteCount (s : List Char) : Nat := s.foldl (fun n c => n + c.utf8Size) 0

/-- Stops before a text. -/
def stopBefore {α : Type} (p : Problem) (s : List Char) : Reading α := .error ⟨p, byteCount s⟩

/-- Stops at the first byte of a text, if it has one, which counts as read. -/
def stopAt {α : Type} (p : Problem) (s : List Char) : Reading α := .error ⟨p, byteCount s - 1⟩

/-- Stops before a text if there is a problem with what was read. -/
def judged {α : Type} (judgement : Except Problem α) (s : List Char) : Reading α :=
  judgement.mapError fun p => ⟨p, byteCount s⟩

/-- The text without JSON's blanks at its start. -/
def skipBlank : List Char → List Char
  | [] => []
  | c :: rest =>
    if c = ' ' || c = '\n' || c = '\t' || c = '\r' then skipBlank rest else c :: rest

/-- The rest of a word, whose first letter was read. -/
def readWord : (word s : List Char) → Reading (List Char)
  | [], s => .ok s
  | _ :: _, [] => stopBefore .endInValue []
  | w :: word, c :: s => if c = w then readWord word s else stopAt .wordWanted (c :: s)

/-! ## Strings -/

/-- Four hexadecimal digits. A text of fewer than four bytes breaks off instead. -/
def readHex4 (s : List Char) : Reading (Nat × List Char) :=
  if byteCount (s.take 4) < 4 then stopBefore .endInString []
  else
    match readHex (s.take 4) with
    | some n => .ok (n, s.drop 4)
    | none => .error ⟨.badEscape, byteCount s - 4⟩

/-- The character of a surrogate pair. -/
def pairedChar (high low : Nat) : Char :=
  Char.ofNat (0x10000 + (high - 0xd800) * 0x400 + (low - 0xdc00))

/-- The second half of a surrogate pair, up to the character. -/
def readLowSurrogate (high : Nat) : List Char → Reading (Char × List Char)
  | [] => stopBefore .endInString []
  | '\\' :: [] => stopBefore .endInString []
  | '\\' :: 'u' :: rest => do
    let (low, rest) ← readHex4 rest
    if low < 0xdc00 || 0xdfff < low then stopBefore .loneSurrogate rest
    else .ok (pairedChar high low, rest)
  | '\\' :: rest => stopAt .endOfEscape rest
  | s => stopAt .endOfEscape s

/-- The character of an escape, whose backslash was read. -/
def readEscape : List Char → Reading (Char × List Char)
  | [] => stopBefore .endInString []
  | '"' :: rest => .ok ('"', rest)
  | '\\' :: rest => .ok ('\\', rest)
  | '/' :: rest => .ok ('/', rest)
  | 'b' :: rest => .ok ('\x08', rest)
  | 'f' :: rest => .ok ('\x0c', rest)
  | 'n' :: rest => .ok ('\n', rest)
  | 'r' :: rest => .ok ('\r', rest)
  | 't' :: rest => .ok ('\t', rest)
  | 'u' :: rest => do
    let (n, rest) ← readHex4 rest
    if 0xdc00 ≤ n && n ≤ 0xdfff then stopBefore .loneSurrogate rest
    else if 0xd800 ≤ n && n ≤ 0xdbff then readLowSurrogate n rest
    else .ok (Char.ofNat n, rest)
  | s => stopAt .badEscape s

/-- The next character of a string, or `none` at its closing quote. -/
def readUnit : List Char → Reading (Option Char × List Char)
  | [] => stopBefore .endInString []
  | '"' :: rest => .ok (none, rest)
  | '\\' :: rest => (readEscape rest).map fun (c, rest) => (some c, rest)
  | c :: rest =>
    if c.toNat < 0x20 then stopAt .controlInString (c :: rest) else .ok (some c, rest)

/-- The characters up to the closing quote, at most `fuel` of them. -/
def readUnits : (fuel : Nat) → List Char → Reading (List Char × List Char)
  | 0, s => stopBefore .endInString s
  | fuel + 1, s => do
    match ← readUnit s with
    | (none, rest) => .ok ([], rest)
    | (some c, rest) =>
      let (cs, rest) ← readUnits fuel rest
      .ok (c :: cs, rest)

/-- A string, whose opening quote was read. -/
def readString (s : List Char) : Reading (String × List Char) :=
  (readUnits (s.length + 1) s).map fun (cs, rest) => (String.ofList cs, rest)

/-- Passes over the rest of a string. It is left at a control, before which it stops. -/
def skipString : (fuel : Nat) → List Char → Reading (List Char)
  | 0, s => stopBefore .endInString s
  | _, [] => stopBefore .endInString []
  | _ + 1, '"' :: rest => .ok rest
  | fuel + 1, '\\' :: rest =>
    match rest with
    | [] => stopBefore .endInString []
    | c :: rest =>
      if "\"\\/bfnrt".toList.contains c then skipString fuel rest
      else if c = 'u' then do
        let (_, rest) ← readHex4 rest
        skipString fuel rest
      else stopAt .badEscape (c :: rest)
  | fuel + 1, c :: rest =>
    if c.toNat < 0x20 then stopBefore .controlInString (c :: rest) else skipString fuel rest

/-! ## Numbers -/

/-- A number as it is written: whole numbers that fit 64 bits are exact, others are floats. -/
inductive Number where
  | unsigned (n : Nat)
  | negative (i : Int)
  | float (x : Float)

/-- What a number is when something else was wanted. -/
def Number.found : Number → Found
  | .unsigned n => .integer n
  | .negative i => .integer i
  | .float x => .float x

/-- Digits read onto `n` as long as so many bits hold the value. -/
def readSignificand (bits n : Nat) : List Char → Nat × List Char
  | [] => (n, [])
  | c :: rest =>
    if c.isDigit && 10 * n + Decimal.digitValue c < 1 <<< bits then
      readSignificand bits (10 * n + Decimal.digitValue c) rest
    else (n, c :: rest)

/-- The power of ten `10 ^ k`, for `k` up to 308. -/
def powerOfTen (k : Nat) : Float := Float.ofScientific 1 false k

/-- `x · 10 ^ exponent` for a negative exponent, by divisions that stay within range. -/
def scaledDown : (fuel : Nat) → (x : Float) → (exponent : Nat) → Float
  | 0, x, _ => x
  | fuel + 1, x, exponent =>
    if exponent ≤ 308 then x / powerOfTen exponent
    else if x == 0 then x
    else scaledDown fuel (x / powerOfTen 308) (exponent - 308)

/-- `significand · 10 ^ exponent`, rounded once for the significand and once for the power. -/
def assemble (negative : Bool) (significand : Nat) (exponent : Int) : Except Problem Float := do
  let whole := significand.toUInt64.toFloat
  let x ←
    if exponent < 0 then pure (scaledDown 8 whole exponent.natAbs)
    else if 308 < exponent then
      if whole == 0 then pure whole else .error .numberTooLarge
    else
      let x := whole * powerOfTen exponent.natAbs
      if x.isInf then .error .numberTooLarge else pure x
  .ok (if negative then -x else x)

/-- The float that was read before a text. -/
def assembled (negative : Bool) (significand : Nat) (exponent : Int) (s : List Char) :
    Reading (Float × List Char) :=
  (judged (assemble negative significand exponent) s).map (·, s)

/-- The exponent of a number, whose `e` was read. Its digits are read one by one, until 32 bits with
a sign no longer hold it. -/
def readExponent (negative : Bool) (significand : Nat) (start : Int) (s : List Char) :
    Reading (Float × List Char) :=
  let (down, s) := match s with
    | '+' :: rest => (false, rest)
    | '-' :: rest => (true, rest)
    | s => (false, s)
  match s with
  | [] => stopBefore .endInValue []
  | c :: _ =>
    if !c.isDigit then stopAt .badNumber s
    else
      let (size, rest) := readSignificand 31 0 s
      if rest.head?.elim false Char.isDigit then
        if significand ≠ 0 && !down then stopAt .numberTooLarge rest
        else .ok (if negative then -0.0 else 0.0, rest.dropWhile Char.isDigit)
      else assembled negative significand (if down then start - size else start + size) rest

/-- What may follow the digits of a float: an exponent or nothing. -/
def readFloatEnd (negative : Bool) (significand : Nat) (exponent : Int) (s : List Char) :
    Reading (Float × List Char) :=
  match s with
  | 'e' :: rest => readExponent negative significand exponent rest
  | 'E' :: rest => readExponent negative significand exponent rest
  | s => assembled negative significand exponent s

/-- The decimals of a number, whose point was read. Digits that 64 bits no longer hold are passed
over. -/
def readDecimals (negative : Bool) (significand : Nat) (exponent : Int) (s : List Char) :
    Reading (Float × List Char) :=
  let (value, rest) := readSignificand 64 significand s
  let used : Nat := s.length - rest.length
  let next := rest.head?.elim false Char.isDigit
  if used = 0 && !next then
    stopAt (if rest.isEmpty then .endInValue else .badNumber) rest
  else readFloatEnd negative value (exponent - used) (rest.dropWhile Char.isDigit)

/-- What may follow the digits of a number that 64 bits hold. -/
def readNumberEnd (negative : Bool) (n : Nat) (s : List Char) : Reading (Number × List Char) :=
  match s with
  | '.' :: rest => (readDecimals negative n 0 rest).map fun (x, rest) => (.float x, rest)
  | 'e' :: rest => (readExponent negative n 0 rest).map fun (x, rest) => (.float x, rest)
  | 'E' :: rest => (readExponent negative n 0 rest).map fun (x, rest) => (.float x, rest)
  | s =>
    if !negative then .ok (.unsigned n, s)
    else if n = 0 || 1 <<< 63 < n then .ok (.float (-n.toUInt64.toFloat), s)
    else .ok (.negative (-(n : Int)), s)

/-- A number, whose sign was read. -/
def readNumber (negative : Bool) (s : List Char) : Reading (Number × List Char) :=
  match s with
  | [] => stopBefore .endInValue []
  | '0' :: rest =>
    if rest.head?.elim false Char.isDigit then stopAt .badNumber rest
    else readNumberEnd negative 0 rest
  | c :: _ =>
    if !c.isDigit then stopAt .badNumber s
    else
      let (n, rest) := readSignificand 64 0 s
      let extra := rest.takeWhile Char.isDigit
      if extra.isEmpty then readNumberEnd negative n rest
      else
        let rest := rest.dropWhile Char.isDigit
        let found := match rest with
          | '.' :: rest => readDecimals negative n extra.length rest
          | rest => readFloatEnd negative n extra.length rest
        found.map fun (x, rest) => (.float x, rest)

/-- Passes over an exponent, whose `e` was read. -/
def skipExponent (s : List Char) : Reading (List Char) :=
  let s := match s with
    | '+' :: rest => rest
    | '-' :: rest => rest
    | s => s
  if s.head?.elim false Char.isDigit then .ok (s.dropWhile Char.isDigit) else stopAt .badNumber s

/-- Passes over what follows the whole part of a number. -/
def skipNumberEnd : List Char → Reading (List Char)
  | '.' :: rest =>
    if !rest.head?.elim false Char.isDigit then stopAt .badNumber rest
    else match rest.dropWhile Char.isDigit with
      | 'e' :: rest => skipExponent rest
      | 'E' :: rest => skipExponent rest
      | rest => .ok rest
  | 'e' :: rest => skipExponent rest
  | 'E' :: rest => skipExponent rest
  | rest => .ok rest

/-- Passes over a number, whose sign was read. -/
def skipNumber : List Char → Reading (List Char)
  | [] => stopBefore .badNumber []
  | '0' :: rest =>
    if rest.head?.elim false Char.isDigit then stopAt .badNumber rest else skipNumberEnd rest
  | c :: rest =>
    if c.isDigit then skipNumberEnd (rest.dropWhile Char.isDigit)
    else stopAt .badNumber (c :: rest)

/-! ## Passing over a value -/

/-- An open bracket. -/
inductive Bracket where
  | list
  | object
  deriving DecidableEq

/-- The problem of a text that breaks off inside a bracket. -/
def Bracket.cutOff : Bracket → Problem
  | .list => .endInList
  | .object => .endInObject

/-- The problem of a value that is followed by neither a comma nor the closing bracket. -/
def Bracket.commaWanted : Bracket → Problem
  | .list => .listCommaWanted
  | .object => .objectCommaWanted

/-- The closing bracket. -/
def Bracket.close : Bracket → Char
  | .list => ']'
  | .object => '\x7d'

/-- A colon, blanks around it. -/
def readColon (s : List Char) : Reading (List Char) :=
  match skipBlank s with
  | [] => stopBefore .endInObject []
  | ':' :: rest => .ok rest
  | s => stopAt .colonWanted s

/-- Passes over a key and its colon, if the bracket holds keys. -/
def skipKey (fuel : Nat) (b : Bracket) (s : List Char) : Reading (List Char) :=
  match b with
  | .list => .ok s
  | .object =>
    match skipBlank s with
    | [] => stopBefore .endInObject []
    | '"' :: rest => do readColon (← skipString fuel rest)
    | s => stopAt .keyNotText s

/-- Passes over a value that is no bracket, whose first character is given. -/
def skipScalar (fuel : Nat) (c : Char) (rest : List Char) : Reading (List Char) :=
  if c = 'n' then readWord "ull".toList rest
  else if c = 't' then readWord "rue".toList rest
  else if c = 'f' then readWord "alse".toList rest
  else if c = '-' then skipNumber rest
  else if c.isDigit then skipNumber (c :: rest)
  else if c = '"' then skipString fuel rest
  else stopAt .valueWanted (c :: rest)

mutual

/-- Passes over a value inside some open brackets, and over what closes them. -/
def skipInside (limit : Nat) : (fuel : Nat) → List Bracket → List Char → Reading (List Char)
  | 0, _, s => stopBefore .endInValue s
  | fuel + 1, stack, s =>
    match skipBlank s with
    | [] => stopBefore .endInValue []
    | '[' :: rest => skipFirst limit fuel .list stack rest
    | '\x7b' :: rest => skipFirst limit fuel .object stack rest
    | c :: rest => do skipAfter limit fuel stack (← skipScalar limit c rest)

/-- Passes over what follows an opening bracket. -/
def skipFirst (limit : Nat) :
    (fuel : Nat) → Bracket → List Bracket → List Char → Reading (List Char)
  | 0, _, _, s => stopBefore .endInValue s
  | fuel + 1, b, stack, s =>
    match skipBlank s with
    | [] => stopBefore b.cutOff []
    | c :: rest =>
      if c = b.close then skipAfter limit fuel stack rest
      else do skipInside limit fuel (b :: stack) (← skipKey limit b (c :: rest))

/-- Passes over what follows a value inside some open brackets. -/
def skipAfter (limit : Nat) : (fuel : Nat) → List Bracket → List Char → Reading (List Char)
  | 0, _, s => stopBefore .endInValue s
  | _ + 1, [], s => .ok s
  | fuel + 1, b :: stack, s =>
    match skipBlank s with
    | [] => stopBefore b.cutOff []
    | ',' :: rest => do skipInside limit fuel (b :: stack) (← skipKey limit b rest)
    | c :: rest =>
      if c = b.close then skipAfter limit fuel stack rest else stopAt b.commaWanted (c :: rest)

end

/-- Passes over a value. -/
def skipValue (s : List Char) : Reading (List Char) :=
  skipInside (s.length + 1) (4 * s.length + 4) [] s

end Relay.Json
