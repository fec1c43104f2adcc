import Relay.Text.Invisible

/-!
# Quoted text

`quote` writes a text between double quotes so that every character in it can be seen: quotes,
backslashes and the common controls behind a backslash, other invisible characters by their code
point, everything else as it is.
-/

namespace Relay.Text

/-- A code point by its hexadecimal digits: `\u{200b}`. -/
def codePoint (c : Char) : List Char :=
  ['\\', 'u', '\x7b'] ++ Nat.toDigits 16 c.toNat ++ ['\x7d']

/-- How one character stands inside a quoted text. -/
def quoteChar (c : Char) : List Char :=
  if c = '"' then ['\\', '"']
  else if c = '\\' then ['\\', '\\']
  else if c = '\n' then ['\\', 'n']
  else if c = '\r' then ['\\', 'r']
  else if c = '\t' then ['\\', 't']
  else if c = '\x00' then ['\\', '0']
  else if c.toNat < 0x20 || c.toNat = 0x7f then codePoint c
  else if c.toNat < 0x7f then [c]
  else if isInvisible c then codePoint c
  else [c]

/-- A text between double quotes. -/
def quote (s : String) : String :=
  String.ofList (['"'] ++ s.toList.flatMap quoteChar ++ ['"'])

end Relay.Text
