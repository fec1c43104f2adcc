/-!
# Bytes as text

UTF-8 bytes are read as `Piece`s: characters, and runs of bytes that belong to no character. A run
is as long as it could still have grown into one. `decode` reads bytes that are all text, and says
where they stop being so; `decodeLossy` puts a replacement character in the place of every run.
-/

namespace Relay.Text.Utf8

/-- A piece of a sequence of bytes. -/
inductive Piece where
  | char (c : Char)
  /-- A number of bytes that no byte could make a character of. -/
  | stray (bytes : Nat)
  /-- The bytes end within a character. -/
  | cut
  deriving DecidableEq, Repr

/-- The number of bytes that go with a first byte, the least and the greatest that the next of them
may be, and what the first byte adds to the code point. -/
def follow (first : Nat) : Option (Nat × Nat × Nat × Nat) :=
  if 0xc2 ≤ first && first ≤ 0xdf then some (1, 0x80, 0xbf, first - 0xc0)
  else if first = 0xe0 then some (2, 0xa0, 0xbf, 0)
  else if first = 0xed then some (2, 0x80, 0x9f, 0xd)
  else if 0xe1 ≤ first && first ≤ 0xef then some (2, 0x80, 0xbf, first - 0xe0)
  else if first = 0xf0 then some (3, 0x90, 0xbf, 0)
  else if 0xf1 ≤ first && first ≤ 0xf3 then some (3, 0x80, 0xbf, first - 0xf0)
  else if first = 0xf4 then some (3, 0x80, 0x8f, 4)
  else none

/-- The bytes that go on with a character, at most as many as are wanted. -/
def continuation : (wanted low high : Nat) → List UInt8 → List UInt8
  | wanted + 1, low, high, b :: rest =>
    if low ≤ b.toNat && b.toNat ≤ high then b :: continuation wanted 0x80 0xbf rest else []
  | _, _, _, _ => []

/-- The first piece of some bytes that begin with a given one, and how many bytes after that one
belong to it. -/
def piece (b : UInt8) (rest : List UInt8) : Piece × Nat :=
  if b < 0x80 then (.char (Char.ofNat b.toNat), 0)
  else
    match follow b.toNat with
    | none => (.stray 1, 0)
    | some (wanted, low, high, value) =>
      let more := continuation wanted low high rest
      if more.length = wanted then
        (.char (Char.ofNat (more.foldl (fun n b => 64 * n + (b.toNat - 0x80)) value)), wanted)
      else if more.length = rest.length then (.cut, more.length)
      else (.stray (1 + more.length), more.length)

/-- The pieces of some bytes. -/
def pieces : List UInt8 → List Piece
  | [] => []
  | b :: rest =>
    let (p, more) := piece b rest
    p :: pieces (rest.drop more)
termination_by bytes => bytes.length
decreasing_by simp only [List.length_drop, List.length_cons]; omega

/-- Why bytes are no text. -/
structure Fault where
  /-- The number of bytes before the first that belong to no character. -/
  place : Nat
  /-- How many of them there are; none if the bytes end within a character. -/
  stray : Option Nat
  deriving DecidableEq, Repr

/-- The wording of bytes that are no text. -/
def Fault.message (e : Fault) : String :=
  match e.stray with
  | some n => "invalid utf-8 sequence of " ++ toString n ++ " bytes from index " ++ toString e.place
  | none => "incomplete utf-8 byte sequence from index " ++ toString e.place

/-- Joins pieces that are all characters, counting bytes from a place on. -/
def join (place : Nat) : List Piece → Except Fault (List Char)
  | [] => .ok []
  | .char c :: ps => (join (place + c.utf8Size) ps).map (c :: ·)
  | .stray n :: _ => .error ⟨place, some n⟩
  | .cut :: _ => .error ⟨place, none⟩

/-- Reads bytes that are all text. -/
def decode (bytes : List UInt8) : Except Fault (List Char) := join 0 (pieces bytes)

/-- The character in the place of bytes that belong to none. -/
def replacement : Char := '\ufffd'

/-- Reads bytes as text, come what may. -/
def decodeLossy (bytes : List UInt8) : List Char :=
  (pieces bytes).map fun
    | .char c => c
    | _ => replacement

/-- The bytes of a text. -/
def encode (s : List Char) : List UInt8 := (String.ofList s).toUTF8.toList

end Relay.Text.Utf8
