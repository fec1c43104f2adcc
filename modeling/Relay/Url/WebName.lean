import Relay.Text.Alphanumeric
import Relay.Text.Invisible
import Relay.Text.Mark
import Relay.Text.Parts
import Relay.Text.Punycode

/-!
# Names of the web

A name of the web may be in any script. `settled?` is the name as it is looked up: in lower case,
wide forms of ASCII characters taken for those characters, and without characters that are passed
over. There is none if a part of the name holds what no name may hold, or if it mixes the directions
of scripts so that one could not tell where it begins. A part that begins with `xn--` stands for
another part, which has to be settled already.
-/

namespace Relay.Url.WebName

open Relay.Text

/-! ## Characters -/

/-- What no name of the web may hold. -/
def isDenied (c : Char) : Bool := c ≤ ' ' || c = '\x7f' || "%#/:<>?@[\\]^|".toList.contains c

/-- Whether a character is passed over in names. -/
def isIgnored (c : Char) : Bool :=
  let n := c.toNat
  n = 0xad || n = 0x34f || n = 0x200b || n = 0x2060 || n = 0x2064 || n = 0xfeff ||
    (0x180b ≤ n && n ≤ 0x180d) || n = 0x180f || (0x1bca0 ≤ n && n ≤ 0x1bca3) ||
    (0xfe00 ≤ n && n ≤ 0xfe0f) || (0xe0100 ≤ n && n ≤ 0xe01ef)

/-- The rows of digits that are raised, lowered, circled or in another style: the first and the last
of them, and the value of the first. -/
def styledDigits : List (Nat × Nat × Nat) :=
  [(0xb2, 0xb3, 2), (0xb9, 0xb9, 1), (0x2070, 0x2070, 0), (0x2074, 0x2079, 4), (0x2080, 0x2089, 0),
    (0x2460, 0x2468, 1), (0x24ea, 0x24ea, 0), (0x1d7ce, 0x1d7ff, 0), (0x1fbf0, 0x1fbf9, 0)]

/-- What stands for a character: wide forms of ASCII characters and styled digits are taken for the
plain ones, and the full stops of other scripts for points. -/
def folded (c : Char) : Char :=
  let n := c.toNat
  if n = 0x3002 || n = 0xff61 then '.'
  else if 0xff01 ≤ n && n ≤ 0xff5e then (Char.ofNat (n - 0xfee0)).toLower
  else
    match styledDigits.find? fun (first, last, _) => first ≤ n && n ≤ last with
    | some (first, _, value) => Char.ofNat ('0'.toNat + (n - first + value) % 10)
    | none => c.toLower

/-- The signs that stand for several characters of which one is denied, or that are no text of
their own. -/
def barredSigns : List (Nat × Nat) :=
  [(0xa8, 0xa8), (0xaf, 0xaf), (0xb4, 0xb4), (0xb8, 0xb8), (0x2d8, 0x2dd), (0x37a, 0x37a),
    (0x384, 0x385), (0x1806, 0x1806), (0x1fbd, 0x1fbd), (0x1fbf, 0x1fc1), (0x1fcd, 0x1fcf),
    (0x1fdd, 0x1fdf), (0x1fed, 0x1fee), (0x1ffd, 0x1ffe), (0x2017, 0x2017), (0x2024, 0x2026),
    (0x203e, 0x203e), (0x2047, 0x2049), (0x2100, 0x2101), (0x2105, 0x2106), (0x2488, 0x249b),
    (0x2a74, 0x2a74), (0x2ff0, 0x2fff), (0x309b, 0x309c), (0x31ef, 0x31ef), (0x33c2, 0x33c2),
    (0x33c7, 0x33c7), (0x33d8, 0x33d8), (0xfc5e, 0xfc63), (0xfdfa, 0xfdfb), (0xfe12, 0xfe13),
    (0xfe16, 0xfe16), (0xfe19, 0xfe19), (0xfe30, 0xfe30), (0xfe47, 0xfe4c), (0xfe52, 0xfe52),
    (0xfe55, 0xfe56), (0xfe5f, 0xfe5f), (0xfe64, 0xfe65), (0xfe68, 0xfe68), (0xfe6a, 0xfe6b),
    (0xfe70, 0xfe70), (0xfe72, 0xfe72), (0xfe74, 0xfe74), (0xfe76, 0xfe76), (0xfe78, 0xfe78),
    (0xfe7a, 0xfe7a), (0xfe7c, 0xfe7c), (0xfe7e, 0xfe7e), (0xffe3, 0xffe3), (0xfffc, 0xfffd),
    (0x1f100, 0x1f100)]

/-- The joiners of letters. -/
def isJoiner (c : Char) : Bool := c.toNat = 0x200c || c.toNat = 0x200d

/-- Whether a character beyond ASCII may not stand in a name. -/
def isBarred (c : Char) : Bool :=
  0x80 ≤ c.toNat && !isJoiner c &&
    (isInvisible c && !isMark c ||
      barredSigns.any fun (first, last) => first ≤ c.toNat && c.toNat ≤ last)

/-! ## Joiners -/

/-- The signs that take the vowel off a letter. -/
def vowelKillers : List Nat :=
  [0x94d, 0x9cd, 0xa4d, 0xacd, 0xb4d, 0xbcd, 0xc4d, 0xccd, 0xd3b, 0xd3c, 0xd4d, 0xdca, 0xe3a, 0xeba,
    0xf84, 0x1039, 0x103a, 0x1714, 0x1715, 0x1734, 0x17d2, 0x1a60, 0x1b44, 0x1baa, 0x1bab, 0x1bf2,
    0x1bf3, 0x2d7f, 0xa806, 0xa82c, 0xa8c4, 0xa953, 0xa9c0, 0xaaf6, 0xabed]

/-- Whether an Arabic letter joins the one after it. -/
def joinsNext (c : Char) : Bool :=
  let n := c.toNat
  0x620 ≤ n && n ≤ 0x6d3 && isAlphanumeric c && !isMark c &&
    !([0x627, 0x629, 0x648, 0x674, 0x6c0, 0x6cd, 0x6cf, 0x6d2, 0x6d3].contains n) &&
    !((0x621 ≤ n && n ≤ 0x625) || (0x62f ≤ n && n ≤ 0x632) || (0x671 ≤ n && n ≤ 0x677) ||
      (0x688 ≤ n && n ≤ 0x699) || (0x6c3 ≤ n && n ≤ 0x6cb) || (0x660 ≤ n && n ≤ 0x669))

/-- Whether an Arabic letter is joined by the one before it. -/
def joinsPrevious (c : Char) : Bool :=
  let n := c.toNat
  joinsNext c || (0x622 ≤ n && n ≤ 0x6d5 && isAlphanumeric c && !isMark c && n ≠ 0x674 &&
    !(0x660 ≤ n && n ≤ 0x669))

/-- Whether all joiners in a part of a name have something to join, given what is before them, the
last character first. -/
def hasFitJoiners (before : List Char) : List Char → Bool
  | [] => true
  | c :: rest =>
    let fits := !isJoiner c || before.head?.any (fun d => vowelKillers.contains d.toNat) ||
      c.toNat = 0x200c && (before.dropWhile isMark).head?.any joinsNext &&
        (rest.dropWhile isMark).head?.any joinsPrevious
    fits && hasFitJoiners (c :: before) rest

/-! ## Directions -/

/-- How a character takes part in the direction of a text. -/
inductive Direction where
  | leftward
  | rightward
  | number
  /-- A number of a script that is written leftward. -/
  | leftwardNumber
  | neutral
  /-- A mark, which goes with the character before it. -/
  | mark
  deriving DecidableEq, Repr

/-- The direction of a character. -/
def direction (c : Char) : Direction :=
  let n := c.toNat
  if c.isDigit || (0x6f0 ≤ n && n ≤ 0x6f9) then .number
  else if (0x660 ≤ n && n ≤ 0x669) || n = 0x66b || n = 0x66c || (0x10e60 ≤ n && n ≤ 0x10e7e) then
    .leftwardNumber
  else if isMark c then .mark
  else if (0x590 ≤ n && n ≤ 0x8ff) || (0xfb1d ≤ n && n ≤ 0xfdff) || (0xfe70 ≤ n && n ≤ 0xfeff) ||
      (0x10800 ≤ n && n ≤ 0x10fff) || (0x1e800 ≤ n && n ≤ 0x1efff) then .leftward
  else if isAlphanumeric c then .rightward
  else .neutral

/-- Whether the directions in a part of a name fit together. -/
def isReadable (directions : List Direction) : Bool :=
  let last := (directions.reverse.dropWhile (· = .mark)).head?
  match directions with
  | .leftward :: _ =>
    !directions.contains .rightward &&
      !(directions.contains .number && directions.contains .leftwardNumber) &&
      last.any fun d => d = .leftward || d = .number || d = .leftwardNumber
  | .rightward :: _ =>
    !directions.contains .leftward && !directions.contains .leftwardNumber &&
      last.any fun d => d = .rightward || d = .number
  | [] => true
  | _ => false

/-- Whether the directions in all parts fit together, which matters only if something is written
leftward. -/
def areReadable (ps : List (List Direction)) : Bool :=
  let isMixed := ps.any fun ds => ds.any fun d => d = .leftward || d = .leftwardNumber
  !isMixed || ps.all isReadable

/-! ## Names -/

/-- Whether a part of a name may be looked up as it is. -/
def isPart (s : List Char) : Bool := !s.any isBarred && !s.head?.any isMark && hasFitJoiners [] s

/-- The characters that a part of a name stands for. -/
def meaning? (s : List Char) : Option (List Char) :=
  if "xn--".toList.isPrefixOf s then do
    let name ← Punycode.decode (s.drop 4)
    if !s.any (0x80 ≤ ·.toNat) && s.getLast? ≠ some '-' && name.any (0x80 ≤ ·.toNat) && isPart name
        && name.all fun c => folded c = c && !isIgnored c && !isDenied c && c ≠ '.' then some name
    else none
  else if isPart s then some s
  else none

/-- A name as it is looked up, if it is one. -/
def settled? (s : List Char) : Option (List Char) := do
  let name := (s.filter fun c => !isIgnored c).map folded
  let meanings ← (parts '.' name).mapM meaning?
  if name.any isDenied || !areReadable (meanings.map fun m => m.map direction) then none
  else some name

end Relay.Url.WebName
