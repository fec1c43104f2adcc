/-!
# Parts of a text

`parts` takes a text apart at a separator, and `joined` puts parts together with one.
`splitBefore`, `splitAt` and `splitLast` take a text apart at one place.
-/

namespace Relay.Text

/-- The parts between the separators. -/
def parts (separator : Char) : List Char → List (List Char)
  | [] => [[]]
  | c :: rest =>
    if c = separator then [] :: parts separator rest
    else
      match parts separator rest with
      | part :: others => (c :: part) :: others
      | [] => [[c]]

/-- Parts with separators between them. -/
def joined (separator : Char) (ps : List (List Char)) : List Char :=
  List.intercalate [separator] ps

/-- The part before the first character of a kind, and the part from it on. -/
def splitBefore (p : Char → Bool) (s : List Char) : List Char × List Char :=
  (s.takeWhile fun c => !p c, s.dropWhile fun c => !p c)

/-- The part before the first character of a kind and, if there is one, the part after it. -/
def splitAt (p : Char → Bool) (s : List Char) : List Char × Option (List Char) :=
  let (before, rest) := splitBefore p s
  (before, rest.tail?)

/-- The parts before and after the last character of a kind. -/
def splitLast (p : Char → Bool) (s : List Char) : Option (List Char × List Char) :=
  let (after, before) := splitBefore p s.reverse
  before.tail?.map fun before => (before.reverse, after.reverse)

end Relay.Text
