import Relay.Text.Alphanumeric
import Relay.Text.Blank

/-!
# Patterns

A `Pattern` stands for a set of texts. `Pattern.after` is the pattern of what may follow a
character, and a text is in the set if the pattern of what may follow all of it `takesEmpty`.
`Pattern.read` reads the usual notation: characters, `.`, classes in brackets and behind a
backslash, groups, alternatives and repetitions. A pattern always stands for whole texts, so that
the marks `^` and `$` for the ends of a text say nothing more.
-/

namespace Relay.Text

/-- A kind of character. -/
inductive CharKind where
  | range (first last : Char)
  | digit
  | word
  | blank
  deriving DecidableEq, Repr

/-- A set of characters: those of some kinds, or all others. -/
structure CharSet where
  kinds : List (CharKind × Bool)
  isNegated : Bool := false
  deriving DecidableEq, Repr

/-- Whether a character is of a kind. -/
def CharKind.holds : CharKind → Char → Bool
  | .range first last, c => first ≤ c && c ≤ last
  | .digit, c => c.isDigit
  | .word, c => isAlphanumeric c || c = '_'
  | .blank, c => isBlank c

/-- Whether a character is in a set. -/
def CharSet.holds (s : CharSet) (c : Char) : Bool :=
  s.isNegated != s.kinds.any fun (kind, isOther) => isOther != kind.holds c

/-- The set of one character. -/
def CharSet.one (c : Char) : CharSet := ⟨[(.range c c, false)], false⟩

/-- The characters that do not end a line. -/
def CharSet.inLine : CharSet := ⟨[(.range '\n' '\n', false)], true⟩

/-- A set of texts. -/
inductive Pattern where
  | never
  | empty
  | char (s : CharSet)
  | seq (a b : Pattern)
  | either (a b : Pattern)
  /-- Any number of texts in a row. -/
  | many (a : Pattern)
  deriving DecidableEq, Repr

namespace Pattern

/-- Whether the empty text is in the set. -/
def takesEmpty : Pattern → Bool
  | never | char _ => false
  | empty | many _ => true
  | seq a b => a.takesEmpty && b.takesEmpty
  | either a b => a.takesEmpty || b.takesEmpty

/-- One after the other, kept small. -/
def followed : Pattern → Pattern → Pattern
  | never, _ | _, never => never
  | empty, b => b
  | a, empty => a
  | a, b => seq a b

/-- One or the other, kept small. -/
def orElse (a b : Pattern) : Pattern :=
  if a = b || b = never then a else if a = never then b else either a b

/-- What may follow a character. -/
def after (c : Char) : Pattern → Pattern
  | never | empty => never
  | char s => if s.holds c then empty else never
  | seq a b =>
    let inFirst := (a.after c).followed b
    if a.takesEmpty then inFirst.orElse (b.after c) else inFirst
  | either a b => (a.after c).orElse (b.after c)
  | many a => (a.after c).followed (many a)

/-- Whether a text is in the set. -/
def holds : Pattern → List Char → Bool
  | p, [] => p.takesEmpty
  | p, c :: s => (p.after c).holds s

/-! ## Reading -/

/-- A part of a written pattern. -/
inductive Token where
  | opening
  | closing
  | bar
  | piece (p : Pattern)
  | repeated (mark : Char)

/-- What a character behind a backslash stands for. -/
def escaped (c : Char) : Option (CharKind × Bool) :=
  match c with
  | 'd' => some (.digit, false)
  | 'D' => some (.digit, true)
  | 'w' => some (.word, false)
  | 'W' => some (.word, true)
  | 's' => some (.blank, false)
  | 'S' => some (.blank, true)
  | 'n' => some (.range '\n' '\n', false)
  | 'r' => some (.range '\r' '\r', false)
  | 't' => some (.range '\t' '\t', false)
  | _ => if c.toNat < 128 && !c.isAlphanum && c ≠ '<' && c ≠ '>' then some (.range c c, false)
    else none

/-- Reads the kinds of a class up to its closing bracket. -/
def readKinds (isFirst : Bool) (kinds : List (CharKind × Bool)) :
    List Char → Option (List (CharKind × Bool) × List Char)
  | [] | '[' :: _ => none
  | '\\' :: c :: rest => do readKinds false (kinds ++ [← escaped c]) rest
  | first :: '-' :: last :: rest =>
    if first = ']' && !isFirst then some (kinds, '-' :: last :: rest)
    else if last = ']' then
      some (kinds ++ [(.range first first, false), (.range '-' '-', false)], rest)
    else if last < first || last = '[' || last = '\\' then none
    else readKinds false (kinds ++ [(.range first last, false)]) rest
  | c :: rest =>
    if c = ']' && !isFirst then some (kinds, rest)
    else readKinds false (kinds ++ [(.range c c, false)]) rest

/-- Reads a class behind its opening bracket. -/
def readClass : List Char → Option (CharSet × List Char)
  | '^' :: rest => (readKinds true [] rest).map fun (kinds, rest) => (⟨kinds, true⟩, rest)
  | rest => (readKinds true [] rest).map fun (kinds, rest) => (⟨kinds, false⟩, rest)

/-- The token at the front of a written pattern, and the rest. -/
def readToken : List Char → Option (Token × List Char)
  | [] | '\x7b' :: _ | ['\\'] => none
  | '\\' :: c :: rest => (escaped c).map fun kind => (.piece (char ⟨[kind], false⟩), rest)
  | '[' :: rest => (readClass rest).map fun (set, rest) => (.piece (char set), rest)
  | '(' :: '?' :: ':' :: rest => some (.opening, rest)
  | '(' :: '?' :: _ => none
  | '(' :: rest => some (.opening, rest)
  | ')' :: rest => some (.closing, rest)
  | '|' :: rest => some (.bar, rest)
  | '.' :: rest => some (.piece (char .inLine), rest)
  | c :: rest =>
    if c = '^' || c = '$' then some (.piece empty, rest)
    else if c = '*' || c = '+' || c = '?' then
      some (.repeated c, if rest.head? = some '?' then rest.tail else rest)
    else some (.piece (char (.one c)), rest)

/-- The tokens of a written pattern. -/
def readTokens : (fuel : Nat) → List Char → Option (List Token)
  | _, [] => some []
  | 0, _ => none
  | fuel + 1, s => do
    let (token, rest) ← readToken s
    (token :: ·) <$> readTokens fuel rest

/-- A group that is being read: its alternatives so far, and the pieces of the last one, the last
piece first. -/
structure Group where
  earlier : Pattern := never
  pieces : List Pattern := []

/-- The pattern of a group. -/
def Group.pattern (g : Group) : Pattern :=
  g.earlier.orElse (g.pieces.foldl (fun after piece => piece.followed after) empty)

/-- A group with a further piece. -/
def Group.add (g : Group) (p : Pattern) : Group := { g with pieces := p :: g.pieces }

/-- A pattern repeated as a mark says. -/
def repeated (mark : Char) (p : Pattern) : Pattern :=
  match mark with
  | '?' => p.orElse empty
  | '+' => p.followed (many p)
  | _ => many p

/-- Puts tokens together, within a group and those around it, the innermost first. -/
def assemble (g : Group) : List Group → List Token → Option Pattern
  | [], [] => some g.pattern
  | _ :: _, [] => none
  | outer, .opening :: ts => assemble {} (g :: outer) ts
  | o :: outer, .closing :: ts => assemble (o.add g.pattern) outer ts
  | [], .closing :: _ => none
  | outer, .bar :: ts => assemble { earlier := g.pattern } outer ts
  | outer, .piece p :: ts => assemble (g.add p) outer ts
  | outer, .repeated mark :: ts =>
    match g.pieces with
    | [] => none
    | p :: pieces => assemble { g with pieces := repeated mark p :: pieces } outer ts

/-- Reads a written pattern. -/
def read (s : List Char) : Option Pattern := do assemble {} [] (← readTokens s.length s)

end Pattern

end Relay.Text
