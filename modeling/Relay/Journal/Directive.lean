import Relay.Decimal.Floating
import Relay.Decimal.Natural
import Relay.Journal.Entry
import Relay.Text.Blank
import Relay.Text.Parts
import Relay.Text.Pattern

/-!
# Directives about what is shown

A `Directive` gives a level for a part of the journal: `relay=warn` for the parts of the program
whose names begin with its target, `[publish]=info` for what happens in spans of a name, and
`[{topic=orders.*}]` for what happens in spans with a field, whose value may matter too. A
directive that is a level alone is about everything, and one without a level shows everything.
-/

namespace Relay.Journal

/-- What the value of a field has to be. -/
inductive Wanted where
  | number (n : Nat)
  | text (p : Text.Pattern)
  /-- A truth value or a number that is not natural, which no field has. -/
  | other
  deriving DecidableEq, Repr

/-- What is said about a field: it is there, and its value may have to be a certain one. -/
structure Condition where
  name : String
  value : Option Wanted
  deriving DecidableEq, Repr

/-- What a directive is about. -/
structure Scope where
  /-- What the names of parts of the program begin with. -/
  target : String := ""
  /-- The name of spans. -/
  span : Option String := none
  field : Option Condition := none
  deriving DecidableEq, Repr

/-- The level for a part of the journal; none of it is shown without a level. -/
structure Directive where
  scope : Scope
  level : Option Level
  deriving DecidableEq, Repr

/-- Whether a value is the wanted one. -/
def Wanted.holds : Wanted → Value → Bool
  | .number n, .number m => n = m
  | .text p, .text s | .text p, .quoted s => p.holds s.toList
  | _, _ => false

/-! ## Reading -/

namespace Directive

/-- The levels in the order of their numbers. -/
def levels : List (String × Option Level) :=
  [("off", none), ("error", some .error), ("warn", some .warn), ("info", some .info),
    ("debug", some .debug), ("trace", some .trace)]

/-- Reads a level: its number, or its name in any case. -/
def readLevel (s : List Char) : Option (Option Level) :=
  match Decimal.readNatural 5 s with
  | .ok n => levels[n]?.map Prod.snd
  | .error _ => levels.lookup (String.ofList (s.map Char.toLower))

/-- Reads a level that may be missing. -/
def readLast (s : List Char) : Option (Option Level) :=
  if s.isEmpty then some (some .trace) else readLevel s

/-- Reads what a value has to be. -/
def readWanted (s : List Char) : Option Wanted :=
  if s = "true".toList || s = "false".toList then some .other
  else
    match Decimal.readNatural (1 <<< 64 - 1) s, Decimal.readFloat s with
    | .ok n, _ => some (.number n)
    | .error _, .ok _ => some .other
    | .error _, .error _ => (Text.Pattern.read s).map .text

/-- Reads what is said about a field. -/
def readCondition (s : List Char) : Option Condition :=
  match Text.parts '=' s with
  | name :: value :: _ =>
    (readWanted value).map fun value => ⟨String.ofList name, some value⟩
  | _ => some ⟨String.ofList s, none⟩

/-- Whether a directive may begin with a character. -/
def isFirst (c : Char) : Bool := Text.isAlphanumeric c || c = '_' || c = ':' || c = '-'

/-- Reads what follows a scope. As in all of these, `s` decides where a part ends, and the parts are
cut from `whole`, which is as long or longer, at the same places. -/
def readEnd (scope : Scope) (whole s : List Char) : Option Directive :=
  match s with
  | [] => some ⟨scope, some .trace⟩
  | '=' :: _ => (readLast (whole.drop 1)).map (⟨scope, ·⟩)
  | _ => none

/-- Reads what follows the name of spans and an opening brace. -/
def readField (scope : Scope) (whole s : List Char) : Option Directive :=
  let n := (s.takeWhile (· ≠ '\x7d')).length
  match s.drop n with
  | '\x7d' :: ']' :: rest =>
    if n = 0 then none
    else do
      let field ← readCondition (whole.take n)
      readEnd { scope with field } (whole.drop (n + 2)) rest
  | _ => none

/-- Reads what follows a target and an opening bracket. -/
def readSpan (target : String) (whole s : List Char) : Option Directive :=
  let n := (s.takeWhile fun c => c ≠ ']' && c ≠ '\x7b').length
  let span := String.ofList (whole.take n)
  match s.drop n with
  | '\x7b' :: rest =>
    readField { target, span := if n = 0 then none else some span } (whole.drop (n + 1)) rest
  | ']' :: rest => readEnd { target, span := some span } (whole.drop (n + 1)) rest
  | _ => none

/-- Reads a directive: a level, or a scope that may have a level. Blanks around it do not decide
anything, but are not taken off. -/
def read (whole : List Char) : Option Directive :=
  let s := Text.trim whole
  let n := (s.takeWhile fun c => c ≠ '=' && c ≠ '[').length
  let target := String.ofList (whole.take n)
  match s, s.drop n with
  | '[' :: rest, _ => readSpan "" (whole.drop 1) rest
  | c :: _, after =>
    if !isFirst c then none
    else
      match after with
      | '[' :: rest => readSpan target (whole.drop (n + 1)) rest
      | '=' :: rest => readEnd { target } (whole.drop n) ('=' :: rest)
      | _ =>
        match readLevel whole with
        | some level => some ⟨{}, level⟩
        | none => some ⟨{ target := String.ofList whole }, some .trace⟩
  | [], _ => none

end Directive

end Relay.Journal
