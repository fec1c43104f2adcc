import Relay.Journal.Directive

/-!
# Which entries are shown

A `Filter` is a list of directives. Those that are about parts of the program decide by the one with
the longest target, and where none applies nothing is shown. Those that are about spans show more:
all entries within such a span up to their level. `Filter.ofSetting` reads a filter as it is set:
one that is not set or cannot be read shows what matters at least as much as `info`, and an empty
one shows errors.
-/

namespace Relay.Journal

/-- The names of an entry's fields; its message counts as one. -/
def Entry.fieldNames (e : Entry) : List String :=
  (e.message.map fun _ => "message").toList ++ e.fields.map Prod.fst

/-- The names of the fields that a span has or may be given later. -/
def Span.fieldNames (s : Span) : List String := s.fields.map Prod.fst ++ s.later

/-- How much is shown up to a level. -/
def reach (level : Option Level) : Nat := level.elim 0 Level.rank

namespace Directive

/-- Whether a directive is about spans. -/
def isAboutSpans (d : Directive) : Bool := d.scope.span.isSome || d.scope.field.isSome

/-- Whether the value of a field matters to a directive. -/
def isAboutValues (d : Directive) : Bool := d.scope.field.any fun c => c.value.isSome

/-- Whether a directive is about parts of the program, whatever spans there are. -/
def isGeneral (d : Directive) : Bool := d.scope.span.isNone && !d.isAboutValues

/-- Whether a directive is about a part of the program. -/
def hasTarget (d : Directive) (target : String) : Bool := target.startsWith d.scope.target

/-- Whether a directive is about spans like this one. -/
def concerns (d : Directive) (s : Span) : Bool :=
  d.isAboutSpans && d.hasTarget s.target && d.scope.span.all (· = s.name) &&
    d.scope.field.all fun c => c.name ∈ s.fieldNames

/-- Whether a directive is about this span: a field has the value that is wanted. -/
def matchesValues (d : Directive) (s : Span) : Bool :=
  d.scope.field.all fun c => c.value.all fun wanted =>
    s.fields.any fun (name, value) => name = c.name && wanted.holds value

/-- Whether a directive is less close to what it is about than another. -/
def isWiderThan (d e : Directive) : Bool :=
  let n := d.scope.target.length
  let m := e.scope.target.length
  n < m || n = m &&
    match d.scope.field, e.scope.field with
    | none, some _ => true
    | some a, some b => a.name < b.name
    | _, none => false

/-- The directive that is closest to what it is about. -/
def closest (ds : List Directive) : Option Directive :=
  ds.foldl (fun best d =>
    match best with
    | some b => if b.isWiderThan d then some d else some b
    | none => some d) none

/-- The directives that count: of those about the same the last one. -/
def inForce : List Directive → List Directive
  | [] => []
  | d :: ds => if ds.any fun e => e.scope = d.scope then inForce ds else d :: inForce ds

end Directive

/-- The directives by which entries are shown. -/
structure Filter where
  directives : List Directive
  deriving DecidableEq, Repr

namespace Filter

/-- Shows what matters at least as much as a level. -/
def atLeast (level : Level) : Filter := ⟨[⟨{}, some level⟩]⟩

/-- Reads a filter. -/
def read (s : String) : Option Filter := do
  let parts := (Text.parts ',' s.toList).filter fun part => !part.isEmpty
  let directives ← parts.mapM Directive.read
  some (if directives.isEmpty then atLeast .error else ⟨directives⟩)

/-- The filter of a setting. -/
def ofSetting (s : Option String) : Filter := (s.bind read).getD (atLeast .info)

/-- How much may be shown at all. To look at values, all spans are followed. -/
def ceiling (f : Filter) : Nat :=
  if f.directives.any Directive.isAboutValues then reach (some .trace)
  else (f.directives.map fun d => reach d.level).foldl max 0

/-- How much of a part of the program is shown wherever it speaks. For entries the names of their
fields count. -/
def general (f : Filter) (target : String) (names : Option (List String)) : Nat :=
  let applies (d : Directive) : Bool :=
    d.isGeneral && d.hasTarget target &&
      d.scope.field.all fun c => names.all fun names => c.name ∈ names
  reach ((Directive.closest ((Directive.inForce f.directives).filter applies)).bind Directive.level)

/-- How much is shown within a span because of it. -/
def within (f : Filter) (s : Span) : Nat :=
  let ds := (Directive.inForce f.directives).filter fun d => d.concerns s && d.matchesValues s
  (ds.map fun d => reach d.level).foldl max 0

/-- Whether an entry is shown within spans that show so much. -/
def showsEntry (f : Filter) (around : Nat) (e : Entry) : Bool :=
  e.level.rank ≤ f.ceiling &&
    e.level.rank ≤ max around (f.general e.target (some e.fieldNames))

/-- Whether a span is shown within spans that show so much. Spans that directives are about are
shown in any case. -/
def showsSpan (f : Filter) (around : Nat) (s : Span) : Bool :=
  Level.info.rank ≤ f.ceiling &&
    (f.directives.any (·.concerns s) ||
      Level.info.rank ≤ max around (f.general s.target none))

end Filter

end Relay.Journal
