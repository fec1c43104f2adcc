import Relay.Database.Codec
import Relay.Database.Dialogue

/-!
# What statements mean

A table in a database holds a `Tuple` for every row: a value for every column. A condition of a
tuple is true, false or unknown, for a comparison with null is unknown; a statement takes the tuples
for which its condition is true. `Query.effect` is what a query does to the tuples of a table, all
at once, and what the database replies.
-/

namespace Relay

/-- A value for every column. -/
abbrev Tuple := Column → Datum

/-- A truth value; `none` is unknown. -/
abbrev Truth := Option Bool

namespace Truth

/-- False as soon as one side is false, and unknown unless both are known. -/
def and : Truth → Truth → Truth
  | some false, _ | _, some false => some false
  | some true, some true => some true
  | _, _ => none

/-- True as soon as one side is true, and unknown unless both are known. -/
def or : Truth → Truth → Truth
  | some true, _ | _, some true => some true
  | some false, some false => some false
  | _, _ => none

end Truth

/-! ## Values -/

/-- How one value of an ordered type stands to another. -/
def orderOf {α : Type} [LT α] [DecidableLT α] [DecidableEq α] (a b : α) : Ordering :=
  if a < b then .lt else if a = b then .eq else .gt

/-- How a value stands to another of its type. Nothing stands to null in any way. -/
def Datum.order : Datum → Datum → Option Ordering
  | .uuid a, .uuid b => some (orderOf a.toNat b.toNat)
  | .text a, .text b => some (orderOf a b)
  | .integer a, .integer b => some (orderOf a b)
  | .timestamp a, .timestamp b => some (orderOf a b)
  | _, _ => none

/-- Whether a comparison admits that its sides stand so. -/
def Comparison.admits : Comparison → Ordering → Bool
  | .equal, o => o = .eq
  | .less, o => o = .lt
  | .atMost, o => o ≠ .gt
  | .more, o => o = .gt
  | .atLeast, o => o ≠ .lt

/-- A parameter, counted from one. -/
def parameter (ps : List Datum) (n : Nat) : Datum := ps.getD (n - 1) .null

/-- The value of a term. -/
def Term.value (ps : List Datum) : Term → Datum
  | .parameter n => Relay.parameter ps n
  | .integer n => .integer n
  | .boolean b => .boolean b
  | .null => .null

/-! ## Conditions -/

/-- The truth value that a column holds. -/
def Tuple.truth (x : Tuple) (c : Column) : Truth :=
  match x c with
  | .boolean b => some b
  | _ => none

/-- What is true of a tuple. -/
def Condition.truth (ps : List Datum) (x : Tuple) : Condition → Truth
  | .isNull c => some (x c = .null)
  | .isNotNull c => some (x c ≠ .null)
  | .holds c => x.truth c
  | .fails c => (x.truth c).map not
  | .compares c r t => ((x c).order (t.value ps)).map r.admits
  | .among c n =>
    match x c, parameter ps n with
    | .uuid id, .uuids ids => some (id ∈ ids)
    | _, _ => none
  | .and a b => (a.truth ps x).and (b.truth ps x)
  | .or a b => (a.truth ps x).or (b.truth ps x)

/-- Whether a statement takes a tuple. -/
def Condition.takes (ps : List Datum) (c : Condition) (x : Tuple) : Bool :=
  c.truth ps x = some true

/-! ## Statements -/

/-- The tuple of the values of a new row. -/
def Tuple.ofData (values : List Datum) : Tuple :=
  fun c => ((Column.all.zip values).lookup c).getD .null

/-- A tuple with some columns changed. -/
def Tuple.change (ps : List Datum) (changes : List (Column × Term)) (x : Tuple) : Tuple :=
  fun c => match changes.lookup c with
    | some t => t.value ps
    | none => x c

/-- Whether a tuple comes before another or beside it: the older first, of those created at once the
smaller id. -/
def Tuple.inOrder (x y : Tuple) : Bool :=
  match (x .created).order (y .created) with
  | some .eq => (x .id).order (y .id) ≠ some .gt
  | o => o ≠ some .gt

/-- The first tuples, as many as a parameter says. -/
def firstOf (ps : List Datum) (limit : Option Nat) (xs : List Tuple) : List Tuple :=
  match limit.map (parameter ps) with
  | some (.integer n) => xs.take n.toNat
  | _ => xs

/-- The record of some columns of a tuple. -/
def Tuple.record (cs : List Column) (x : Tuple) : Record :=
  ⟨cs.map fun c => (c.text, c.type), cs.map x⟩

/-- The refusal of a tuple whose id is there. -/
def duplicateKey (table : String) : Reply :=
  .refused DatabaseFault.duplicateCode
    ("duplicate key value violates unique constraint \"" ++ table ++ "_pkey\"")

/-- What a query does to the tuples of a table, and what is replied. -/
def Query.effect (q : Query) (xs : List Tuple) : List Tuple × Reply :=
  let ps := q.parameters
  match q.statement with
  | .createTable | .createIndex _ _ _ => (xs, .changed 0)
  | .insert =>
    let x := Tuple.ofData ps
    if xs.any fun y => y .id = x .id then (xs, duplicateKey q.outbox.table)
    else (xs ++ [x], .changed 1)
  | .exists c => (xs, .returned [⟨[("exists", .boolean)], [.boolean (xs.any (c.takes ps))]⟩])
  | .select cs c limit =>
    let taken := (xs.filter (c.takes ps)).mergeSort Tuple.inOrder
    (xs, .returned ((firstOf ps limit taken).map (Tuple.record cs)))
  | .selectOne cs c => (xs, .returned ((xs.filter (c.takes ps)).map (Tuple.record cs)))
  | .update changes c =>
    (xs.map fun x => if c.takes ps x then x.change ps changes else x,
      .changed (xs.countP (c.takes ps)))
  | .count ts =>
    (xs, .returned
      [⟨ts.map fun t => (t.name, .bigint),
        ts.map fun t => .integer (xs.countP (t.condition.takes ps))⟩])

end Relay
