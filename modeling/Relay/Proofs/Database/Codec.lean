import Relay.Proofs.Database.Meaning
import Relay.Proofs.Except
import Relay.Proofs.Keys

/-!
# Rows that come back

A record that holds every column of a tuple reads back as the row whose values the tuple has
(`Row.ofStored_of_exact`), and so does the tuple of a row that is stored as it is
(`Row.ofStored_record`). A column is found under its name, as no two columns have one name
(`Record.find?_record`), and its value is read with its type (`Row.readColumn_record`,
`Row.readOptional_record`).
-/

namespace Relay

/-- The column of a name. -/
def Column.ofText? (s : String) : Option Column := Column.all.find? fun c => c.text = s

theorem Column.ofText?_text (c : Column) : ofText? c.text = some c := by
  cases c <;> decide

theorem Column.text_inj {c d : Column} : c.text = d.text ↔ c = d := by
  constructor
  · intro h
    have same := ofText?_text c
    rw [h, ofText?_text d] at same
    exact (Option.some.inj same).symm
  · exact congrArg text

theorem Column.mem_all (c : Column) : c ∈ Column.all := by
  cases c <;> decide

namespace Record

/-- A value is found under its name, if no two values have one name. -/
theorem find?_of_names {κ : Type} {name : κ → String} (inj : ∀ a b, name a = name b → a = b)
    (type : κ → ColumnType) (value : κ → Datum) {ks : List κ} {k : κ} (mem : k ∈ ks) :
    Record.find? ⟨ks.map fun k => (name k, type k), ks.map value⟩ (name k) =
      some (type k, value k) := by
  have zipped : ((ks.map fun k => (name k, type k)).zip (ks.map value)) =
      ks.map fun k => ((name k, type k), value k) := by
    rw [List.zip_map']
  have found : (ks.reverse.find? fun k' => name k' = name k) = some k := by
    refine find?_of_unique (by simp) (List.mem_reverse.2 mem) fun k' _ same => inj k' k ?_
    simpa using same
  rw [find?, zipped, ← List.map_reverse, List.find?_map]
  simp only [Function.comp_def]
  rw [found]
  rfl

variable {cs : List Column} {x : Tuple} {c : Column}

/-- A column of a record is found under its name. -/
theorem find?_record (mem : c ∈ cs) : (Tuple.record cs x).find? c.text = some (c.type, x c) :=
  find?_of_names (fun _ _ => Column.text_inj.1) Column.type x mem

theorem value_record (mem : c ∈ cs) {v : c.type.Value} (h : (x c).as? c.type = some v) :
    (Tuple.record cs x).value c.text c.type = .ok v := by
  have absent : Datum.null.as? c.type = none := by cases c.type <;> rfl
  have there : x c ≠ .null := by
    intro null
    rw [null, absent] at h
    cases h
  simp only [value, find?_record mem, readValue, there, if_false, if_true, h]

theorem optional_record (mem : c ∈ cs) {o : Option c.type.Value} {f : c.type.Value → Datum}
    (hf : ∀ v, (f v).as? c.type = some v) (h : x c = .ofOption f o) :
    (Tuple.record cs x).optional c.text c.type = .ok o := by
  have absent : Datum.null.as? c.type = none := by cases c.type <;> rfl
  simp only [optional, find?_record mem, h]
  cases o with
  | none => rfl
  | some v =>
    have there : f v ≠ .null := by
      intro null
      have held := hf v
      rw [null, absent] at held
      cases held
    simp only [Datum.ofOption]
    cases e : f v with
    | null => exact absurd e there
    | uuid | text | integer | boolean | timestamp | uuids =>
      simp only [readOptional, if_true, ← e, hf]

end Record

namespace Row

variable {cs : List Column} {x : Tuple} {c : Column} {r : Row}

theorem readColumn_record (mem : c ∈ cs) {v : c.type.Value} (h : (x c).as? c.type = some v) :
    readColumn (Tuple.record cs x) c = .ok v := by
  rw [readColumn, Record.value_record mem h]
  rfl

theorem readOptional_record (mem : c ∈ cs) {o : Option c.type.Value} {f : c.type.Value → Datum}
    (hf : ∀ v, (f v).as? c.type = some v) (h : x c = .ofOption f o) :
    readOptional (Tuple.record cs x) c = .ok o := by
  rw [readOptional, Record.optional_record mem hf h]
  rfl

theorem versionOf_toNat (n : UInt16) : versionOf n.toNat = .ok n := by
  have bound : n.toNat < 0x1_0000 := n.toNat_lt
  rw [versionOf, if_pos ⟨by omega, by omega⟩]
  simp

theorem traceFlagsOf_toNat (n : UInt8) : traceFlagsOf n.toNat = .ok n := by
  have bound : n.toNat < 0x100 := n.toNat_lt
  rw [traceFlagsOf, if_pos ⟨by omega, by omega⟩]
  simp

/-- The value of a row in a column, with nothing cut off or rounded. -/
def exactDatum (r : Row) : Column → Datum
  | .occurred => .timestamp r.occurred
  | .created => .timestamp r.created
  | .processed => .ofOption .timestamp r.processed
  | .notBefore => .ofOption .timestamp r.notBefore
  | .claimedUntil => .ofOption .timestamp r.claimedUntil
  | .attempts => .integer r.attempts.toNat
  | c => r.datum c

/-- A row that is stored as it is has its own values in the columns. -/
theorem datum_eq_exact (h : r.IsStorable) : r.datum = r.exactDatum := by
  funext c
  cases c with
  | occurred => exact Datum.ofInstant_eq h.occurred
  | created => exact Datum.ofInstant_eq h.created
  | processed => exact Datum.ofOption_instant h.processed
  | notBefore => exact Datum.ofOption_instant h.notBefore
  | claimedUntil => exact Datum.ofOption_instant h.claimedUntil
  | attempts => exact attemptsDatum_eq h.attempts
  | _ => rfl

/-- A record of every column reads back as the row that has its values. -/
theorem ofStored_of_exact (all : ∀ c, c ∈ cs) (same : ∀ c, c ≠ .attempts → x c = r.exactDatum c)
    {n : Int} (sent : x .attempts = .integer n) (counted : UInt32.ofNat n.toNat = r.attempts) :
    Row.ofStored (Tuple.record cs x) = .ok r := by
  have value (c : Column) (other : c ≠ .attempts) {v : c.type.Value}
      (h : (r.exactDatum c).as? c.type = some v) : readColumn (Tuple.record cs x) c = .ok v :=
    readColumn_record (all c) (by rw [same c other, h])
  have optional (c : Column) (other : c ≠ .attempts) {o : Option c.type.Value}
      {f : c.type.Value → Datum} (hf : ∀ v, (f v).as? c.type = some v)
      (h : r.exactDatum c = .ofOption f o) : readOptional (Tuple.record cs x) c = .ok o :=
    readOptional_record (all c) hf ((same c other).trans h)
  -- the numbers of a row are narrower than their columns
  have version : readColumn (Tuple.record cs x) .version = .ok (r.version.toNat : Int) :=
    value .version (by decide) rfl
  have attempts : readColumn (Tuple.record cs x) .attempts = .ok n :=
    readColumn_record (all .attempts) (by rw [sent]; rfl)
  have flags : readOptional (Tuple.record cs x) .traceFlags =
      .ok (r.traceFlags.map fun f : UInt8 => (f.toNat : Int)) := by
    refine optional .traceFlags (by decide) (f := .integer) (fun _ => rfl) ?_
    show Datum.ofOption (fun f : UInt8 => .integer f.toNat) r.traceFlags = _
    cases r.traceFlags <;> rfl
  have narrowed : (r.traceFlags.map fun f : UInt8 => (f.toNat : Int)).mapM traceFlagsOf =
      .ok r.traceFlags := by
    cases r.traceFlags with
    | none => rfl
    | some f =>
      rw [Option.map_some, Option.mapM_some, traceFlagsOf_toNat]
      rfl
  refine bind_ok version (bind_ok (versionOf_toNat _) (bind_ok flags (bind_ok narrowed
    (bind_ok attempts (bind_ok (optional .claimedBy (by decide) (fun _ => rfl) rfl) ?_)))))
  refine bind_ok (value .id (by decide) rfl) (bind_ok (value .name (by decide) rfl)
    (bind_ok (value .tenant (by decide) rfl) (bind_ok (value .username (by decide) rfl)
    (bind_ok (value .occurred (by decide) rfl) ?_))))
  refine bind_ok (optional .correlation (by decide) (fun _ => rfl) rfl)
    (bind_ok (optional .causation (by decide) (fun _ => rfl) rfl)
    (bind_ok (optional .traceId (by decide) (fun _ => rfl) rfl)
    (bind_ok (optional .parentSpan (by decide) (fun _ => rfl) rfl)
    (bind_ok (optional .traceState (by decide) (fun _ => rfl) rfl) ?_))))
  refine bind_ok (value .payload (by decide) rfl) (bind_ok (value .created (by decide) rfl)
    (bind_ok (optional .processed (by decide) (fun _ => rfl) rfl)
    (bind_ok (optional .notBefore (by decide) (fun _ => rfl) rfl)
    (bind_ok (optional .claimedUntil (by decide) (fun _ => rfl) rfl)
    (bind_ok (value .poisoned (by decide) rfl)
    (bind_ok (optional .lastError (by decide) (fun _ => rfl) rfl) ?_))))))
  rw [counted]

/-- The record of a row with all its columns. -/
def record (r : Row) : Record := Tuple.record Column.all r.datum

/-- **A row comes back as it was sent.** -/
theorem ofStored_record (h : r.IsStorable) : Row.ofStored r.record = .ok r := by
  rw [record, datum_eq_exact h]
  exact ofStored_of_exact Column.mem_all (fun _ _ => rfl) rfl (by simp)

/-- The values of a row in the columns determine the row. -/
theorem eq_of_datum_eq {s : Row} (hr : r.IsStorable) (hs : s.IsStorable)
    (h : r.datum = s.datum) : r = s := by
  have same : r.record = s.record := congrArg (Tuple.record Column.all) h
  have read : Except.ok r = (Except.ok s : Except StoreError Row) := by
    rw [← ofStored_record hr, ← ofStored_record hs, same]
  exact Except.ok.inj read

end Row

end Relay
