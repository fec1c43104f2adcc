import Mathlib.Data.List.Infix
import Relay.Proofs.Database.Codec
import Relay.Proofs.Table.Effect

/-!
# What is read from a declared table

A table holds tuples of the types it was declared with (`Tuple.IsDeclared`). Not all of them are
rows, as the versions and the trace flags of rows are narrower than their columns: a tuple is read
just if these fit (`Tuple.Fits`), every column but the attempts is then kept, and otherwise the
fault is that of a number out of range (`Row.ofStored_of_fits`, `Row.ofStored_of_not_fits`). What an
insertion binds is read back but for attempts beyond what their column holds
(`Row.ofStored_bound`). `Row.codec_round_trips` puts this together.
-/

namespace Relay

/-! ## Declarations -/

/-- What a type is called where a table is declared. -/
def ColumnType.declared : ColumnType → String
  | .uuid => "UUID"
  | .text => "TEXT"
  | .smallint => "SMALLINT"
  | .integer => "INTEGER"
  | .bigint => "BIGINT"
  | .boolean => "BOOLEAN"
  | .timestamp => "TIMESTAMPTZ"

/-- The declaration of a column begins with its type. -/
theorem Column.declared_type (c : Column) : c.type.declared.toList <+: c.declared.toList := by
  cases c <;> decide

/-- Whether a column is declared to have a value in every tuple. -/
def Column.IsRequired (c : Column) : Prop :=
  "NOT NULL".toList <:+: c.declared.toList ∨ "PRIMARY KEY".toList <:+: c.declared.toList

instance (c : Column) : Decidable c.IsRequired :=
  inferInstanceAs (Decidable ("NOT NULL".toList <:+: c.declared.toList ∨
    "PRIMARY KEY".toList <:+: c.declared.toList))

/-- A tuple of the types that a table is declared with. -/
def Tuple.IsDeclared (x : Tuple) : Prop :=
  ∀ c, c.type.holds (x c) = true ∨ x c = .null ∧ ¬ c.IsRequired

/-- The datum that holds a value of a type. -/
def ColumnType.datum : (type : ColumnType) → type.Value → Datum
  | .uuid, id => .uuid id
  | .text, s => .text s
  | .smallint, n => .integer n
  | .integer, n => .integer n
  | .bigint, n => .integer n
  | .boolean, b => .boolean b
  | .timestamp, t => .timestamp t

theorem ColumnType.exists_datum {type : ColumnType} {d : Datum} (h : type.holds d = true) :
    ∃ v, d = type.datum v := by
  cases type <;> cases d <;> first
    | exact ⟨_, rfl⟩
    | simp [holds, Datum.as?] at h

theorem ColumnType.integer_of_holds {d : Datum} (h : ColumnType.integer.holds d = true) :
    ∃ n : Int, d = .integer n ∧ n < 0x8000_0000 := by
  cases d with
  | integer n =>
    simp only [holds, Bool.and_eq_true, decide_eq_true_eq] at h
    exact ⟨n, rfl, h.2⟩
  | _ => simp [holds, Datum.as?] at h

namespace Tuple.IsDeclared

variable {x : Tuple} (h : x.IsDeclared)

include h

theorem value (c : Column) (required : c.IsRequired) : ∃ v, x c = c.type.datum v := by
  rcases h c with holds | ⟨-, optional⟩
  · exact ColumnType.exists_datum holds
  · exact absurd required optional

theorem optional (c : Column) : ∃ o, x c = .ofOption c.type.datum o := by
  rcases h c with holds | ⟨absent, -⟩
  · obtain ⟨v, there⟩ := ColumnType.exists_datum holds
    exact ⟨some v, there⟩
  · exact ⟨none, absent⟩

theorem attempts : ∃ n : Int, x .attempts = .integer n ∧ n < 0x8000_0000 := by
  rcases h .attempts with holds | ⟨-, optional⟩
  · exact ColumnType.integer_of_holds holds
  · exact absurd (by decide) optional

end Tuple.IsDeclared

/-! ## Rows of tuples -/

/-- The version and the trace flags of a tuple fit a row. -/
structure Tuple.Fits (x : Tuple) : Prop where
  version : ∃ n : Int, x .version = .integer n ∧ 0 ≤ n ∧ n < 0x1_0000
  traceFlags : x .traceFlags = .null ∨ ∃ n : Int, x .traceFlags = .integer n ∧ 0 ≤ n ∧ n < 0x100

/-- The row has the values of a tuple; fewer attempts than none are none. -/
structure Row.IsReadOf (r : Row) (x : Tuple) : Prop where
  kept : ∀ c, c ≠ .attempts → x c = r.exactDatum c
  attempts : ∃ n : Int, x .attempts = .integer n ∧ r.attempts.toNat = n.toNat

namespace Row

variable {cs : List Column} {x : Tuple}

/-- A tuple that fits a row has the values of one. -/
theorem exists_isReadOf (declared : x.IsDeclared) (fits : x.Fits) : ∃ r : Row, r.IsReadOf x := by
  obtain ⟨id, hid⟩ := declared.value .id (by decide)
  obtain ⟨name, hname⟩ := declared.value .name (by decide)
  obtain ⟨version, hversion, versionLow, versionHigh⟩ := fits.version
  obtain ⟨tenant, htenant⟩ := declared.value .tenant (by decide)
  obtain ⟨username, husername⟩ := declared.value .username (by decide)
  obtain ⟨occurred, hoccurred⟩ := declared.value .occurred (by decide)
  obtain ⟨correlation, hcorrelation⟩ := declared.optional .correlation
  obtain ⟨causation, hcausation⟩ := declared.optional .causation
  obtain ⟨traceId, htraceId⟩ := declared.optional .traceId
  obtain ⟨parentSpan, hparentSpan⟩ := declared.optional .parentSpan
  obtain ⟨traceFlags, htraceFlags⟩ : ∃ o : Option UInt8,
      x .traceFlags = .ofOption (fun f : UInt8 => .integer f.toNat) o := by
    rcases fits.traceFlags with absent | ⟨n, there, low, high⟩
    · exact ⟨none, absent⟩
    · refine ⟨some (UInt8.ofNat n.toNat), there.trans ?_⟩
      have value : ((UInt8.ofNat n.toNat).toNat : Int) = n := by
        rw [UInt8.toNat_ofNat', Nat.mod_eq_of_lt (by omega)]
        omega
      exact congrArg Datum.integer value.symm
  obtain ⟨traceState, htraceState⟩ := declared.optional .traceState
  obtain ⟨payload, hpayload⟩ := declared.value .payload (by decide)
  obtain ⟨created, hcreated⟩ := declared.value .created (by decide)
  obtain ⟨processed, hprocessed⟩ := declared.optional .processed
  obtain ⟨attempts, hattempts, attemptsHigh⟩ := declared.attempts
  obtain ⟨notBefore, hnotBefore⟩ := declared.optional .notBefore
  obtain ⟨claimedBy, hclaimedBy⟩ := declared.optional .claimedBy
  obtain ⟨claimedUntil, hclaimedUntil⟩ := declared.optional .claimedUntil
  obtain ⟨poisoned, hpoisoned⟩ := declared.value .poisoned (by decide)
  obtain ⟨lastError, hlastError⟩ := declared.optional .lastError
  have narrow : x .version = .integer (UInt16.ofNat version.toNat).toNat := by
    rw [hversion, UInt16.toNat_ofNat', Nat.mod_eq_of_lt (by omega)]
    congr 1
    omega
  have counted : (UInt32.ofNat attempts.toNat).toNat = attempts.toNat := by
    rw [UInt32.toNat_ofNat', Nat.mod_eq_of_lt (by omega)]
  refine ⟨⟨id, name, UInt16.ofNat version.toNat, tenant, username, occurred, correlation, causation,
    traceId, parentSpan, traceFlags, traceState, payload, created, processed,
    UInt32.ofNat attempts.toNat, notBefore, claimedBy, claimedUntil, poisoned, lastError⟩,
    fun c other => ?_, attempts, hattempts, counted⟩
  cases c with
  | attempts => exact absurd rfl other
  | version => exact narrow
  | _ => assumption

/-- A tuple that fits is read, and all that it holds is kept. -/
theorem ofStored_of_fits (all : ∀ c, c ∈ cs) (declared : x.IsDeclared) (fits : x.Fits) :
    ∃ r, Row.ofStored (Tuple.record cs x) = .ok r ∧ r.IsReadOf x := by
  obtain ⟨r, read⟩ := exists_isReadOf declared fits
  obtain ⟨n, sent, counted⟩ := read.attempts
  exact ⟨r, ofStored_of_exact all read.kept sent (by rw [← counted, UInt32.ofNat_toNat]), read⟩

theorem versionOf_error {n : Int} (unfit : ¬ (0 ≤ n ∧ n < 0x1_0000)) :
    versionOf n = .error (outOfRange .version n) := if_neg unfit

theorem traceFlagsOf_error {n : Int} (unfit : ¬ (0 ≤ n ∧ n < 0x100)) :
    traceFlagsOf n = .error (outOfRange .traceFlags n) := if_neg unfit

/-- A version or trace flags that do not fit are the fault that is reported. -/
theorem ofStored_of_not_fits (all : ∀ c, c ∈ cs) (declared : x.IsDeclared) (unfit : ¬ x.Fits) :
    ∃ c n, (c = .version ∨ c = .traceFlags) ∧ x c = .integer n ∧
      Row.ofStored (Tuple.record cs x) = .error (outOfRange c n) := by
  obtain ⟨version, hversion⟩ : ∃ n : Int, x .version = .integer n :=
    declared.value .version (by decide)
  obtain ⟨traceFlags, htraceFlags⟩ : ∃ o : Option Int, x .traceFlags = .ofOption .integer o :=
    declared.optional .traceFlags
  have readVersion : readColumn (Tuple.record cs x) .version = .ok version :=
    readColumn_record (all .version) (by rw [hversion]; rfl)
  have readFlags : readOptional (Tuple.record cs x) .traceFlags = .ok traceFlags :=
    readOptional_record (all .traceFlags) (fun _ => rfl) htraceFlags
  by_cases versionFits : 0 ≤ version ∧ version < 0x1_0000
  · -- the version is read first, and then the trace flags are at fault
    have narrowed : versionOf version = .ok (UInt16.ofNat version.toNat) := if_pos versionFits
    cases traceFlags with
    | none => exact absurd ⟨⟨version, hversion, versionFits⟩, Or.inl htraceFlags⟩ unfit
    | some n =>
      have flagsUnfit : ¬ (0 ≤ n ∧ n < 0x100) := fun flagsFit =>
        unfit ⟨⟨version, hversion, versionFits⟩, Or.inr ⟨n, htraceFlags, flagsFit⟩⟩
      have fails : (some n).mapM traceFlagsOf = .error (outOfRange .traceFlags n) := by
        rw [Option.mapM_some, traceFlagsOf_error flagsUnfit]
        rfl
      exact ⟨.traceFlags, n, Or.inr rfl, htraceFlags,
        bind_eq readVersion (bind_eq narrowed (bind_eq readFlags (bind_error fails)))⟩
  · exact ⟨.version, version, Or.inl rfl, hversion,
      bind_eq readVersion (bind_error (versionOf_error versionFits))⟩

/-! ## Rows that are sent -/

/-- What an insertion binds to its parameters, one after another. -/
def bound (r : Row) : List Datum :=
  [.uuid r.id, .text r.name, .integer r.version.toNat, .uuid r.tenant, .text r.username,
    .ofInstant r.occurred, .ofOption .text r.correlation, .ofOption .text r.causation,
    .ofOption .text r.traceId, .ofOption .text r.parentSpan,
    .ofOption (fun f : UInt8 => .integer f.toNat) r.traceFlags, .ofOption .text r.traceState,
    .text r.payload, .ofInstant r.created, .ofOption .ofInstant r.processed,
    attemptsDatum r.attempts, .ofOption .ofInstant r.notBefore, .ofOption .text r.claimedBy,
    .ofOption .ofInstant r.claimedUntil, .boolean r.poisoned, .ofOption .text r.lastError]

/-- The times of a row are stored as they are. -/
structure HasStorableTimes (r : Row) : Prop where
  occurred : r.occurred.IsStorable
  created : r.created.IsStorable
  processed : ∀ t ∈ r.processed, t.IsStorable
  notBefore : ∀ t ∈ r.notBefore, t.IsStorable
  claimedUntil : ∀ t ∈ r.claimedUntil, t.IsStorable

/-- The row that a column of attempts leaves of a row. -/
def capped (r : Row) : Row := { r with attempts := min r.attempts 0x7fff_ffff }

variable {r : Row}

theorem toNat_attempts_capped (r : Row) :
    r.capped.attempts.toNat = min r.attempts.toNat mostStoredAttempts := by
  have most : (0x7fff_ffff : UInt32).toNat = mostStoredAttempts := rfl
  rw [capped, UInt32.toNat_min, most]

theorem HasStorableTimes.capped (h : r.HasStorableTimes) : r.capped.IsStorable where
  attempts := by
    rw [toNat_attempts_capped]
    exact Nat.min_le_right _ _
  occurred := h.occurred
  created := h.created
  processed := h.processed
  notBefore := h.notBefore
  claimedUntil := h.claimedUntil

/-- Attempts are sent as what their column holds of them. -/
theorem datum_capped (r : Row) : r.capped.datum = r.datum := by
  funext c
  cases c with
  | attempts =>
    show attemptsDatum r.capped.attempts = attemptsDatum r.attempts
    rw [attemptsDatum, attemptsDatum, toNat_attempts_capped]
    congr 1
    omega
  | _ => rfl

/-- What an insertion binds is read back under the names of the columns. -/
theorem ofStored_bound (h : r.HasStorableTimes) :
    Row.ofStored ⟨Column.all.map fun c => (c.text, c.type), r.bound⟩ = .ok r.capped := by
  have sent : r.bound = Column.all.map r.capped.datum := by
    rw [datum_capped]
    rfl
  rw [sent]
  exact ofStored_record h.capped

theorem isDeclared_ofOption {α : Type} {c : Column} {f : α → Datum}
    (holds : ∀ a, c.type.holds (f a) = true) (optional : ¬ c.IsRequired) (o : Option α) :
    c.type.holds (.ofOption f o) = true ∨ Datum.ofOption f o = .null ∧ ¬ c.IsRequired := by
  cases o with
  | some a => exact Or.inl (holds a)
  | none => exact Or.inr ⟨rfl, optional⟩

/-- Whatever row is sent, its values are of the declared types. -/
theorem isDeclared_datum (r : Row) : Tuple.IsDeclared r.datum := by
  intro c
  cases c with
  | version =>
    have narrow : r.version.toNat < 0x1_0000 := r.version.toNat_lt
    simp only [datum, Column.type, ColumnType.holds, Bool.and_eq_true, decide_eq_true_eq]
    omega
  | attempts =>
    have most : mostStoredAttempts = 0x7fff_ffff := rfl
    simp only [datum, attemptsDatum, Column.type, ColumnType.holds, Bool.and_eq_true,
      decide_eq_true_eq]
    omega
  | traceFlags =>
    refine isDeclared_ofOption (fun f => ?_) (by decide) r.traceFlags
    have narrow : f.toNat < 0x100 := f.toNat_lt
    simp only [Column.type, ColumnType.holds, Bool.and_eq_true, decide_eq_true_eq]
    omega
  | id | name | tenant | username | occurred | payload | created | poisoned => exact Or.inl rfl
  | correlation | causation | traceId | parentSpan | traceState | processed | notBefore | claimedBy
    | claimedUntil | lastError => exact isDeclared_ofOption (fun _ => rfl) (by decide) _

/-- **Rows and the tuples of a table are read from each other.** What is bound to the parameters of
an insertion, under the names of the columns, is read as the row that was sent, but for attempts
beyond what their column holds. A tuple of the declared types, with its columns in whatever order,
is read just if its version and its trace flags fit a row; the row then has the values of the tuple
in all columns, though no attempts where the column has fewer than none, and otherwise it is the
value that does not fit that is reported. -/
theorem codec_round_trips :
    (∀ (o : Outbox) (r : Row), (Database.query o (.insert r)).parameters = r.bound ∧
      (r.HasStorableTimes →
        Row.ofStored ⟨Column.all.map fun c => (c.text, c.type), r.bound⟩ =
          .ok { r with attempts := min r.attempts 0x7fff_ffff })) ∧
    ∀ (cs : List Column) (x : Tuple), (∀ c, c ∈ cs) → x.IsDeclared →
      ((∃ r, Row.ofStored (x.record cs) = .ok r) ↔ x.Fits) ∧
      (∀ r, Row.ofStored (x.record cs) = .ok r → r.IsReadOf x) ∧
      (¬ x.Fits → ∃ c n, (c = .version ∨ c = .traceFlags) ∧ x c = .integer n ∧
        Row.ofStored (x.record cs) =
          .error (.serialization (c.text ++ " out of range: " ++ toString n))) := by
  refine ⟨fun o r => ⟨rfl, ofStored_bound⟩, fun cs x all declared =>
    ⟨⟨fun ⟨r, read⟩ => ?_, fun fits => ?_⟩, fun r read => ?_,
      ofStored_of_not_fits all declared⟩⟩
  · by_contra unfit
    obtain ⟨c, n, -, -, fault⟩ := ofStored_of_not_fits all declared unfit
    rw [read] at fault
    cases fault
  · obtain ⟨r, read, -⟩ := ofStored_of_fits all declared fits
    exact ⟨r, read⟩
  · by_cases fits : x.Fits
    · obtain ⟨r', read', same⟩ := ofStored_of_fits all declared fits
      rw [read] at read'
      cases read'
      exact same
    · obtain ⟨c, n, -, -, fault⟩ := ofStored_of_not_fits all declared fits
      rw [read] at fault
      cases fault

/-- A row whose attempts do not fit their column. -/
def overtried : Row := { sample 1 with attempts := 0xffff_ffff }

/-- A tuple of a given version with fewer attempts than none. -/
def undertried (version : Int) : Tuple :=
  Tuple.change [.integer version, .integer (-3)]
    [(.version, .parameter 1), (.attempts, .parameter 2)] (sample 1).datum

theorem isDeclared_undertried {version : Int} (h : ColumnType.integer.holds (.integer version)) :
    (undertried version).IsDeclared := by
  intro c
  cases c with
  | version => exact Or.inl h
  | attempts => exact Or.inl rfl
  | _ => exact isDeclared_datum (sample 1) _

theorem codec_round_trips_overtried :
    Row.ofStored ⟨Column.all.map fun c => (c.text, c.type), overtried.bound⟩ =
      .ok { overtried with attempts := 0x7fff_ffff } ∧
    (∃ r, Row.ofStored ((undertried 2).record Column.all) = .ok r ∧ r.version = 2 ∧
      r.attempts = 0) ∧
    Row.ofStored ((undertried 70000).record Column.all) =
      .error (.serialization "version out of range: 70000") := by
  obtain ⟨sent, stored⟩ := codec_round_trips
  have times : overtried.HasStorableTimes :=
    { occurred := ⟨rfl, rfl⟩
      created := ⟨rfl, rfl⟩
      processed := fun t e => by cases e
      notBefore := fun t e => by cases e
      claimedUntil := fun t e => by cases e }
  refine ⟨(sent .domain overtried).2 times, ?_, ?_⟩
  · have fits : (undertried 2).Fits := ⟨⟨2, rfl, by decide, by decide⟩, Or.inl rfl⟩
    obtain ⟨accepts, keeps, -⟩ :=
      stored Column.all (undertried 2) Column.mem_all (isDeclared_undertried (by decide))
    obtain ⟨r, read⟩ := accepts.2 fits
    obtain ⟨kept, n, there, counted⟩ := keeps r read
    have version : Datum.integer 2 = .integer r.version.toNat := kept .version (by decide)
    cases there
    refine ⟨r, read, UInt16.toNat_inj.1 ?_, UInt32.toNat_inj.1 counted⟩
    injection version with version
    exact_mod_cast version.symm
  · have unfit : ¬ (undertried 70000).Fits := by
      rintro ⟨⟨n, there, -, high⟩, -⟩
      cases there
      exact absurd high (by decide)
    obtain ⟨c, n, which, there, fault⟩ :=
      (stored Column.all (undertried 70000) Column.mem_all (isDeclared_undertried (by decide))).2.2
        unfit
    rcases which with rfl | rfl
    · cases there
      exact fault
    · cases there

end Row

end Relay
