import Relay.Database.Meaning
import Relay.Database.Store
import Relay.Table.Memory

/-!
# What conditions take

A statement takes a tuple only if its condition is true, so that false and unknown are one to it:
`Condition.takes` goes through `and` and `or` as if there were no unknown. For the tuple of a row
that can be stored as it is (`Row.IsStorable`), and parameters that can, the conditions of the
statements are then the predicates on rows: `takes_due` is `Row.isDue`, `takes_held` is
`Row.isClaimedBy`, `takes_renewable` is `Table.isRenewable`, and `takes_tally` says that the counts
of the rows of every status divide the rows by `Row.status`.
-/

namespace Relay

/-! ## What is stored as it is -/

/-- An instant of whole microseconds that lies in no leap second. -/
structure Instant.IsStorable (t : Instant) : Prop where
  whole : t.nanos % 1000 = 0
  steady : t.isLeap = false

instance (t : Instant) : Decidable t.IsStorable :=
  decidable_of_iff (t.nanos % 1000 = 0 ∧ t.isLeap = false)
    ⟨fun ⟨whole, steady⟩ => ⟨whole, steady⟩, fun ⟨whole, steady⟩ => ⟨whole, steady⟩⟩

/-- Such an instant comes back as it was sent. -/
theorem Instant.IsStorable.stored_eq {t : Instant} (h : t.IsStorable) : t.stored = t := by
  have whole := h.whole
  have short : t.nanos < 1_000_000_000 := by simpa [isLeap] using h.steady
  have micros : t.toMicros = (t.second - storedEpoch) * 1_000_000 + (t.nanos / 1000 : Nat) := by
    have exact_ : (t.second - storedEpoch) * 1_000_000_000 + t.nanos =
        ((t.second - storedEpoch) * 1_000_000 + (t.nanos / 1000 : Nat)) * 1000 := by omega
    rw [toMicros, exact_, Int.mul_tdiv_cancel _ (by decide)]
  have second : storedEpoch + t.toMicros / 1_000_000 = t.second := by omega
  have nanos : (t.toMicros % 1_000_000).toNat * 1000 = t.nanos := by omega
  rw [stored, ofMicros, second, nanos, ofParts,
    dif_pos ⟨t.first_le, t.le_last, t.nanos_lt⟩]
  rfl

theorem Datum.ofInstant_eq {t : Instant} (h : t.IsStorable) :
    Datum.ofInstant t = .timestamp t := by
  rw [ofInstant, h.stored_eq]

theorem attemptsDatum_eq {n : UInt32} (h : n.toNat ≤ mostStoredAttempts) :
    attemptsDatum n = .integer n.toNat := by
  rw [attemptsDatum]
  congr 1
  omega

/-- Such instants come back as well as nothing does. -/
theorem Datum.ofOption_instant {o : Option Instant} (h : ∀ t ∈ o, t.IsStorable) :
    Datum.ofOption .ofInstant o = .ofOption .timestamp o := by
  cases o with
  | none => rfl
  | some t => exact ofInstant_eq (h t rfl)

/-- A row that is stored as it is. -/
structure Row.IsStorable (r : Row) : Prop where
  attempts : r.attempts.toNat ≤ mostStoredAttempts
  occurred : r.occurred.IsStorable
  created : r.created.IsStorable
  processed : ∀ t ∈ r.processed, t.IsStorable
  notBefore : ∀ t ∈ r.notBefore, t.IsStorable
  claimedUntil : ∀ t ∈ r.claimedUntil, t.IsStorable

/-! ## Truth -/

theorem Truth.and_eq_true {a b : Truth} : a.and b = some true ↔ a = some true ∧ b = some true := by
  rcases a with _ | _ | _ <;> rcases b with _ | _ | _ <;> simp [Truth.and]

theorem Truth.or_eq_true {a b : Truth} : a.or b = some true ↔ a = some true ∨ b = some true := by
  rcases a with _ | _ | _ <;> rcases b with _ | _ | _ <;> simp [Truth.or]

section Order

variable {α : Type} [LT α] [DecidableLT α] [DecidableEq α]

theorem orderOf_cases (a b : α) :
    (a < b ∧ orderOf a b = .lt) ∨ (¬ a < b ∧ a = b ∧ orderOf a b = .eq) ∨
      (¬ a < b ∧ a ≠ b ∧ orderOf a b = .gt) := by
  unfold orderOf
  by_cases less : a < b
  · exact Or.inl ⟨less, if_pos less⟩
  · rw [if_neg less]
    by_cases same : a = b
    · exact Or.inr (Or.inl ⟨less, same, if_pos same⟩)
    · exact Or.inr (Or.inr ⟨less, same, if_neg same⟩)

theorem admits_less (a b : α) : Comparison.less.admits (orderOf a b) = decide (a < b) := by
  rcases orderOf_cases a b with ⟨less, e⟩ | ⟨less, -, e⟩ | ⟨less, -, e⟩ <;> rw [e] <;>
    simp [Comparison.admits, less]

theorem admits_atLeast (a b : α) : Comparison.atLeast.admits (orderOf a b) = !decide (a < b) := by
  rcases orderOf_cases a b with ⟨less, e⟩ | ⟨less, -, e⟩ | ⟨less, -, e⟩ <;> rw [e] <;>
    simp [Comparison.admits, less]

theorem admits_atMost (a b : α) :
    Comparison.atMost.admits (orderOf a b) = decide (a < b ∨ a = b) := by
  rcases orderOf_cases a b with ⟨less, e⟩ | ⟨-, same, e⟩ | ⟨less, same, e⟩ <;> rw [e] <;>
    simp [Comparison.admits, *]

theorem admits_more (a b : α) :
    Comparison.more.admits (orderOf a b) = !decide (a < b ∨ a = b) := by
  rcases orderOf_cases a b with ⟨less, e⟩ | ⟨-, same, e⟩ | ⟨less, same, e⟩ <;> rw [e] <;>
    simp [Comparison.admits, *]

theorem admits_equal (irrefl : ∀ a : α, ¬ a < a) (a b : α) :
    Comparison.equal.admits (orderOf a b) = decide (a = b) := by
  rcases orderOf_cases a b with ⟨less, e⟩ | ⟨-, same, e⟩ | ⟨-, same, e⟩ <;> rw [e]
  · have ne : a ≠ b := fun same => irrefl b (same ▸ less)
    simp [Comparison.admits, ne]
  · simp [Comparison.admits, same]
  · simp [Comparison.admits, same]

end Order

theorem Instant.lt_or_eq_iff {a b : Instant} : a < b ∨ a = b ↔ a ≤ b := by
  constructor
  · rintro (less | rfl)
    · exact (Instant.le_total a b).resolve_right (Instant.not_le.2 less)
    · exact Instant.le_refl a
  · intro h
    by_cases less : a < b
    · exact Or.inl less
    · exact Or.inr (Instant.le_antisymm h (Instant.not_lt.1 less))

namespace Condition

variable {ps : List Datum} {x : Tuple} {c : Column}

-- the truth of a condition is computed from the truth of its parts
attribute [simp] truth

@[simp] theorem takes_and (a b : Condition) :
    (Condition.and a b).takes ps x = (a.takes ps x && b.takes ps x) := by
  simp [takes, Truth.and_eq_true]

@[simp] theorem takes_or (a b : Condition) :
    (Condition.or a b).takes ps x = (a.takes ps x || b.takes ps x) := by
  simp [takes, Truth.or_eq_true]

@[simp] theorem takes_isNull : (isNull c).takes ps x = decide (x c = .null) := by
  simp [takes]

@[simp] theorem takes_isNotNull : (isNotNull c).takes ps x = !decide (x c = .null) := by
  simp [takes]

@[simp] theorem takes_holds : (holds c).takes ps x = decide (x c = .boolean true) := by
  cases h : x c <;> simp [takes, Tuple.truth, h]

@[simp] theorem takes_fails : (fails c).takes ps x = decide (x c = .boolean false) := by
  cases h : x c <;> simp [takes, Tuple.truth, h]

@[simp] theorem takes_compares (r : Comparison) (t : Term) :
    (compares c r t).takes ps x = ((x c).order (t.value ps)).any r.admits := by
  cases h : (x c).order (t.value ps) <;> simp [takes, h]

theorem takes_among {n : Nat} {id : Uuid} {ids : List Uuid} (value : x c = .uuid id)
    (list : parameter ps n = .uuids ids) : (among c n).takes ps x = decide (id ∈ ids) := by
  simp [takes, value, list]

/-! ## Conditions on rows -/

variable {r : Row} {due : Due} {now : Instant} {n : Nat}

theorem takes_live : live.takes ps r.datum = !r.isTerminal := by
  cases processed : r.processed <;> cases poisoned : r.poisoned <;>
    simp [live, Row.datum, Row.isTerminal, Datum.ofOption, Datum.ofInstant, processed, poisoned]

theorem takes_chosen {id : Uuid} (first : parameter ps 1 = .uuid id) :
    chosen.takes ps r.datum = decide (r.id = id) := by
  have same : r.id.toNat = id.toNat ↔ r.id = id := ⟨Uuid.ext_toNat, fun e => e ▸ rfl⟩
  simp [chosen, Term.value, first, Row.datum, Datum.order, admits_equal Nat.lt_irrefl, same]

/-- A column of instants is compared with an instant as instants are, unless it is null. -/
theorem takes_instant {o : Option Instant} (h : ∀ t ∈ o, t.IsStorable) (sent : now.IsStorable)
    {c : Column} (value : r.datum c = .ofOption .ofInstant o)
    (there : parameter ps n = .ofInstant now) (sign : Comparison) :
    (compares c sign (.parameter n)).takes ps r.datum =
      o.any fun t => sign.admits (orderOf t now) := by
  rw [takes_compares, value, Term.value, there, Datum.ofInstant_eq sent, Datum.ofOption_instant h]
  cases o <;> rfl

theorem takes_ready (h : r.IsStorable) (sent : now.IsStorable)
    (first : parameter ps 1 = .ofInstant now) : ready.takes ps r.datum = r.isReady now := by
  have compared := takes_instant h.notBefore sent (c := .notBefore) rfl first .atMost
  rw [ready, takes_or, takes_isNull, compared, Row.isReady, Row.datum]
  cases r.notBefore <;> simp [Datum.ofOption, Datum.ofInstant, admits_atMost, Instant.lt_or_eq_iff]

theorem takes_unready (h : r.IsStorable) (sent : now.IsStorable)
    (first : parameter ps 1 = .ofInstant now) :
    (compares .notBefore .more (.parameter 1)).takes ps r.datum = !r.isReady now := by
  rw [takes_instant h.notBefore sent (c := .notBefore) rfl first, Row.isReady]
  cases r.notBefore <;> simp [admits_more, Instant.lt_or_eq_iff]

theorem takes_leased (h : r.IsStorable) (sent : now.IsStorable)
    (there : parameter ps n = .ofInstant now) :
    (compares .claimedUntil .atLeast (.parameter n)).takes ps r.datum = r.isLeased now := by
  rw [takes_instant h.claimedUntil sent (c := .claimedUntil) rfl there, Row.isLeased]
  cases r.claimedUntil <;> simp [admits_atLeast, ← Instant.not_lt]

theorem takes_unclaimed (h : r.IsStorable) (sent : now.IsStorable)
    (first : parameter ps 1 = .ofInstant now) : unclaimed.takes ps r.datum = !r.isLeased now := by
  have compared := takes_instant h.claimedUntil sent (c := .claimedUntil) rfl first .less
  rw [unclaimed, takes_or, takes_isNull, compared, Row.isLeased, Row.datum]
  cases r.claimedUntil <;>
    simp [Datum.ofOption, Datum.ofInstant, admits_less, ← Instant.not_le]

/-- The column of attempts is compared with a number as attempts are. -/
theorem takes_attempts (h : r.IsStorable) {t : Term} {m : Int} (value : t.value ps = .integer m)
    (sign : Comparison) :
    (compares .attempts sign t).takes ps r.datum =
      sign.admits (orderOf (r.attempts.toNat : Int) m) := by
  rw [takes_compares, value, Row.datum, attemptsDatum_eq h.attempts]
  rfl

theorem takes_untired (h : r.IsStorable) {limit : UInt32}
    (fits : limit.toNat ≤ mostStoredAttempts) (second : parameter ps 2 = attemptsDatum limit) :
    untired.takes ps r.datum = decide (r.attempts < limit) := by
  rw [untired, takes_attempts h (t := .parameter 2) (second.trans (attemptsDatum_eq fits)),
    admits_less]
  simp [UInt32.lt_iff_toNat_lt]

theorem takes_tired (h : r.IsStorable) {limit : UInt32}
    (fits : limit.toNat ≤ mostStoredAttempts) (second : parameter ps 2 = attemptsDatum limit) :
    (compares .attempts .atLeast (.parameter 2)).takes ps r.datum =
      !decide (r.attempts < limit) := by
  rw [takes_attempts h (t := .parameter 2) (second.trans (attemptsDatum_eq fits)), admits_atLeast]
  simp [UInt32.lt_iff_toNat_lt]

end Condition

/-- A time and a number of attempts that are sent as they are. -/
structure Due.IsStorable (due : Due) : Prop where
  now : due.now.IsStorable
  attempts : due.maxAttempts.toNat ≤ mostStoredAttempts

namespace Condition

variable {r : Row} {due : Due} {now : Instant}

open Database (dueData)

/-- **The rows that are due** are those that the database takes to be. -/
theorem takes_due (h : r.IsStorable) (sent : due.IsStorable) (rest : List Datum) :
    Condition.due.takes (dueData due ++ rest) r.datum = r.isDue due := by
  rw [Condition.due, takes_and, takes_and, takes_and, takes_live, takes_ready h sent.now rfl,
    takes_unclaimed h sent.now rfl, takes_untired h sent.attempts rfl, Row.isDue]
  simp only [Bool.and_assoc]

/-- The rows that a claim holds. -/
theorem takes_held (h : r.IsStorable) (sent : now.IsStorable) (claim : Claim) :
    Database.held.takes [.text claim, .ofInstant now] r.datum = r.isClaimedBy claim now := by
  rw [Database.held, takes_and, takes_leased h sent rfl, takes_compares, Row.isClaimedBy]
  congr 1
  cases claimedBy : r.claimedBy with
  | none => simp [Row.datum, claimedBy, Datum.ofOption, Term.value, parameter, Datum.order]
  | some holder =>
    simp [Row.datum, claimedBy, Datum.ofOption, Term.value, parameter, Datum.order,
      admits_equal String.lt_irrefl]

theorem takes_liveChosen {ps : List Datum} {id : Uuid} (first : parameter ps 1 = .uuid id) :
    Database.liveChosen.takes ps r.datum = (decide (r.id = id) && !r.isTerminal) := by
  rw [Database.liveChosen, takes_and, takes_chosen first, takes_live]

theorem takes_unprocessed (ps : List Datum) (r : Row) :
    (isNull .processed).takes ps r.datum = !r.processed.isSome := by
  cases processed : r.processed <;>
    simp [Row.datum, Datum.ofOption, Datum.ofInstant, processed]

theorem takes_poisoned {ps : List Datum} : (holds .poisoned).takes ps r.datum = r.poisoned := by
  simp [Row.datum]

/-- The row of an id that can be given its attempts back. -/
theorem takes_renewable (h : r.IsStorable) (id : Uuid) :
    Database.renewable.takes [.uuid id] r.datum =
      (decide (r.id = id) && Table.isRenewable r) := by
  have tried : (compares .attempts .more (.integer 0)).takes [.uuid id] r.datum =
      decide (0 < r.attempts) := by
    rw [takes_attempts h (m := 0) rfl, admits_more, ← decide_not, decide_eq_decide,
      UInt32.lt_iff_toNat_lt, UInt32.toNat_zero]
    omega
  rw [Database.renewable, takes_and, takes_and, takes_or, takes_chosen rfl, takes_unprocessed,
    takes_poisoned, tried, Table.isRenewable]
  cases r.processed <;> rfl

/-! ## The rows of every status -/

/-- The condition with which the rows of a status are counted. -/
def tallied : Status → Condition
  | .processed => .isNotNull .processed
  | .poisoned => .and (.isNull .processed) (.holds .poisoned)
  | .stalled => .and .live (.compares .attempts .atLeast (.parameter 2))
  | .claimed => Database.pendingAnd (.compares .claimedUntil .atLeast (.parameter 1))
  | .backingOff =>
    Database.pendingAnd (.and .unclaimed (.compares .notBefore .more (.parameter 1)))
  | .pending => Database.pendingAnd (.and .unclaimed .ready)

/-- **The counts divide the rows by their status.** -/
theorem takes_tallied (h : r.IsStorable) (sent : due.IsStorable) (s : Status) :
    (tallied s).takes (dueData due) r.datum = decide (r.status due = s) := by
  have first : parameter (dueData due) 1 = .ofInstant due.now := rfl
  have second : parameter (dueData due) 2 = attemptsDatum due.maxAttempts := rfl
  have tired : due.maxAttempts ≤ r.attempts ↔ ¬ r.attempts < due.maxAttempts := by
    rw [UInt32.le_iff_toNat_le, UInt32.lt_iff_toNat_lt, Nat.not_lt]
  have pendingAnd : ∀ c : Condition, (Database.pendingAnd c).takes (dueData due) r.datum =
      (!r.isTerminal && (decide (r.attempts < due.maxAttempts) &&
        c.takes (dueData due) r.datum)) := by
    intro c
    rw [Database.pendingAnd, takes_and, takes_and, takes_live, takes_untired h sent.attempts second]
  have processed : (isNotNull .processed).takes (dueData due) r.datum = r.processed.isSome := by
    have unprocessed := takes_unprocessed (dueData due) r
    rw [takes_isNull] at unprocessed
    rw [takes_isNotNull, unprocessed, Bool.not_not]
  unfold Row.status
  cases s <;> simp only [tallied, processed, pendingAnd, takes_and, takes_live, takes_unprocessed,
      takes_poisoned, takes_tired h sent.attempts second, takes_leased h sent.now first,
      takes_unclaimed h sent.now first, takes_ready h sent.now first,
      takes_unready h sent.now first, Row.isTerminal] <;>
    by_cases hp : r.processed.isSome <;> by_cases hq : r.poisoned <;>
    by_cases ha : r.attempts < due.maxAttempts <;> by_cases hl : r.isLeased due.now <;>
    by_cases hr : r.isReady due.now <;> simp [hp, hq, ha, hl, hr, tired]

end Condition

end Relay
