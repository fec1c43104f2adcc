import Relay.Time.Calendar
import Relay.Time.Duration

/-!
# Instants

An `Instant` is a second of the calendar, counted from the first of January 1970, and the
nanoseconds beside it. A leap second is the second it follows with a thousand million nanoseconds or
more beside it, so that instants are ordered by their two parts in turn. It need not follow the last
second of a minute. Instants reach from the beginning of the year -262143 to the end of the year
262142.

`Instant.shift` moves an instant by a signed number of nanoseconds and answers `none` outside that
range; the time an instant spends inside a leap second counts. `Instant.after` stops at the last
instant instead.
-/

namespace Relay

/-- The first second of the range. -/
def firstSecond : Int := -8334601228800

/-- The last second of the range. -/
def lastSecond : Int := 8210266876799

/-- A point in time. -/
structure Instant where
  /-- Seconds from the first of January 1970. -/
  second : Int
  /-- Nanoseconds beside the second; a thousand million and more inside a leap second. -/
  nanos : Nat
  first_le : firstSecond ≤ second
  le_last : second ≤ lastSecond
  nanos_lt : nanos < 2 * 1_000_000_000
  deriving DecidableEq, Repr

namespace Instant

/-- The instant with the given parts, if there is one. -/
def ofParts (second : Int) (nanos : Nat) : Option Instant :=
  if h : firstSecond ≤ second ∧ second ≤ lastSecond ∧ nanos < 2 * 1_000_000_000 then
    some ⟨second, nanos, h.1, h.2.1, h.2.2⟩
  else none

/-- The beginning of the year 1970. -/
def epoch : Instant := ⟨0, 0, by decide, by decide, by decide⟩

/-- The last instant outside a leap second. -/
def last : Instant :=
  ⟨lastSecond, 1_000_000_000 - 1, by decide, by decide, by decide⟩

instance : Inhabited Instant := ⟨epoch⟩

/-- Earlier or the same. -/
protected def le (a b : Instant) : Prop :=
  a.second < b.second ∨ a.second = b.second ∧ a.nanos ≤ b.nanos

/-- Earlier. -/
protected def lt (a b : Instant) : Prop :=
  a.second < b.second ∨ a.second = b.second ∧ a.nanos < b.nanos

instance : LE Instant := ⟨Instant.le⟩
instance : LT Instant := ⟨Instant.lt⟩

instance (a b : Instant) : Decidable (a ≤ b) :=
  inferInstanceAs (Decidable (a.second < b.second ∨ a.second = b.second ∧ a.nanos ≤ b.nanos))

instance (a b : Instant) : Decidable (a < b) :=
  inferInstanceAs (Decidable (a.second < b.second ∨ a.second = b.second ∧ a.nanos < b.nanos))

theorem le_iff {a b : Instant} :
    a ≤ b ↔ a.second < b.second ∨ a.second = b.second ∧ a.nanos ≤ b.nanos := Iff.rfl

theorem lt_iff {a b : Instant} :
    a < b ↔ a.second < b.second ∨ a.second = b.second ∧ a.nanos < b.nanos := Iff.rfl

theorem ext_parts {a b : Instant} (hs : a.second = b.second) (hn : a.nanos = b.nanos) : a = b := by
  cases a; cases b; simp_all

protected theorem le_refl (a : Instant) : a ≤ a := Or.inr ⟨rfl, Nat.le_refl _⟩

protected theorem le_trans {a b c : Instant} (h : a ≤ b) (h' : b ≤ c) : a ≤ c := by
  rw [le_iff] at *; omega

protected theorem le_antisymm {a b : Instant} (h : a ≤ b) (h' : b ≤ a) : a = b := by
  rw [le_iff] at *; exact ext_parts (by omega) (by omega)

protected theorem le_total (a b : Instant) : a ≤ b ∨ b ≤ a := by
  rw [le_iff, le_iff]; omega

protected theorem not_le {a b : Instant} : ¬ a ≤ b ↔ b < a := by
  rw [le_iff, lt_iff]; omega

protected theorem not_lt {a b : Instant} : ¬ a < b ↔ b ≤ a := by
  rw [le_iff, lt_iff]; omega

/-- Whether the instant lies inside a leap second. -/
def isLeap (t : Instant) : Bool := 1_000_000_000 ≤ t.nanos

/-- The second and nanosecond reached by moving `second` and `nanos` by a number of nanoseconds.
A whole second or more, or the end of the leap second, leaves a leap second behind; what stays
inside it stays there. -/
def moved (second : Int) (nanos : Nat) (by_ : Int) : Int × Nat :=
  let seconds := by_.tdiv 1_000_000_000
  let rest := by_.tmod 1_000_000_000
  let total : Int := nanos + rest
  if nanos < 1_000_000_000 then
    (second + seconds + total / 1_000_000_000, (total % 1_000_000_000).toNat)
  else if 0 < seconds ∨ (0 < rest ∧ 2 * 1_000_000_000 ≤ total) then
    let total := total - 1_000_000_000
    (second + seconds + total / 1_000_000_000, (total % 1_000_000_000).toNat)
  else if seconds < 0 then
    let total := total - 1_000_000_000
    (second + 1 + seconds + total / 1_000_000_000, (total % 1_000_000_000).toNat)
  else (second, total.toNat)

/-- The instant a signed number of nanoseconds away, if it is in range. -/
def shift (t : Instant) (by_ : Int) : Option Instant :=
  let (second, nanos) := moved t.second t.nanos by_
  ofParts second nanos

/-- The instant a duration later, or the last instant. -/
def after (t : Instant) (d : Duration) : Instant :=
  (t.shift d.toNanos).getD last

end Instant

end Relay
