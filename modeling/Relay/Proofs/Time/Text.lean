import Mathlib.Data.List.Basic
import Mathlib.Tactic.SplitIfs
import Relay.Proofs.Except
import Relay.Proofs.Time.Calendar
import Relay.Time.Text

/-!
# Instants that come back

The text of an instant reads back (`Instant.read_chars`): years of any sign and size, the fewest
decimals that are exact, and the sixtieth second of a minute that has one. Each part reads back from
its own text with whatever follows it, and the parts determine the instant
(`Instant.ofFields_parts`).

A leap second that does not follow the last second of a minute has no text of its own: it is written
as the second after the one it follows, and read as that. `Instant.asWritten` is the instant that is
read, and `Instant.IsLegible` says that it is the one that was written.
-/

namespace Relay.Instant

open Relay.Decimal Relay.Text Relay.Time

/-! ## Numbers -/

/-- What follows does not go on with the digits before it. -/
def EndsDigits (rest : List Char) : Prop := ∀ c ∈ rest.head?, c.isDigit = false

theorem endsDigits_cons {c : Char} (h : c.isDigit = false) (rest : List Char) :
    EndsDigits (c :: rest) := by
  rintro d ⟨⟩
  exact h

theorem takeWhile_digits {ds rest : List Char} (digits : ∀ c ∈ ds, c.isDigit = true)
    (ends : EndsDigits rest) : (ds ++ rest).takeWhile Char.isDigit = ds := by
  rw [List.takeWhile_append_of_pos digits]
  cases rest with
  | nil => simp
  | cons c rest => simp [ends c rfl]

/-- A number reads back from its digits, if they are the digits that are looked at. -/
theorem readNumber_append {most n : Nat} {ds rest : List Char}
    (seen : ((ds ++ rest).take most).takeWhile Char.isDigit = ds) (ne : ds ≠ [])
    (read : readDigits (1 <<< 63 - 1) 0 ds = .ok n) :
    readNumber most (ds ++ rest) = .ok (n, rest) := by
  have left : (ds ++ rest).drop ds.length = rest := List.drop_left
  obtain ⟨c, ds, rfl⟩ := List.exists_cons_of_ne_nil ne
  simp only [readNumber, seen]
  rw [List.cons_append, read]
  exact congrArg (fun s => Except.ok (n, s)) left

/-- A padded number begins with a digit. -/
theorem padded_eq_cons (width n : Nat) :
    ∃ c ds, padded width n = c :: ds ∧ c.isDigit = true := by
  obtain ⟨c, ds, e⟩ := List.exists_cons_of_ne_nil (padded_ne_nil width n)
  have mem : c ∈ padded width n := e ▸ List.mem_cons_self
  exact ⟨c, ds, e, isDigit_of_mem_padded mem⟩

theorem isBlank_of_isDigit {c : Char} (h : c.isDigit = true) : isBlank c = false := by
  simp only [Char.isDigit, Bool.and_eq_true, decide_eq_true_eq, ge_iff_le,
    UInt32.le_iff_toNat_le] at h
  obtain ⟨low, high⟩ := h
  change 48 ≤ c.toNat at low
  change c.toNat ≤ 57 at high
  simp only [isBlank, Bool.or_eq_false_iff, Bool.and_eq_false_iff, decide_eq_false_iff_not,
    beq_eq_false_iff_ne]
  omega

theorem trimStart_cons {c : Char} (h : isBlank c = false) (s : List Char) :
    trimStart (c :: s) = c :: s := by
  simp [trimStart, h]

theorem trimStart_padded (width n : Nat) (rest : List Char) :
    trimStart (padded width n ++ rest) = padded width n ++ rest := by
  obtain ⟨c, ds, e, digit⟩ := padded_eq_cons width n
  rw [e]
  exact trimStart_cons (isBlank_of_isDigit digit) _

/-- **A padded number reads back**, if no digit that is looked at follows it. -/
theorem readNumber_padded {width most n : Nat} {rest : List Char} (within : n ≤ 1 <<< 63 - 1)
    (room : (padded width n).length ≤ most)
    (ends : EndsDigits (rest.take (most - (padded width n).length))) :
    readNumber most (padded width n ++ rest) = .ok (n, rest) := by
  refine readNumber_append ?_ (padded_ne_nil width n) (readDigits_padded within)
  rw [List.take_append, List.take_of_length_le room,
    takeWhile_digits (fun c mem => isDigit_of_mem_padded mem) ends]

/-- A part of a date or time reads back, whatever follows it. -/
theorem readPart_padded {low high n : Nat} (bounds : low ≤ n ∧ n ≤ high) (two : high < 100)
    (rest : List Char) : readPart low high (padded 2 n ++ rest) = .ok (n, rest) := by
  have digits : (padded 2 n).length = 2 :=
    length_padded (show n < 100 by omega) (by decide)
  have within : n ≤ 1 <<< 63 - 1 := le_trans (show n ≤ 100 by omega) (by decide)
  have read : readNumber 2 (padded 2 n ++ rest) = .ok (n, rest) := by
    refine readNumber_padded within (le_of_eq digits) fun c mem => ?_
    rw [digits] at mem
    cases mem
  rw [readPart, trimStart_padded]
  exact bind_ok read (if_pos bounds)

theorem expect_cons {c : Char} (h : isBlank c = false) (rest : List Char) :
    expect c (c :: rest) = .ok rest := by
  rw [expect, trimStart_cons h]
  exact if_pos rfl

/-! ## Years -/

/-- A signed year reads back up to the hyphen after it. -/
theorem readNumber_signed {n : Nat} (within : n ≤ 1 <<< 63 - 1) (rest : List Char) :
    readNumber (padded 4 n ++ '-' :: rest).length (padded 4 n ++ '-' :: rest) =
      .ok (n, '-' :: rest) := by
  refine readNumber_padded within (by simp) ?_
  simp only [List.length_append, List.length_cons, Nat.add_sub_cancel_left, List.take_succ_cons]
  exact endsDigits_cons (by decide) _

/-- A year of four digits reads back, whatever follows it. -/
theorem readNumber_four {n : Nat} (h : n ≤ 9999) (rest : List Char) :
    readNumber 4 (padded 4 n ++ rest) = .ok (n, rest) := by
  have digits : (padded 4 n).length = 4 :=
    length_padded (show n < 10000 by omega) (by decide)
  refine readNumber_padded (le_trans h (by decide)) (le_of_eq digits) fun c mem => ?_
  rw [digits] at mem
  cases mem

/-- **A year reads back** up to the hyphen after it. -/
theorem readYear_yearText {year : Int} (bounds : -0x8000_0000 ≤ year ∧ year < 0x8000_0000)
    (rest : List Char) : readYear (yearText year ++ '-' :: rest) = .ok (year, '-' :: rest) := by
  have within : year.natAbs ≤ 1 <<< 63 - 1 :=
    le_trans (show year.natAbs ≤ 0x8000_0000 by omega) (by decide)
  have signed := readNumber_signed within rest
  unfold yearText
  split_ifs with plain negative
  case pos =>
    have same : (year.toNat : Int) = year := Int.toNat_of_nonneg plain.1
    have read := readNumber_four (n := year.toNat) (by omega) ('-' :: rest)
    obtain ⟨c, ds, e, digit⟩ := padded_eq_cons 4 year.toNat
    have minus : c ≠ '-' := by rintro rfl; cases digit
    have plus : c ≠ '+' := by rintro rfl; cases digit
    rw [readYear, trimStart_padded]
    rw [e, List.cons_append] at read ⊢
    split
    · next sign => exact absurd (List.cons.inj sign).1 minus
    · next sign => exact absurd (List.cons.inj sign).1 plus
    · refine bind_ok (map_ok _ read) ?_
      simp only [same, bounds, and_self, if_true]
  case pos =>
    have same : -(year.natAbs : Int) = year := by omega
    rw [readYear, List.cons_append, trimStart_cons (by decide)]
    refine bind_ok (map_ok _ signed) ?_
    simp only [same, bounds, and_self, if_true]
  case neg =>
    have same : (year.natAbs : Int) = year := by omega
    rw [readYear, List.cons_append, trimStart_cons (by decide)]
    refine bind_ok (map_ok _ signed) ?_
    simp only [same, bounds, and_self, if_true]

/-! ## Times of day -/

theorem dropWhile_of_endsDigits {rest : List Char} (ends : EndsDigits rest) :
    rest.dropWhile Char.isDigit = rest := by
  cases rest with
  | nil => rfl
  | cons c rest => simp [ends c rfl]

/-- Decimals read back up to what ends them, as nanoseconds. -/
theorem readFraction_point {width n : Nat} {rest : List Char} (h : n < Nat.pow 10 width)
    (wide : 0 < width) (short : width ≤ 9) (ends : EndsDigits rest) :
    readFraction ('.' :: padded width n ++ rest) = .ok (n * Nat.pow 10 (9 - width), rest) := by
  have digits : (padded width n).length = width := length_padded h wide
  have within : n ≤ 1 <<< 63 - 1 := by
    have most : Nat.pow 10 width ≤ Nat.pow 10 9 := Nat.pow_le_pow_right (by decide) short
    have bound : Nat.pow 10 9 ≤ 1 <<< 63 - 1 := by decide
    omega
  have read : readNumber 9 (padded width n ++ rest) = .ok (n, rest) := by
    refine readNumber_padded within (le_of_eq_of_le digits short) fun c mem => ?_
    cases rest with
    | nil => simp at mem
    | cons d rest =>
      rw [List.head?_take] at mem
      split at mem
      · cases mem
      · exact ends c mem
  have used : (padded width n ++ rest).length - rest.length = width := by
    rw [List.length_append, digits, Nat.add_sub_cancel]
  rw [List.cons_append, readFraction]
  refine bind_ok read ?_
  simp only [used, dropWhile_of_endsDigits ends]

/-- **The decimals of a second read back** up to the letter after them. -/
theorem readFraction_fractionText {nanos : Nat} (h : nanos < 1_000_000_000) (rest : List Char) :
    readFraction (fractionText nanos ++ 'Z' :: rest) = .ok (nanos, 'Z' :: rest) := by
  have ends : EndsDigits ('Z' :: rest) := endsDigits_cons (by decide) rest
  unfold fractionText
  split_ifs with none three six
  case pos => rw [none]; rfl
  case pos =>
    have fits : nanos / 1_000_000 < Nat.pow 10 3 := show nanos / 1_000_000 < 1000 by omega
    rw [readFraction_point fits (by decide) (by decide) ends]
    exact congrArg (fun n => Except.ok (n, _)) (show nanos / 1_000_000 * 1_000_000 = nanos by omega)
  case pos =>
    have fits : nanos / 1000 < Nat.pow 10 6 := show nanos / 1000 < 1_000_000 by omega
    rw [readFraction_point fits (by decide) (by decide) ends]
    exact congrArg (fun n => Except.ok (n, _)) (show nanos / 1000 * 1000 = nanos by omega)
  case neg =>
    rw [readFraction_point h (by decide) (by decide) ends]
    exact congrArg (fun n => Except.ok (n, _)) (Nat.mul_one nanos)

/-! ## Leap seconds -/

/-- A leap second that the instant lies in follows the last second of a minute. -/
def IsLegible (t : Instant) : Prop := 1_000_000_000 ≤ t.nanos → t.second % 60 = 59

instance (t : Instant) : Decidable t.IsLegible :=
  inferInstanceAs (Decidable (1_000_000_000 ≤ t.nanos → t.second % 60 = 59))

/-- A leap second within a minute is followed by another second of the range. -/
theorem second_lt_of_not_isLegible {t : Instant} (h : ¬ t.IsLegible) :
    1_000_000_000 ≤ t.nanos ∧ t.second % 60 ≠ 59 ∧ t.second + 1 ≤ lastSecond := by
  obtain ⟨leap, within⟩ := Decidable.not_imp_iff_and_not.1 h
  have last := t.le_last
  refine ⟨leap, within, ?_⟩
  unfold lastSecond at last ⊢
  omega

/-- The instant that is read from the text of an instant. -/
def asWritten (t : Instant) : Instant :=
  if h : t.IsLegible then t
  else
    ⟨t.second + 1, t.nanos - 1_000_000_000, le_trans t.first_le (by omega),
      (second_lt_of_not_isLegible h).2.2, by have := t.nanos_lt; omega⟩

theorem second_asWritten {t : Instant} (h : ¬ t.IsLegible) :
    t.asWritten.second = t.second + 1 := by
  rw [asWritten, dif_neg h]

theorem nanos_asWritten {t : Instant} (h : ¬ t.IsLegible) :
    t.asWritten.nanos = t.nanos - 1_000_000_000 := by
  rw [asWritten, dif_neg h]

theorem asWritten_eq_self_iff {t : Instant} : t.asWritten = t ↔ t.IsLegible := by
  refine ⟨fun same => Decidable.byContradiction fun h => ?_, fun h => dif_pos h⟩
  have second := second_asWritten h
  rw [same] at second
  omega

theorem isLegible_asWritten (t : Instant) : t.asWritten.IsLegible := by
  by_cases h : t.IsLegible
  · rwa [asWritten_eq_self_iff.2 h]
  · have bound := t.nanos_lt
    rw [IsLegible, nanos_asWritten h]
    omega

/-- **A leap second within a minute is written like the second after the one it follows.** -/
theorem chars_asWritten (t : Instant) : t.asWritten.chars = t.chars := by
  by_cases h : t.IsLegible
  · rw [asWritten_eq_self_iff.2 h]
  · obtain ⟨leap, within, -⟩ := second_lt_of_not_isLegible h
    have bound := t.nanos_lt
    have day : (t.second + 1) / 86400 = t.second / 86400 := by omega
    have ofDay : ((t.second + 1) % 86400).toNat = (t.second % 86400).toNat + 1 := by omega
    generalize e : (t.second % 86400).toNat = n at ofDay
    have minute : n % 60 ≠ 59 := by omega
    have hours : (n + 1) / 3600 = n / 3600 := by omega
    have minutes : (n + 1) / 60 % 60 = n / 60 % 60 := by omega
    have seconds : (n + 1) % 60 + (t.nanos - 1_000_000_000) / 1_000_000_000 =
        n % 60 + t.nanos / 1_000_000_000 := by omega
    have fraction : (t.nanos - 1_000_000_000) % 1_000_000_000 = t.nanos % 1_000_000_000 := by omega
    simp only [chars, clockText, second_asWritten h, nanos_asWritten h, day, ofDay, e, hours,
      minutes, seconds, fraction]

/-! ## Whole texts -/

/-- **The fields of an instant determine it**, if it is legible. -/
theorem ofFields_parts {t : Instant} (ends : t.IsLegible) :
    let ofDay := (t.second % 86400).toNat
    ofFields (Date.ofDayNumber (t.second / 86400)) (ofDay / 3600) (ofDay / 60 % 60)
      (ofDay % 60 + t.nanos / 1_000_000_000) (t.nanos % 1_000_000_000) 0 = .ok t := by
  intro ofDay
  have nanos := t.nanos_lt
  obtain ⟨low, high⟩ := year_bounds t
  have inRange : ¬ (!(Date.ofDayNumber (t.second / 86400)).exists ||
      decide ((Date.ofDayNumber (t.second / 86400)).year < -262143) ||
      decide (262142 < (Date.ofDayNumber (t.second / 86400)).year)) = true := by
    simp only [Date.exists_ofDayNumber, Bool.not_true, Bool.false_or, Bool.or_eq_true,
      decide_eq_true_eq]
    omega
  have there : ofParts t.second t.nanos = some t :=
    dif_pos ⟨t.first_le, t.le_last, t.nanos_lt⟩
  have whole : t.second / 86400 * 86400 + ofDay = t.second := by omega
  rw [ofFields, if_neg inRange, if_neg (by decide), Date.dayNumber_ofDayNumber]
  -- the seconds are 60 just inside a leap second
  by_cases leap : 1_000_000_000 ≤ t.nanos
  · have last : ofDay % 60 + t.nanos / 1_000_000_000 = 60 := by
      have minute := ends leap
      omega
    have second : ofDay / 3600 * 3600 + ofDay / 60 % 60 * 60 + (60 - 1) = ofDay := by omega
    have beside : t.nanos % 1_000_000_000 + 1 * 1_000_000_000 = t.nanos := by omega
    simp only [last, if_true, second, beside, Int.sub_zero, whole, there]
  · have shown : ofDay % 60 + t.nanos / 1_000_000_000 = ofDay % 60 := by omega
    have regular : ofDay % 60 ≠ 60 := by omega
    have second : ofDay / 3600 * 3600 + ofDay / 60 % 60 * 60 + (ofDay % 60 - 0) = ofDay := by omega
    have beside : t.nanos % 1_000_000_000 + 0 * 1_000_000_000 = t.nanos := by omega
    simp only [shown, regular, if_false, second, beside, Int.sub_zero, whole, there]

/-- A legible instant reads back from its text. -/
theorem read_chars_of_isLegible {t : Instant} (ends : t.IsLegible) : read t.chars = .ok t := by
  have nanos := t.nanos_lt
  obtain ⟨firstYear, lastYear⟩ := year_bounds t
  have exist := Date.exists_ofDayNumber (t.second / 86400)
  have fields := ofFields_parts ends
  rw [IsLegible] at ends
  generalize e : Date.ofDayNumber (t.second / 86400) = d at *
  generalize ofDay : (t.second % 86400).toNat = n at *
  obtain ⟨year, month, day⟩ := d
  simp only [Date.exists, Bool.and_eq_true, decide_eq_true_eq] at exist
  obtain ⟨⟨⟨m, m'⟩, d'⟩, d''⟩ := exist
  have days : day ≤ 31 := by
    unfold daysInMonth at d''
    split_ifs at d'' <;> omega
  have second : n % 60 + t.nanos / 1_000_000_000 ≤ 60 := by omega
  have text : t.chars = yearText year ++ '-' :: (padded 2 month ++ '-' :: (padded 2 day ++ 'T' ::
      (padded 2 (n / 3600) ++ ':' :: (padded 2 (n / 60 % 60) ++ ':' ::
      (padded 2 (n % 60 + t.nanos / 1_000_000_000) ++
      (fractionText (t.nanos % 1_000_000_000) ++ ['Z'])))))) := by
    simp only [chars, e, ofDay, dateText, clockText, List.append_assoc, List.cons_append,
      List.nil_append]
  rw [text]
  refine bind_ok (readYear_yearText (by simp only at *; omega) _) ?_
  refine bind_ok (expect_cons (by decide) _) ?_
  refine bind_ok (readPart_padded ⟨m, m'⟩ (by decide) _) ?_
  refine bind_ok (expect_cons (by decide) _) ?_
  refine bind_ok (readPart_padded ⟨d', days⟩ (by decide) _) ?_
  simp only [decide_true, Bool.true_or, if_true]
  refine bind_ok rfl (bind_ok (readPart_padded ⟨Nat.zero_le _, by omega⟩ (by decide) _) ?_)
  refine bind_ok (expect_cons (by decide) _) ?_
  refine bind_ok (readPart_padded ⟨Nat.zero_le _, by omega⟩ (by decide) _) ?_
  refine bind_ok (expect_cons (by decide) _) ?_
  refine bind_ok (readPart_padded ⟨Nat.zero_le _, second⟩ (by decide) _) ?_
  refine bind_ok (readFraction_fractionText (Nat.mod_lt _ (by decide)) _) ?_
  exact bind_ok (a := (0, [])) rfl fields

/-- **The text of an instant reads back**, as the instant itself if it is legible. -/
theorem read_chars (t : Instant) : read t.chars = .ok t.asWritten := by
  rw [← chars_asWritten, read_chars_of_isLegible t.isLegible_asWritten]

-- the last second of all
example : (ofParts lastSecond 1_999_999_999).map chars =
    some "+262142-12-31T23:59:60.999999999Z".toList := by decide +kernel

/-! ## Characters -/

theorem mem_yearText {year : Int} {c : Char} (h : c ∈ yearText year) :
    c.isDigit = true ∨ c = '-' ∨ c = '+' := by
  unfold yearText at h
  split_ifs at h with plain negative
  · exact .inl (isDigit_of_mem_padded h)
  · rcases List.mem_cons.1 h with rfl | h
    · exact .inr (.inl rfl)
    · exact .inl (isDigit_of_mem_padded h)
  · rcases List.mem_cons.1 h with rfl | h
    · exact .inr (.inr rfl)
    · exact .inl (isDigit_of_mem_padded h)

theorem mem_fractionText {nanos : Nat} {c : Char} (h : c ∈ fractionText nanos) :
    c.isDigit = true ∨ c = '.' := by
  have point : ∀ {width n : Nat}, c ∈ '.' :: padded width n → c.isDigit = true ∨ c = '.' := by
    intro width n mem
    rcases List.mem_cons.1 mem with rfl | mem
    · exact .inr rfl
    · exact .inl (isDigit_of_mem_padded mem)
  unfold fractionText at h
  split_ifs at h
  · cases h
  · exact point h
  · exact point h
  · exact point h

/-- The characters that instants are written with. -/
theorem mem_chars {t : Instant} {c : Char} (h : c ∈ t.chars) :
    c.isDigit = true ∨ c ∈ "-+:.TZ".toList := by
  have mark : ∀ {d : Char}, c = d → d ∈ "-+:.TZ".toList →
      c.isDigit = true ∨ c ∈ "-+:.TZ".toList := by
    rintro d rfl mem
    exact .inr mem
  have digit : ∀ {n : Nat}, c ∈ padded 2 n → c.isDigit = true ∨ c ∈ "-+:.TZ".toList :=
    fun mem => .inl (isDigit_of_mem_padded mem)
  simp only [chars, dateText, clockText, List.mem_append, List.mem_singleton] at h
  rcases h with
    (((((((year | h) | h) | h) | h) | h) | ((((((h | h) | h) | h) | h) | fraction))) | h)
  · obtain digit | minus | plus := mem_yearText year
    · exact .inl digit
    · exact mark minus (by decide)
    · exact mark plus (by decide)
  · exact mark h (by decide)
  · exact digit h
  · exact mark h (by decide)
  · exact digit h
  · exact mark h (by decide)
  · exact digit h
  · exact mark h (by decide)
  · exact digit h
  · exact mark h (by decide)
  · exact digit h
  · obtain digit | point := mem_fractionText fraction
    · exact .inl digit
    · exact mark point (by decide)
  · exact mark h (by decide)

end Relay.Instant
