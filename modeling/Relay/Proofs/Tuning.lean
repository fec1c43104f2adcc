import Mathlib.Tactic.SplitIfs
import Relay.Proofs.Except
import Relay.Tuning

/-!
# Settings over defaults

Settings are merged over the defaults before their ranges are looked at, so a fault that is found
is not tied to a text that was read. This module says what comes of any settings.

* Settings that can be read override their own values, all of them and no others
  (`override_eq_ok_iff`); one step of that is `outcome_apply`, and `Lookup.among` cuts the settings
  down to those that have been read so far.
* A tuning is accepted just if it is merged in this way and every value is within its range
  (`ofLookup_eq_ok_iff`).
* The defaults are within their ranges (`inRange_standard`), so a value that is not was read
  (`isMade_of_fault`). One test compares two values: a base delay above the default longest delay
  is reported under the name of the longest delay, set or not (`isDisplaced_of_lt`).

`refusals_name_settings` says which setting a refusal names.
-/

namespace Relay.Tuning

variable {lookup : Lookup} {t t' t'' : Tuning} {e : SettingError} {s : Setting}

/-! ## Settings that are made -/

/-- A setting is there and not blank. -/
def IsMade (lookup : Lookup) (key : String) : Prop :=
  ∃ v, lookup key = some v ∧ Text.isAllBlank v = false

theorem present_eq_some_iff {key v : String} :
    present lookup key = some v ↔ lookup key = some v ∧ Text.isAllBlank v = false := by
  simp [present, Option.filter_eq_some_iff]

theorem isMade_of_present {key v : String} (h : present lookup key = some v) :
    IsMade lookup key :=
  ⟨v, present_eq_some_iff.1 h⟩

/-- The settings of some names, and no others. -/
def Lookup.among (lookup : Lookup) (names : List String) : Lookup :=
  fun key => if key ∈ names then lookup key else none

theorem present_among_of_mem {names : List String} {key : String} (mem : key ∈ names) :
    present (lookup.among names) key = present lookup key := by
  simp only [present, Lookup.among, if_pos mem]

theorem present_among_of_notMem {names : List String} {key : String} (notMem : key ∉ names) :
    present (lookup.among names) key = none := by
  simp only [present, Lookup.among, if_neg notMem, Option.filter_none]

/-! ## What settings change -/

namespace Setting

/-- A value is read from a setting, if that is made, and otherwise as it was. -/
def Draws (s : Setting) (lookup : Lookup) (old new : s.Value) : Prop :=
  match present lookup s.key with
  | none => new = old
  | some v => s.read (Text.trim v.toList) = .ok new

/-- A setting is made, and cannot be read. -/
def Refuses (s : Setting) (lookup : Lookup) (e : SettingError) : Prop :=
  ∃ v reason, present lookup s.key = some v ∧ s.read (Text.trim v.toList) = .error reason ∧
    e = ⟨s.key, v, reason⟩

variable {a b c : s.Value}

theorem draws_of_none (absent : present lookup s.key = none) : s.Draws lookup a a := by
  simp only [Draws, absent]

theorem draws_of_some {v : String} (there : present lookup s.key = some v)
    (read : s.read (Text.trim v.toList) = .ok b) : s.Draws lookup a b := by
  simpa only [Draws, there] using read

theorem Draws.cases (h : s.Draws lookup a b) :
    (present lookup s.key = none ∧ b = a) ∨
      ∃ v, present lookup s.key = some v ∧ s.read (Text.trim v.toList) = .ok b := by
  unfold Draws at h
  split at h
  case h_1 absent => exact .inl ⟨absent, h⟩
  case h_2 v there => exact .inr ⟨v, there, h⟩

/-- A value that is not as it was was read from a setting that is made. -/
theorem Draws.isMade (h : s.Draws lookup a b) (changed : b ≠ a) : IsMade lookup s.key := by
  obtain ⟨-, same⟩ | ⟨v, there, -⟩ := h.cases
  · exact absurd same changed
  · exact isMade_of_present there

theorem Draws.unique (h : s.Draws lookup a b) (h' : s.Draws lookup a c) : b = c := by
  unfold Draws at h h'
  split at h
  case h_1 absent =>
    rw [absent] at h'
    exact h.trans h'.symm
  case h_2 v there =>
    rw [there] at h'
    exact Except.ok.inj (h.symm.trans h')

theorem Draws.not_refuses (h : s.Draws lookup a b) : ¬ s.Refuses lookup e := by
  rintro ⟨v, reason, there, unread, -⟩
  obtain ⟨absent, -⟩ | ⟨w, there', read⟩ := h.cases
  · cases absent.symm.trans there
  · cases there.symm.trans there'
    cases read.symm.trans unread

theorem draws_among_of_mem {names : List String} (mem : s.key ∈ names) :
    s.Draws (lookup.among names) a b ↔ s.Draws lookup a b := by
  simp only [Draws, present_among_of_mem mem]

theorem draws_among_of_notMem {names : List String} (notMem : s.key ∉ names) :
    s.Draws (lookup.among names) a b ↔ b = a := by
  simp only [Draws, present_among_of_notMem notMem]

/-- Some settings are read after others. -/
theorem Draws.append {names names' : List String} (h : s.Draws (lookup.among names) a b)
    (h' : s.Draws (lookup.among names') b c) : s.Draws (lookup.among (names ++ names')) a c := by
  by_cases mem' : s.key ∈ names'
  · rw [draws_among_of_mem mem'] at h'
    rw [draws_among_of_mem (List.mem_append_right _ mem')]
    obtain ⟨absent, rfl⟩ | ⟨v, there, read⟩ := h'.cases
    · by_cases mem : s.key ∈ names
      · exact (draws_among_of_mem mem).1 h
      · obtain rfl := (draws_among_of_notMem mem).1 h
        exact h'
    · exact draws_of_some there read
  · obtain rfl := (draws_among_of_notMem mem').1 h'
    by_cases mem : s.key ∈ names
    · rw [draws_among_of_mem mem] at h
      exact (draws_among_of_mem (List.mem_append_left _ mem)).2 h
    · obtain rfl := (draws_among_of_notMem mem).1 h
      exact (draws_among_of_notMem (by simp [mem, mem'])).2 rfl

end Setting

/-- Every value of a tuning is read from its own setting, if that is made, and otherwise as it was
in another tuning. -/
structure Overrides (lookup : Lookup) (t t' : Tuning) : Prop where
  instanceName : Setting.instanceName.Draws lookup t.instanceName t'.instanceName
  pollInterval : Setting.pollInterval.Draws lookup t.pollInterval t'.pollInterval
  pollJitter : Setting.pollJitter.Draws lookup t.pollJitter t'.pollJitter
  batchSize : Setting.batchSize.Draws lookup t.batchSize t'.batchSize
  claimDuration : Setting.claimDuration.Draws lookup t.claimDuration t'.claimDuration
  maxAttempts : Setting.maxAttempts.Draws lookup t.maxAttempts t'.maxAttempts
  strategy : Setting.strategy.Draws lookup t.retry.strategy t'.retry.strategy
  base : Setting.baseDelay.Draws lookup t.retry.base t'.retry.base
  longest : Setting.longestDelay.Draws lookup t.retry.longest t'.retry.longest
  retryJitter : Setting.retryJitter.Draws lookup t.retry.jitter t'.retry.jitter

namespace Overrides

theorem refl (absent : ∀ s ∈ settings, present lookup s.key = none) (t : Tuning) :
    Overrides lookup t t := by
  constructor <;> exact Setting.draws_of_none (absent _ (by simp [settings]))

theorem append {names names' : List String} (h : Overrides (lookup.among names) t t')
    (h' : Overrides (lookup.among names') t' t'') :
    Overrides (lookup.among (names ++ names')) t t'' where
  instanceName := h.instanceName.append h'.instanceName
  pollInterval := h.pollInterval.append h'.pollInterval
  pollJitter := h.pollJitter.append h'.pollJitter
  batchSize := h.batchSize.append h'.batchSize
  claimDuration := h.claimDuration.append h'.claimDuration
  maxAttempts := h.maxAttempts.append h'.maxAttempts
  strategy := h.strategy.append h'.strategy
  base := h.base.append h'.base
  longest := h.longest.append h'.longest
  retryJitter := h.retryJitter.append h'.retryJitter

end Overrides

/-- A setting that was read overrides its own value and no other. -/
theorem overrides_set {v : String} {x : s.Value} (mem : s ∈ settings)
    (there : present lookup s.key = some v) (read : s.read (Text.trim v.toList) = .ok x) :
    Overrides (lookup.among [s.key]) t (s.set t x) := by
  have own : ∀ old, s.Draws (lookup.among [s.key]) old x := fun old =>
    (Setting.draws_among_of_mem List.mem_cons_self).2 (Setting.draws_of_some there read)
  have other : ∀ s' : Setting, s'.key ≠ s.key → ∀ a, s'.Draws (lookup.among [s.key]) a a :=
    fun s' ne a => (Setting.draws_among_of_notMem (by simpa using ne)).2 rfl
  simp only [settings, List.mem_cons, List.not_mem_nil, or_false] at mem
  rcases mem with rfl | rfl | rfl | rfl | rfl | rfl | rfl | rfl | rfl | rfl <;> constructor <;>
    first | exact other _ (by decide) _ | exact own _

/-- What reading the settings of some names comes to: values that were overridden, or a setting
that is made and cannot be read. -/
def Outcome (lookup : Lookup) (names : List String) (t : Tuning) :
    Except SettingError Tuning → Prop
  | .ok t' => Overrides (lookup.among names) t t'
  | .error e => ∃ s ∈ settings, s.Refuses lookup e

/-- One setting overrides its own value, or it is refused. -/
theorem outcome_apply (lookup : Lookup) (mem : s ∈ settings) (t : Tuning) :
    Outcome lookup [s.key] t (s.apply lookup t) := by
  unfold Setting.apply
  split
  case h_1 absent =>
    refine Overrides.refl (fun s' _ => ?_) t
    by_cases same : s'.key ∈ [s.key]
    · rw [present_among_of_mem same, List.mem_singleton.1 same, absent]
    · exact present_among_of_notMem same
  case h_2 v there =>
    split
    case h_1 x read => exact overrides_set mem there read
    case h_2 reason read => exact ⟨s, mem, v, reason, there, read, rfl⟩

/-- Settings that are read one after the other override their own values, or one is refused. -/
theorem outcome_foldlM {l : List Setting} (sub : ∀ s ∈ l, s ∈ settings) (t : Tuning) :
    Outcome lookup (l.map Setting.key) t (l.foldlM (fun t s => s.apply lookup t) t) := by
  induction l generalizing t with
  | nil => exact Overrides.refl (fun _ _ => present_among_of_notMem List.not_mem_nil) t
  | cons s l ih =>
    have first := outcome_apply lookup (sub s List.mem_cons_self) t
    rw [List.foldlM_cons]
    cases applied : s.apply lookup t with
    | error e =>
      rw [applied] at first
      exact first
    | ok u =>
      rw [applied] at first
      have rest := ih (fun s mem => sub s (List.mem_cons_of_mem _ mem)) u
      change Outcome lookup _ t (l.foldlM (fun t s => s.apply lookup t) u)
      -- The rest starts from `u` and not from `t`, which matters only if nothing is refused.
      cases ended : l.foldlM (fun t s => s.apply lookup t) u with
      | error e => rw [ended] at rest; exact rest
      | ok t' => rw [ended] at rest; exact first.append rest

theorem Overrides.of_among (h : Overrides (lookup.among keys) t t') : Overrides lookup t t' where
  instanceName := (Setting.draws_among_of_mem (by decide)).1 h.instanceName
  pollInterval := (Setting.draws_among_of_mem (by decide)).1 h.pollInterval
  pollJitter := (Setting.draws_among_of_mem (by decide)).1 h.pollJitter
  batchSize := (Setting.draws_among_of_mem (by decide)).1 h.batchSize
  claimDuration := (Setting.draws_among_of_mem (by decide)).1 h.claimDuration
  maxAttempts := (Setting.draws_among_of_mem (by decide)).1 h.maxAttempts
  strategy := (Setting.draws_among_of_mem (by decide)).1 h.strategy
  base := (Setting.draws_among_of_mem (by decide)).1 h.base
  longest := (Setting.draws_among_of_mem (by decide)).1 h.longest
  retryJitter := (Setting.draws_among_of_mem (by decide)).1 h.retryJitter

/-- Of tunings that override another one by the same settings there is only one. -/
theorem Overrides.unique (h : Overrides lookup t t') (h' : Overrides lookup t t'') : t' = t'' := by
  obtain ⟨name, poll, jitter, batch, claim, attempts, strategy, base, longest, jitter'⟩ := t'
  cases h.instanceName.unique h'.instanceName
  cases h.pollInterval.unique h'.pollInterval
  cases h.pollJitter.unique h'.pollJitter
  cases h.batchSize.unique h'.batchSize
  cases h.claimDuration.unique h'.claimDuration
  cases h.maxAttempts.unique h'.maxAttempts
  cases h.strategy.unique h'.strategy
  cases h.base.unique h'.base
  cases h.longest.unique h'.longest
  cases h.retryJitter.unique h'.retryJitter
  rfl

theorem Overrides.not_refuses (h : Overrides lookup t t') (mem : s ∈ settings) :
    ¬ s.Refuses lookup e := by
  simp only [settings, List.mem_cons, List.not_mem_nil, or_false] at mem
  rcases mem with rfl | rfl | rfl | rfl | rfl | rfl | rfl | rfl | rfl | rfl
  · exact h.instanceName.not_refuses
  · exact h.pollInterval.not_refuses
  · exact h.pollJitter.not_refuses
  · exact h.batchSize.not_refuses
  · exact h.claimDuration.not_refuses
  · exact h.maxAttempts.not_refuses
  · exact h.strategy.not_refuses
  · exact h.base.not_refuses
  · exact h.longest.not_refuses
  · exact h.retryJitter.not_refuses

/-- Settings override a tuning, or one of them is refused. -/
theorem override_cases (lookup : Lookup) (t : Tuning) :
    (∃ t', override lookup t = .ok t' ∧ Overrides lookup t t') ∨
      ∃ e, override lookup t = .error e ∧ ∃ s ∈ settings, s.Refuses lookup e := by
  have outcome : Outcome lookup keys t (override lookup t) := outcome_foldlM (fun _ mem => mem) t
  cases merged : override lookup t with
  | ok t' =>
    rw [merged] at outcome
    exact .inl ⟨t', rfl, outcome.of_among⟩
  | error e =>
    rw [merged] at outcome
    exact .inr ⟨e, rfl, outcome⟩

/-- **Settings override just their own values, and all of them.** -/
theorem override_eq_ok_iff : override lookup t = .ok t' ↔ Overrides lookup t t' := by
  obtain ⟨u, merged, o⟩ | ⟨e, merged, s, mem, refused⟩ := override_cases lookup t
  · rw [merged, Except.ok.injEq]
    exact ⟨fun same => same ▸ o, fun o' => o.unique o'⟩
  · rw [merged]
    exact ⟨nofun, fun o => absurd refused (o.not_refuses mem)⟩

/-! ## Ranges -/

/-- Every value is within its range. -/
structure InRange (t : Tuning) : Prop where
  instanceName : t.instanceName ≠ ""
  pollInterval : t.pollInterval ≠ .zero
  batchSize : t.batchSize ≠ 0
  claimDuration : t.claimDuration ≠ .zero
  maxAttempts : t.maxAttempts ≠ 0
  pollJitter : isFactor t.pollJitter = true
  base : t.retry.base ≠ .zero
  retryJitter : isFactor t.retry.jitter = true
  delays : t.retry.base.toNanos ≤ t.retry.longest.toNanos

theorem fault_eq_none_iff : t.fault = none ↔ InRange t := by
  constructor
  · intro h
    dsimp only [fault] at h
    split_ifs at h with blank poll batch claim attempts pollJitter base retryJitter beyond
    exact ⟨blank, poll, batch, claim, attempts, by simpa using pollJitter, base,
      by simpa using retryJitter, Nat.le_of_not_lt beyond⟩
  · intro ⟨blank, poll, batch, claim, attempts, pollJitter, base, retryJitter, delays⟩
    simp [fault, blank, poll, batch, claim, attempts, pollJitter, base, retryJitter, delays]

theorem check_eq_ok_iff : t.check = .ok t' ↔ t' = t ∧ InRange t := by
  rw [check, ← fault_eq_none_iff]
  cases t.fault <;> simp [eq_comm]

/-- The defaults are within their ranges. -/
theorem inRange_standard {name : String} (named : name ≠ "") : InRange (standard name) where
  instanceName := named
  pollInterval := by show Duration.ofMillis 1000 ≠ .zero; decide
  batchSize := by show 50 ≠ 0; decide
  claimDuration := by show Duration.ofSeconds 300 ≠ .zero; decide
  maxAttempts := by show (10 : UInt32) ≠ 0; decide
  pollJitter := by show isFactor 0.2 = true; decide
  base := by show Duration.ofSeconds 1 ≠ .zero; decide
  retryJitter := by show isFactor 0.1 = true; decide
  delays := by show (Duration.ofSeconds 1).toNanos ≤ (Duration.ofSeconds 300).toNanos; decide

theorem toNanos_ofMillis_le (n : Nat) : (Duration.ofMillis n).toNanos ≤ n * 1_000_000 := by
  simp only [Duration.ofMillis, Duration.ofNanos, Duration.longest]
  split <;> dsimp only <;> omega

/-- A delay is no longer than the number of milliseconds that is written. -/
theorem exists_of_readMillis {l : List Char} {d : Duration} (h : readMillis l = .ok d) :
    ∃ n, readNatural 64 l = .ok n ∧ d.toNanos ≤ n * 1_000_000 := by
  unfold readMillis at h
  cases read : readNatural 64 l with
  | error reason =>
    rw [read] at h
    cases h
  | ok n =>
    rw [read] at h
    cases h
    exact ⟨n, rfl, toNanos_ofMillis_le n⟩

/-- A refusal under the name of the longest delay, which is not set: it is the base delay that is
set, to more than the default longest delay. -/
structure IsDisplaced (lookup : Lookup) (e : SettingError) : Prop where
  eq : e = ⟨longestDelayKey, "300000", "must be >= the base delay"⟩
  unset : ¬ IsMade lookup longestDelayKey
  base : ∃ v n, lookup baseDelayKey = some v ∧ readNatural 64 (Text.trim v.toList) = .ok n ∧
    300000 < n

/-- If the longest delay is not set, a base delay beyond it is beyond the default, and was read. -/
theorem isDisplaced_of_lt {name : String} (o : Overrides lookup (standard name) t)
    (unset : ¬ IsMade lookup longestDelayKey)
    (beyond : t.retry.longest.toNanos < t.retry.base.toNanos) :
    IsDisplaced lookup
      ⟨longestDelayKey, toString t.retry.longest.toMillis, "must be >= the base delay"⟩ := by
  have kept : t.retry.longest = .ofSeconds 300 := by
    obtain ⟨-, kept⟩ | ⟨v, there, -⟩ := o.longest.cases
    · exact kept
    · exact absurd (isMade_of_present there) unset
  have long : (Duration.ofSeconds 300).toNanos = 300000 * 1_000_000 := rfl
  have short : (Duration.ofSeconds 1).toNanos = 1_000 * 1_000_000 := rfl
  refine ⟨by rw [kept]; rfl, unset, ?_⟩
  rw [kept, long] at beyond
  obtain ⟨-, same⟩ | ⟨v, there, read⟩ := o.base.cases
  · rw [same] at beyond
    change _ < (Duration.ofSeconds 1).toNanos at beyond
    omega
  · obtain ⟨n, number, atMost⟩ := exists_of_readMillis read
    exact ⟨v, n, (present_eq_some_iff.1 there).1, number, by omega⟩

/-- **A value out of range was read from the setting that is named**, or it is a base delay above
the default longest delay. -/
theorem isMade_of_fault {name : String} (named : name ≠ "")
    (o : Overrides lookup (standard name) t) (h : t.fault = some e) :
    IsMade lookup e.key ∨ IsDisplaced lookup e := by
  have within := inRange_standard named
  dsimp only [fault] at h
  split_ifs at h with blank poll batch claim attempts pollJitter base retryJitter beyond <;> cases h
  · exact .inl (o.instanceName.isMade fun same => within.instanceName (same.symm.trans blank))
  · exact .inl (o.pollInterval.isMade fun same => within.pollInterval (same.symm.trans poll))
  · exact .inl (o.batchSize.isMade fun same => within.batchSize (same.symm.trans batch))
  · exact .inl (o.claimDuration.isMade fun same => within.claimDuration (same.symm.trans claim))
  · exact .inl (o.maxAttempts.isMade fun same => within.maxAttempts (same.symm.trans attempts))
  · refine .inl (o.pollJitter.isMade fun same => ?_)
    rw [same, within.pollJitter] at pollJitter
    cases pollJitter
  · exact .inl (o.base.isMade fun same => within.base (same.symm.trans base))
  · refine .inl (o.retryJitter.isMade fun same => ?_)
    rw [same, within.retryJitter] at retryJitter
    cases retryJitter
  · by_cases made : IsMade lookup longestDelayKey
    · exact .inl made
    · exact .inr (isDisplaced_of_lt o made beyond)

/-! ## Refusals -/

theorem freshName_ne_empty (id : Uuid) : freshName id ≠ "" := by
  simp [freshName]

/-- **Settings are accepted** just if they can be read and every value is within its range then. -/
theorem ofLookup_eq_ok_iff {name : String} :
    ofLookup name lookup = .ok t ↔ Overrides lookup (standard name) t ∧ InRange t := by
  obtain ⟨u, merged, o⟩ | ⟨e, merged, s, mem, refused⟩ := override_cases lookup (standard name)
  · have checked : ofLookup name lookup = u.check := bind_eq merged rfl
    rw [checked, check_eq_ok_iff]
    constructor
    · rintro ⟨rfl, within⟩
      exact ⟨o, within⟩
    · rintro ⟨o', within⟩
      cases o.unique o'
      exact ⟨rfl, within⟩
  · rw [show ofLookup name lookup = .error e from bind_error merged]
    exact ⟨nofun, fun ⟨o, _⟩ => absurd refused (o.not_refuses mem)⟩

/-- Settings are refused when one cannot be read, or else for a value out of range. -/
theorem refusal_of_ofLookup {name : String} (h : ofLookup name lookup = .error e) :
    (∃ s ∈ settings, s.Refuses lookup e) ∨
      ∃ t, Overrides lookup (standard name) t ∧ t.fault = some e := by
  unfold ofLookup at h
  obtain ⟨t, merged, o⟩ | ⟨e', merged, refused⟩ := override_cases lookup (standard name)
  · rw [bind_eq merged rfl, check] at h
    split at h
    case h_1 found =>
      cases h
      exact .inr ⟨t, o, found⟩
    case h_2 => cases h
  · rw [bind_error merged] at h
    cases h
    exact .inl refused

/-- **A refusal names a setting that is made.** There is one exception: when the longest delay is
not set, a base delay above the default longest delay is refused under the name of the latter. -/
theorem refusals_name_settings (id : Uuid) (lookup : Lookup)
    (refused : ofLookup (freshName id) lookup = .error e) :
    IsMade lookup e.key ∨ IsDisplaced lookup e := by
  obtain ⟨s, -, v, reason, there, -, rfl⟩ | ⟨t, o, found⟩ := refusal_of_ofLookup refused
  · exact .inl (isMade_of_present there)
  · exact isMade_of_fault (freshName_ne_empty id) o found

/-- The settings of a list. -/
def Lookup.ofList (l : List (String × String)) : Lookup := fun key => l.lookup key

/-- A longest delay below the base delay is refused under its name when both are set. -/
theorem refusals_name_settings_delays :
    let lookup := Lookup.ofList [(baseDelayKey, "2000"), (longestDelayKey, "1000")]
    ofLookup (freshName (.ofNat 1)) lookup =
        .error ⟨longestDelayKey, "1000", "must be >= the base delay"⟩ ∧
      IsMade lookup longestDelayKey := by
  intro lookup
  have refused : ofLookup (freshName (.ofNat 1)) lookup =
      .error ⟨longestDelayKey, "1000", "must be >= the base delay"⟩ := rfl
  refine ⟨refused, ?_⟩
  obtain made | ⟨other, -, -⟩ := refusals_name_settings (.ofNat 1) lookup refused
  · exact made
  · exact absurd other (by decide)

/-- A base delay of 400 seconds alone is refused under the name of the longest delay. -/
theorem unset_longest_delay_is_blamed :
    let lookup := Lookup.ofList [(baseDelayKey, "400000")]
    ofLookup (freshName (.ofNat 1)) lookup =
        .error ⟨longestDelayKey, "300000", "must be >= the base delay"⟩ ∧
      ¬ IsMade lookup longestDelayKey := by
  refine ⟨rfl, ?_⟩
  rintro ⟨v, there, -⟩
  cases there

end Relay.Tuning
