import Relay.Proofs.Table.Effect

/-!
# Calls that are granted

A call that asks for a change of one row answers whether the change was made. `Call.Accepts` is the
guard of such a call, `Table.grants` says that the answer was yes, and `Table.grants_iff` that this
is so when the table works, the guard holds of the stored row, and no count would overflow. A row
whose change is granted is `Call.effect` of what it was (`Table.find?_granted`), and one whose
change is refused is as it was (`Table.find?_refused`).

A caller breaks off only over an attempt for which there is no number
(`Table.not_breaksOff_of_counts`), and whether a table works changes only then
(`Table.broken_after`).
-/

namespace Relay

/-- The guard of a call that asks for a change of one row. -/
def Call.Accepts : Call → Row → Prop
  | .markProcessed id _, r | .markPoisoned id _, r => r.id = id ∧ r.isTerminal = false
  | .recordFailure id a, r => r.id = id ∧ r.isTerminal = false ∧ r.attempts = a.previous
  | .requeue id, r => r.id = id ∧ Table.isRenewable r
  | .insert _, _ | .hasDue _, _ | .selectDue _ _, _ | .claim _ _ _ _, _ | .fetchClaimed _ _, _
  | .get _, _ | .stats _, _ => False

/-- Whether the answer says that the change that a call asks for was made. -/
def Call.isYes : (c : Call) → Option (Except StoreError c.Result) → Bool
  | .markProcessed _ _, some (.ok b) | .markPoisoned _ _, some (.ok b)
  | .recordFailure _ _, some (.ok b) | .requeue _, some (.ok b) => b
  | _, _ => false

/-- A call that asks for no change of one row, unless it is a claim, leaves every row alone. -/
theorem Call.effect_of_not_accepts {c : Call} {r : Row} (h : ¬ c.Accepts r)
    (hc : ∀ ids due claim expiry, c ≠ .claim ids due claim expiry) : c.effect r = r := by
  cases c with
  | claim ids due claim expiry => exact absurd rfl (hc ids due claim expiry)
  | markProcessed | markPoisoned | recordFailure | requeue => exact if_neg h
  | insert | hasDue | selectDue | fetchClaimed | get | stats => rfl

namespace Table

/-- Whether a table says that it made the change that a call asks for. -/
def grants (t : Table) (c : Call) : Bool := c.isYes (t.respond c).2

variable {t : Table} {c : Call} {x : Uuid} {r : Row}

/-- Recording an attempt would count beyond the last number there is. -/
def BreaksOff (t : Table) (c : Call) : Prop :=
  ∃ id a, c = .recordFailure id a ∧ t.overflows id a

/-- The three ways to respond. -/
theorem respond_cases (t : Table) (c : Call) :
    (t.broken ∧ t.respond c = (t, some (.error lockPoisoned))) ∨
      (t.BreaksOff c ∧ t.respond c = ({ t with broken := true }, none)) ∨
      (t.broken = false ∧ ¬ t.BreaksOff c ∧
        t.respond c = ((t.answer c).1, some (t.answer c).2)) := by
  cases works : t.broken with
  | true => exact Or.inl ⟨rfl, by simp [respond, works]⟩
  | false =>
    refine Or.inr ?_
    cases c with
    | recordFailure id a =>
      cases overflows : t.overflows id a with
      | true => exact Or.inl ⟨⟨id, a, rfl, overflows⟩, by simp [respond, works, overflows]⟩
      | false =>
        refine Or.inr ⟨rfl, ?_, by simp [respond, works, overflows]⟩
        rintro ⟨id', a', e, h⟩
        cases e
        rw [overflows] at h
        cases h
    | insert | hasDue | selectDue | claim | fetchClaimed | get | markProcessed | markPoisoned
    | stats | requeue =>
      refine Or.inr ⟨rfl, ?_, by simp [respond, works]⟩
      rintro ⟨id, a, e, -⟩
      cases e

/-- A row that is alive is changed if `f` wants to. -/
theorem updateLive_snd (t : Table) (id : Uuid) (f : Row → Option Row) :
    (t.updateLive id f).2 ↔ ∃ r, t.find? id = some r ∧ r.isTerminal = false ∧ (f r).isSome := by
  unfold updateLive
  cases t.find? id with
  | none => simp
  | some r =>
    by_cases terminal : r.isTerminal
    · simp [terminal]
    · cases h : f r <;> simp [terminal, h]

/-- The answer is yes when the guard holds of the row that is stored. -/
theorem isYes_answer (t : Table) (c : Call) :
    c.isYes (some (t.answer c).2) ↔ ∃ r, t.find? r.id = some r ∧ c.Accepts r := by
  -- the guard names the row that the call is about
  have named : ∀ (id : Uuid) (P : Row → Prop),
      (∃ r, t.find? id = some r ∧ P r) ↔ ∃ r, t.find? r.id = some r ∧ r.id = id ∧ P r := by
    intro id P
    constructor
    · rintro ⟨r, there, h⟩
      obtain rfl := id_of_find? there
      exact ⟨r, there, rfl, h⟩
    · rintro ⟨r, there, rfl, h⟩
      exact ⟨r, there, h⟩
  cases c with
  | markProcessed id now =>
    simpa [Call.isYes, answer, Call.Accepts, updateLive_snd] using
      named id fun r => r.isTerminal = false
  | markPoisoned id reason =>
    simpa [Call.isYes, answer, Call.Accepts, updateLive_snd] using
      named id fun r => r.isTerminal = false
  | recordFailure id a =>
    simpa [Call.isYes, answer, Call.Accepts, updateLive_snd, Option.isSome_iff_exists] using
      named id fun r => r.isTerminal = false ∧ r.attempts = a.previous
  | requeue id =>
    refine Iff.trans ?_ (named id fun r => isRenewable r)
    simp only [Call.isYes, answer]
    cases t.find? id with
    | none => simp
    | some r => by_cases renewable : isRenewable r <;> simp [renewable]
  | insert | hasDue | selectDue | claim | fetchClaimed | get | stats =>
    simp [Call.isYes, Call.Accepts]

/-- **A change is granted** when the table works and the guard holds of the stored row. -/
theorem grants_iff : t.grants c ↔
    t.broken = false ∧ ¬ t.BreaksOff c ∧ ∃ r, t.find? r.id = some r ∧ c.Accepts r := by
  unfold grants
  rcases t.respond_cases c with ⟨broken, e⟩ | ⟨breaksOff, e⟩ | ⟨works, counts, e⟩
  · rw [e]
    have no : c.isYes (some (.error lockPoisoned)) = false := by cases c <;> rfl
    simp [no, broken]
  · rw [e]
    have no : c.isYes none = false := by cases c <;> rfl
    simp [no, breaksOff]
  · rw [e, isYes_answer]
    simp [works, counts]

/-- A row whose change is granted has it. -/
theorem find?_granted (granted : t.grants c) (there : t.find? x = some r) :
    (t.after (.call c)).find? x = some (c.effect r) := by
  obtain ⟨works, counts, -⟩ := grants_iff.1 granted
  rcases t.respond_cases c with ⟨broken, -⟩ | ⟨breaksOff, -⟩ | ⟨-, -, e⟩
  · rw [works] at broken
    cases broken
  · exact absurd breaksOff counts
  · rw [after, e]
    exact find?_answer there c

/-- A row whose change is refused is as it was. -/
theorem find?_refused (refused : t.grants c = false)
    (hc : ∀ ids due claim expiry, c ≠ .claim ids due claim expiry) (there : t.find? x = some r) :
    (t.after (.call c)).find? x = some r := by
  rcases t.respond_cases c with ⟨-, e⟩ | ⟨-, e⟩ | ⟨works, counts, e⟩
  · rw [after, e]
    exact there
  · rw [after, e]
    exact there
  · rw [after, e]
    refine (find?_answer there c).trans (congrArg some (Call.effect_of_not_accepts ?_ hc))
    intro accepts
    have granted : t.grants c :=
      grants_iff.2 ⟨works, counts, r, (id_of_find? there).symm ▸ there, accepts⟩
    rw [refused] at granted
    cases granted

/-- A granted call found its guard to hold of a stored row. -/
theorem accepts_of_granted (granted : t.grants c) : ∃ r, t.find? r.id = some r ∧ c.Accepts r :=
  (grants_iff.1 granted).2.2

/-- A row is as it was unless a change is granted that is about it. -/
theorem find?_of_not_granted (h : ¬ (t.grants c ∧ c.Accepts r))
    (hc : ∀ ids due claim expiry, c ≠ .claim ids due claim expiry) (there : t.find? x = some r) :
    (t.after (.call c)).find? x = some r := by
  cases granted : t.grants c with
  | false => exact find?_refused granted hc there
  | true =>
    have same := Call.effect_of_not_accepts (fun accepts => h ⟨granted, accepts⟩) hc
    rw [find?_granted granted there, same]

/-! ## Tables that work -/

/-- A call that adds no row has its effect on every row. -/
theorem find?_answer_map (t : Table) (hc : ∀ row, c ≠ .insert row) (x : Uuid) :
    (t.answer c).1.find? x = (t.find? x).map c.effect := by
  cases there : t.find? x with
  | none =>
    rcases find?_answer_none there c with h | ⟨row, rfl, -⟩
    · exact h
    · exact absurd rfl (hc row)
  | some r => exact find?_answer there c

/-- A table that works answers, unless the caller breaks off. -/
theorem respond_unbroken (works : t.broken = false) (counts : ¬ t.BreaksOff c) :
    t.respond c = ((t.answer c).1, some (t.answer c).2) := by
  rcases t.respond_cases c with ⟨broken, -⟩ | ⟨breaksOff, -⟩ | ⟨-, -, h⟩
  · rw [works] at broken
    cases broken
  · exact absurd breaksOff counts
  · exact h

/-- A table that works answers every call that counts no attempt. -/
theorem respond_eq_answer (works : t.broken = false)
    (hc : ∀ id a, c ≠ .recordFailure id a) :
    t.respond c = ((t.answer c).1, some (t.answer c).2) :=
  respond_unbroken works fun ⟨id, a, e, _⟩ => hc id a e

/-- Rows that are put in leave a table working. -/
theorem broken_foldl_put (rows : List Row) (t : Table) :
    (rows.foldl put t).broken = t.broken := by
  induction rows generalizing t with
  | nil => rfl
  | cons row rows ih =>
    rw [List.foldl_cons, ih]
    unfold put
    split <;> rfl

/-- An answer leaves a table working. -/
theorem broken_answer (t : Table) (c : Call) : (t.answer c).1.broken = t.broken := by
  have live : ∀ id f, (t.updateLive id f).1.broken = t.broken := by
    intro id f
    unfold updateLive
    split
    · rfl
    · split
      · rfl
      · split <;> rfl
  cases c with
  | insert row =>
    simp only [answer]
    split
    · rename_i h
      obtain ⟨-, -, rfl⟩ := insertAll_ok h
      exact broken_foldl_put [row] t
    · rfl
  | claim ids due claim expiry =>
    have fold : ∀ acc : Table × Nat,
        (ids.foldl (claimOne due claim expiry) acc).1.broken = acc.1.broken := by
      induction ids with
      | nil => exact fun _ => rfl
      | cons id ids ih =>
        intro acc
        rw [List.foldl_cons, ih]
        unfold claimOne
        split
        · rfl
        · split <;> rfl
    exact fold (t, 0)
  | markProcessed id now | markPoisoned id reason | recordFailure id a =>
    simp only [answer]
    exact live id _
  | requeue id =>
    simp only [answer]
    split
    · rfl
    · split <;> rfl
  | hasDue | selectDue | fetchClaimed | get | stats => rfl

/-! ## Callers that break off -/

/-- A caller for whose attempt there is a number does not break off. -/
theorem not_breaksOff_of_counts
    (counts : ∀ id a, c = .recordFailure id a → a.previous.toNat + 1 < 1 <<< 32) :
    ¬ t.BreaksOff c := by
  rintro ⟨id, a, rfl, overflows⟩
  have less := counts id a rfl
  unfold Table.overflows at overflows
  split at overflows
  · simp only [Bool.and_eq_true, decide_eq_true_eq] at overflows
    omega
  · cases overflows

/-- A caller that gets no answer breaks off. -/
theorem breaksOff_of_unanswered (unanswered : (t.respond c).2 = none) : t.BreaksOff c := by
  rcases t.respond_cases c with ⟨-, e⟩ | ⟨breaksOff, -⟩ | ⟨-, -, e⟩
  · rw [e] at unanswered
    cases unanswered
  · exact breaksOff
  · rw [e] at unanswered
    cases unanswered

/-- Whether a table works changes only when a caller breaks off. -/
theorem broken_after {op : Operation} (counts : ∀ c, op = .call c → ¬ t.BreaksOff c) :
    (t.after op).broken = t.broken := by
  cases op with
  | call c =>
    rcases t.respond_cases c with ⟨-, e⟩ | ⟨breaksOff, -⟩ | ⟨-, -, e⟩
    · rw [after, e]
    · exact absurd breaksOff (counts c rfl)
    · rw [after, e]
      exact t.broken_answer c
  | commit w =>
    rcases t.after_commit w with ⟨t', n, added, e⟩ | e
    · obtain ⟨-, -, rfl⟩ := insertAll_ok added
      rw [e, broken_foldl_put]
    · rw [e]

end Table

end Relay
