import Relay.Proofs.Table.Columns
import Relay.Worker.Publish

/-!
# What a message says about its row

A message conveys a row when its topic is that of the row's event, its bytes are the payload, and
its headers name the row, the event, the version and, exactly when the row has one, the correlation
(`Message.Conveys`). The message of a row conveys it, whatever trace the headers carry
(`Row.conveys_message`), and so also any row of the same origin.
-/

namespace Relay

theorem Headers.get?_cons (n v x : String) (rest : Headers) :
    Headers.get? ((n, v) :: rest) x = if x = n then some v else Headers.get? rest x := by
  by_cases e : x = n
  · simp [get?, e]
  · simp [get?, List.lookup_cons, beq_eq_false_iff_ne.2 e, e]

/-- A header that is set is found, and the others are as they were. -/
theorem Headers.get?_insert (hs : Headers) (name value x : String) :
    (hs.insert name value).get? x = if x = name then some value else hs.get? x := by
  induction hs with
  | nil => exact get?_cons name value x []
  | cons h rest ih =>
    obtain ⟨n, v⟩ := h
    unfold insert
    split
    · exact get?_cons name value x _
    · split
      · rename_i e
        rw [get?_cons, get?_cons, e]
        by_cases e : x = n <;> simp [e]
      · rename_i ne
        rw [get?_cons, get?_cons, ih]
        by_cases e : x = n
        · rw [if_pos e, if_pos e, if_neg fun e' => ne (e'.symm.trans e)]
        · rw [if_neg e, if_neg e]

/-- A message says all that a row has to say. -/
structure Message.Conveys (m : Message) (r : Row) : Prop where
  topic : m.topic = Relay.topic r.name r.version
  payload : m.payload = r.payload
  id : m.headers.get? messageIdHeader = some r.id.text
  name : m.headers.get? eventNameHeader = some r.name
  version : m.headers.get? eventVersionHeader = some (toString r.version.toNat)
  correlation : m.headers.get? correlationHeader = r.correlation

theorem Message.Conveys.of_origin {m : Message} {r r' : Row} (h : m.Conveys r)
    (e : r.origin = r'.origin) : m.Conveys r' := by
  simp only [Row.origin, Row.Origin.mk.injEq] at e
  obtain ⟨id, name, version, -, -, -, correlation, -, -, -, -, -, payload, -⟩ := e
  exact
    { topic := by rw [← name, ← version]; exact h.topic
      payload := payload ▸ h.payload
      id := id ▸ h.id
      name := name ▸ h.name
      version := version ▸ h.version
      correlation := correlation ▸ h.correlation }

/-- Traces have headers of their own. -/
theorem PublishSpan.get?_inject (p : PublishSpan) (hs : Headers) {x : String}
    (h : x ≠ traceparentHeader) (h' : x ≠ tracestateHeader) : (p.inject hs).get? x = hs.get? x := by
  unfold inject
  split
  · rfl
  · dsimp only
    split
    · rw [Headers.get?_insert, if_neg h]
    · rw [Headers.get?_insert, if_neg h', Headers.get?_insert, if_neg h]

theorem Row.conveys_message (row : Row) (span : PublishSpan) : (row.message span).Conveys row := by
  have ids : ∀ x ∈ [messageIdHeader, eventNameHeader, eventVersionHeader, correlationHeader],
      x ≠ traceparentHeader ∧ x ≠ tracestateHeader := by decide
  have trace : ∀ x ∈ [messageIdHeader, eventNameHeader, eventVersionHeader, correlationHeader],
      (span.inject []).get? x = none :=
    fun x h => (span.get?_inject [] (ids x h).1 (ids x h).2).trans rfl
  have names : messageIdHeader ≠ eventNameHeader ∧ messageIdHeader ≠ eventVersionHeader ∧
      eventNameHeader ≠ eventVersionHeader ∧ correlationHeader ≠ messageIdHeader ∧
      correlationHeader ≠ eventNameHeader ∧ correlationHeader ≠ eventVersionHeader := by decide
  obtain ⟨h₁, h₂, h₃, h₄, h₅, h₆⟩ := names
  refine ⟨rfl, rfl, ?_, ?_, ?_, ?_⟩ <;>
    (simp only [message, headers]
     cases row.correlation <;>
       simp [Headers.get?_insert, h₁, h₂, h₃, h₄, h₅, h₆, h₄.symm, h₅.symm, h₆.symm, trace])

end Relay
