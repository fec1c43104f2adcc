import Relay.Decimal.Natural
import Relay.Proofs.Worker.Message
import Relay.Stream.Publisher

/-!
# The entry of a message

A message becomes an entry of the stream of its topic: the headers in the order of their names and
the payload last, written one after the other as the arguments of a command. Nothing of a message
gets lost in this. A topic says which name and version it is made of, although a name may look like
a topic itself (`topic_inj`). Headers have ascending names whatever is inserted
(`Headers.Ascending.insert`). A command has one message only (`Stream.Publisher.command_inj`), and a
message says which row it is of and which trace it carries (`Row.message_inj`). So two rows have the
same command only if they agree on everything the command is made of
(`Stream.entries_identify_messages`).
-/

namespace Relay

/-! ## Topics -/

/-- The digits at the end of a text are told from what is before them. -/
theorem append_digits_inj {s t ds es : List Char} {c : Char} (other : c.isDigit = false)
    (hd : ∀ d ∈ ds, d.isDigit = true) (he : ∀ e ∈ es, e.isDigit = true) :
    s ++ c :: ds = t ++ c :: es ↔ s = t ∧ ds = es := by
  have absent : ∀ {fs : List Char}, (∀ f ∈ fs, f.isDigit = true) → c ∉ fs := by
    intro fs h mem
    rw [h c mem] at other
    cases other
  refine ⟨fun h => ?_, fun ⟨hs, h⟩ => by rw [hs, h]⟩
  -- what one text has before its digits and the other has not would end in a digit
  rcases List.append_eq_append_iff.1 h with ⟨more, e, e'⟩ | ⟨more, e, e'⟩
  · cases more with
    | nil => simp_all
    | cons a more =>
      obtain ⟨-, rfl⟩ := List.cons.inj e'
      exact absurd (by simp) (absent hd)
  · cases more with
    | nil => simp_all
    | cons a more =>
      obtain ⟨-, rfl⟩ := List.cons.inj e'
      exact absurd (by simp) (absent he)

theorem toList_topic (name : String) (version : UInt16) :
    (topic name version).toList = name.toList ++ '.' :: 'v' :: Decimal.digits version.toNat := by
  simp [topic, Decimal.digits]

/-- **A topic says which name and version it is made of**, whatever the name ends in. -/
theorem topic_inj {n m : String} {v w : UInt16} : topic n v = topic m w ↔ n = m ∧ v = w := by
  refine ⟨fun h => ?_, fun ⟨hn, hv⟩ => by rw [hn, hv]⟩
  have same := congrArg String.toList h
  rw [toList_topic, toList_topic, List.append_cons, List.append_cons _ _ ('v' :: _),
    append_digits_inj rfl (fun _ => Decimal.isDigit_of_mem_digits)
      (fun _ => Decimal.isDigit_of_mem_digits)] at same
  obtain ⟨names, versions⟩ := same
  exact ⟨String.toList_injective (List.append_cancel_right names),
    UInt16.toNat_inj.1 (Decimal.digits_injective versions)⟩

theorem Uuid.text_inj {a b : Uuid} : a.text = b.text ↔ a = b := by
  refine ⟨fun h => ?_, fun h => by rw [h]⟩
  have same : a.chars = b.chars := String.ofList_injective h
  exact Option.some.inj (by rw [← readGroups_chars, same, readGroups_chars])

/-! ## Headers -/

namespace Headers

/-- The names of headers, in order. -/
def names (hs : Headers) : List String := hs.map Prod.fst

/-- Every name comes before the next, so that none comes twice. -/
def Ascending (hs : Headers) : Prop := hs.names.Pairwise (· < ·)

variable {hs : Headers} {name value x : String}

@[simp] theorem get?_nil : Headers.get? [] x = none := rfl

theorem ascending_nil : Headers.Ascending [] := .nil

theorem mem_names_insert : x ∈ (hs.insert name value).names ↔ x = name ∨ x ∈ hs.names := by
  induction hs with
  | nil => simp [insert, names]
  | cons h rest ih =>
    simp only [names, insert] at ih ⊢
    split
    · simp
    · split
      · rename_i same
        simp [same]
      · simp only [List.map_cons, List.mem_cons, ih]
        exact or_left_comm

theorem Ascending.nodup (h : hs.Ascending) : hs.names.Nodup := by
  refine List.Pairwise.imp (fun before same => ?_) h
  rw [same] at before
  exact String.lt_irrefl _ before

/-- Names stay ascending. -/
theorem Ascending.insert (h : hs.Ascending) (name value : String) :
    (hs.insert name value).Ascending := by
  induction hs with
  | nil => exact List.pairwise_singleton _ _
  | cons head rest ih =>
    obtain ⟨least, ascending⟩ := List.pairwise_cons.1 h
    unfold Headers.insert
    split
    · rename_i before
      refine List.pairwise_cons.2 ⟨fun x mem => ?_, h⟩
      rcases List.mem_cons.1 mem with rfl | mem
      · exact before
      · exact String.lt_trans before (least x mem)
    · split
      · rename_i same
        exact List.pairwise_cons.2 ⟨same ▸ least, ascending⟩
      · rename_i notBefore differs
        refine List.pairwise_cons.2 ⟨fun x mem => ?_, ih ascending⟩
        rcases mem_names_insert.1 mem with rfl | mem
        · refine String.not_le.1 fun le => differs ?_
          exact String.le_antisymm le (String.not_lt.1 notBefore)
        · exact least x mem

end Headers

namespace PublishSpan

/-- The text that names the propagated span. -/
def traceparent (p : PublishSpan) : Option String := p.context.map TraceContext.header

/-- The vendor state that is propagated. -/
def tracestate (p : PublishSpan) : Option String := p.context.bind TraceContext.state

variable {p q : PublishSpan}

/-- Only the two texts of a trace get into headers. -/
theorem inject_congr (parent : p.traceparent = q.traceparent) (state : p.tracestate = q.tracestate)
    (hs : Headers) : p.inject hs = q.inject hs := by
  unfold inject
  unfold traceparent at parent
  unfold tracestate at state
  cases hp : p.context <;> cases hq : q.context <;> simp_all

theorem ascending_inject {hs : Headers} (h : hs.Ascending) (p : PublishSpan) :
    (p.inject hs).Ascending := by
  unfold inject
  split
  · exact h
  · dsimp only
    split
    · exact h.insert _ _
    · exact (h.insert _ _).insert _ _

theorem mem_names_inject {hs : Headers} {x : String} (mem : x ∈ (p.inject hs).names) :
    x = traceparentHeader ∨ x = tracestateHeader ∨ x ∈ hs.names := by
  unfold inject at mem
  split at mem
  · exact Or.inr (Or.inr mem)
  · dsimp only at mem
    split at mem <;> simp only [Headers.mem_names_insert] at mem <;> tauto

theorem get?_inject_traceparent (p : PublishSpan) :
    (p.inject []).get? traceparentHeader = p.traceparent := by
  have apart : traceparentHeader ≠ tracestateHeader := by decide
  unfold inject traceparent
  cases p.context with
  | none => rfl
  | some c => cases h : c.state <;> simp [Headers.get?_insert, apart, h]

theorem get?_inject_tracestate (p : PublishSpan) :
    (p.inject []).get? tracestateHeader = p.tracestate := by
  have apart : tracestateHeader ≠ traceparentHeader := by decide
  unfold inject tracestate
  cases p.context with
  | none => rfl
  | some c => cases h : c.state <;> simp [Headers.get?_insert, apart, h]

end PublishSpan

namespace Row

variable {r s : Row} {p q : PublishSpan}

theorem ascending_headers (r : Row) (p : PublishSpan) : (r.headers p).Ascending := by
  have id := (p.ascending_inject Headers.ascending_nil).insert messageIdHeader r.id.text
  have three := (id.insert eventNameHeader r.name).insert eventVersionHeader
    (toString r.version.toNat)
  unfold headers
  cases r.correlation with
  | none => exact three
  | some id => exact three.insert _ _

/-- The names of the headers of a row. -/
theorem mem_names_headers {x : String} (mem : x ∈ (r.headers p).names) :
    x ∈ [traceparentHeader, tracestateHeader, messageIdHeader, eventNameHeader,
      eventVersionHeader, correlationHeader] := by
  have trace : x ∈ (p.inject []).names → x = traceparentHeader ∨ x = tracestateHeader :=
    fun mem => by simpa [Headers.names] using PublishSpan.mem_names_inject mem
  unfold headers at mem
  simp only [List.mem_cons, List.not_mem_nil, or_false]
  split at mem <;> simp only [Headers.mem_names_insert] at mem <;> tauto

/-- The headers of a row that are not about the row itself are those of the trace. -/
theorem get?_headers {x : String}
    (h : x ∉ [messageIdHeader, eventNameHeader, eventVersionHeader, correlationHeader]) :
    (r.headers p).get? x = (p.inject []).get? x := by
  simp only [List.mem_cons, List.not_mem_nil, or_false, not_or] at h
  obtain ⟨id, name, version, correlation⟩ := h
  unfold headers
  cases r.correlation <;> simp [Headers.get?_insert, id, name, version, correlation]

/-- **A message says which row it is of** and which trace it carries. -/
theorem message_inj : r.message p = s.message q ↔ r.id = s.id ∧ r.name = s.name ∧
    r.version = s.version ∧ r.correlation = s.correlation ∧ r.payload = s.payload ∧
      p.traceparent = q.traceparent ∧ p.tracestate = q.tracestate := by
  constructor
  · intro h
    have mine := r.conveys_message p
    have yours := s.conveys_message q
    rw [h] at mine
    obtain ⟨name, version⟩ := topic_inj.1 (mine.topic.symm.trans yours.topic)
    have trace : ∀ x ∉ [messageIdHeader, eventNameHeader, eventVersionHeader, correlationHeader],
        (p.inject []).get? x = (q.inject []).get? x := by
      intro x other
      rw [← get?_headers (r := r) other, ← get?_headers (r := s) other]
      exact congrArg (fun m => m.headers.get? x) h
    refine ⟨Uuid.text_inj.1 (Option.some.inj (mine.id.symm.trans yours.id)), name, version,
      mine.correlation.symm.trans yours.correlation, mine.payload.symm.trans yours.payload, ?_, ?_⟩
    · rw [← p.get?_inject_traceparent, ← q.get?_inject_traceparent]
      exact trace _ (by decide)
    · rw [← p.get?_inject_tracestate, ← q.get?_inject_tracestate]
      exact trace _ (by decide)
  · rintro ⟨id, name, version, correlation, payload, parent, state⟩
    have trace := PublishSpan.inject_congr parent state []
    simp [message, headers, id, name, version, correlation, payload, trace]

end Row

/-! ## Commands -/

/-- The fields of a message's entry, each with its name. -/
def Message.fields (m : Message) : List (String × String) :=
  m.headers ++ [("payload", m.payload)]

namespace Stream

/-- Names and values in turn. -/
def spread (fields : List (String × String)) : List String :=
  fields.flatMap fun (name, value) => [name, value]

theorem spread_inj {fs gs : List (String × String)} : spread fs = spread gs ↔ fs = gs := by
  refine ⟨fun h => ?_, fun h => by rw [h]⟩
  induction fs generalizing gs with
  | nil =>
    cases gs with
    | nil => rfl
    | cons g gs => cases h
  | cons f fs ih =>
    cases gs with
    | nil => cases h
    | cons g gs =>
      obtain ⟨name, value, rest⟩ : f.1 = g.1 ∧ f.2 = g.2 ∧ spread fs = spread gs := by
        simpa [spread] using h
      rw [Prod.ext name value, ih rest]

namespace Publisher

variable {p : Publisher} {m m' : Message}

theorem command_eq (p : Publisher) (m : Message) :
    p.command m = "XADD" :: p.key m.topic :: "*" :: spread m.fields := by
  simp [command, Message.fields, spread]

theorem key_inj {t t' : String} : p.key t = p.key t' ↔ t = t' := by
  simp [key]

/-- **A command has one message only.** -/
theorem command_inj : p.command m = p.command m' ↔ m = m' := by
  refine ⟨fun h => ?_, fun h => by rw [h]⟩
  simp only [command_eq, List.cons.injEq, true_and, key_inj, spread_inj] at h
  obtain ⟨topic, entries⟩ := h
  obtain ⟨headers, payload⟩ := List.append_inj' entries rfl
  cases m
  cases m'
  simp_all

end Publisher

/-- **A stream entry identifies its message.** Topics of two events are the same only if the events
have the same name and version. The command for a row names every field once: the headers come in
ascending order of their names, and then the payload. Two rows of one publisher have the same
command exactly when they have the same id, name, version, correlation, where none is not an empty
one, and payload, and the same texts of a trace are passed on. -/
theorem entries_identify_messages :
    (∀ n m v w, topic n v = topic m w ↔ n = m ∧ v = w) ∧
    ∀ (p : Publisher) (r s : Row) (a b : PublishSpan),
      (r.headers a).Ascending ∧
      p.command (r.message a) = "XADD" :: p.key (topic r.name r.version) :: "*" ::
        spread (r.headers a ++ [("payload", r.payload)]) ∧
      ((r.headers a ++ [("payload", r.payload)]).map Prod.fst).Nodup ∧
      (p.command (r.message a) = p.command (s.message b) ↔
        r.id = s.id ∧ r.name = s.name ∧ r.version = s.version ∧ r.correlation = s.correlation ∧
          r.payload = s.payload ∧ a.traceparent = b.traceparent ∧ a.tracestate = b.tracestate) := by
  refine ⟨fun _ _ _ _ => topic_inj, fun p r s a b => ?_⟩
  refine ⟨r.ascending_headers a, p.command_eq _, ?_, ?_⟩
  · rw [List.map_append]
    refine List.nodup_append.2 ⟨(r.ascending_headers a).nodup, List.nodup_singleton _, ?_⟩
    rintro x mem y last rfl
    obtain rfl : x = "payload" := List.mem_singleton.1 last
    exact absurd (Row.mem_names_headers mem) (by decide)
  · rw [Publisher.command_inj, Row.message_inj]

end Stream

end Relay
