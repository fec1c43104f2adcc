import Relay.Proofs.Except
import Relay.Simulation.Serving

/-!
# What a stream server's answer means

A fault is final by its kind and its code alone (`Stream.Fault.refusal_eq`), although the refusal it
amounts to is found by a chain of tests that overlap. For an error that the server signals the code
settles which test applies (`Stream.Complaint.isFinal_fault_iff`), and an error in a list stands for
the list (`Stream.Reply.readList_result`). `Stream.Outcome.Takes`, `Rejects` and `Falters` are the
three kinds of outcomes; each outcome is of just one of them, and the verdict goes by it
(`Stream.Outcome.verdict_eq_ok_iff` and its two companions).

`Stream.Publisher.publish` is a whole publish, with what is sent; the simulation publishes in the
same way (`Simulation.Site.publish_eq`). A message that is refused for good although nothing was
sent is too large, or the connection was given up with a final fault. The only one that a client
gives up with is that it could not choose the database (`Stream.Location.GivesUp.isFinal_iff`).
-/

namespace Relay.Stream

/-! ## Faults -/

namespace Fault

/-- A fault that is taken as a refusal for good. -/
def IsFinal (f : Fault) : Prop :=
  f.kind = .response ∨ f.kind = .type ∨ f.kind = .extension ∧ f.code = some wrongType

instance (f : Fault) : Decidable f.IsFinal :=
  inferInstanceAs (Decidable (f.kind = .response ∨ f.kind = .type ∨
    f.kind = .extension ∧ f.code = some wrongType))

/-- **What a fault amounts to.** -/
theorem refusal_eq (f : Fault) :
    f.refusal = if f.IsFinal then .permanent f.message else .transient f.message := by
  obtain ⟨kind, code, message⟩ := f
  cases kind <;> simp [refusal, isConnection, isCluster, IsFinal]

theorem not_isFinal_broken (reason : String) : ¬ (broken reason).IsFinal := by
  simp [IsFinal, broken]

end Fault

theorem Malformed.not_isFinal_fault (m : Malformed) : ¬ m.fault.IsFinal := by
  simp [Fault.IsFinal, fault]

theorem isFinal_notText (r : Reply) : (notText r).IsFinal := by
  cases r <;> simp [Fault.IsFinal, notText, Fault.worded]

namespace Complaint

/-- The error is about the command itself. -/
def IsLasting (c : Complaint) : Prop := c.code = "ERR" ∨ c.code = "WRONGTYPE"

instance (c : Complaint) : Decidable c.IsLasting :=
  inferInstanceAs (Decidable (c.code = "ERR" ∨ c.code = "WRONGTYPE"))

/-- Of the codes that are known, just one stands for a kind that is final. -/
theorem isFinal_of_known : ∀ known ∈ kinds, ∀ message,
    (Fault.mk known.2 (some known.1) message).IsFinal ↔
      known.1 = "ERR" ∨ known.1 = "WRONGTYPE" := by
  simp [kinds, Fault.IsFinal]

/-- **Which complaints are final.** Only the codes of lasting errors refuse a message for good. -/
theorem isFinal_fault_iff (c : Complaint) : c.fault.IsFinal ↔ c.IsLasting := by
  unfold fault kind
  cases found : kinds.lookup c.code with
  | none =>
    have unknown : c.code ≠ "ERR" := by
      intro code
      rw [code] at found
      cases found
    simp [Fault.IsFinal, Fault.wrongType, IsLasting, unknown]
  | some kind =>
    obtain ⟨before, after, e, -⟩ := List.lookup_eq_some_iff.1 found
    have known : (c.code, kind) ∈ kinds := by simp [e]
    exact isFinal_of_known _ known _

end Complaint

/-! ## Lists -/

namespace Reply

variable {one : Reader Result}

/-- Several replies, or errors in their place, are read one after the other. -/
inductive Reads (one : Reader Result) : Input → List Result → Input → Prop
  | done (i : Input) : Reads one i [] i
  | next {i after rest : Input} {first : Result} {others : List Result}
      (h : one i = .ok (first, after)) (more : Reads one after others rest) :
      Reads one i (first :: others) rest

/-- Of several replies all are kept, or the first error. -/
theorem readMany_result {n : Nat} {i rest : Input} {r : Except Complaint (List Reply)}
    (read : readMany one n i = .ok (r, rest)) :
    ∃ results, results.length = n ∧ Reads one i results rest ∧ r = results.mapM id := by
  induction n generalizing i rest r with
  | zero =>
    cases read
    exact ⟨[], rfl, .done i, rfl⟩
  | succ n ih =>
    unfold readMany at read
    split at read
    · cases read
    · cases read
    · rename_i first after start
      obtain ⟨⟨others, last⟩, more, ends⟩ := exists_of_bind_ok read
      obtain ⟨results, length, reads, rfl⟩ := ih more
      cases ends
      refine ⟨first :: results, congrArg (· + 1) length, .next start reads, ?_⟩
      rw [List.mapM_cons]
      rfl

/-- **A list** is answered by the first error in it, if there is one. -/
theorem readList_result {i rest : Input} {r : Result} (read : readList one i = .ok (r, rest)) :
    r = .ok .nil ∨
      ∃ start results, Reads one start results rest ∧ r = (results.mapM id).map .list := by
  obtain ⟨⟨n, start⟩, -, read⟩ := exists_of_bind_ok read
  dsimp only at read
  split at read
  · cases read
    exact .inl rfl
  · obtain ⟨⟨replies, last⟩, many, ends⟩ := exists_of_bind_ok read
    obtain ⟨results, -, reads, rfl⟩ := readMany_result many
    cases ends
    exact .inr ⟨start, results, reads, rfl⟩

end Reply

/-! ## Outcomes -/

namespace Outcome

/-- The server took the message. -/
inductive Takes : Outcome → Prop
  | text (r : Reply) (h : r.toText.isSome) : Takes (.replied (.ok r))

/-- The message is taken for one that the server will never take. -/
inductive Rejects : Outcome → Prop
  | unlinked (f : Fault) (h : f.IsFinal) : Rejects (.unlinked f)
  | complaint (c : Complaint) (h : c.IsLasting) : Rejects (.replied (.error c))
  | noText (r : Reply) (h : r.toText = none) : Rejects (.replied (.ok r))

/-- The server may take the message later, if it has not taken it. -/
inductive Falters : Outcome → Prop
  | unlinked (f : Fault) (h : ¬ f.IsFinal) : Falters (.unlinked f)
  | lost (reason : String) : Falters (.lost reason)
  | garbled (m : Malformed) : Falters (.garbled m)
  | complaint (c : Complaint) (h : ¬ c.IsLasting) : Falters (.replied (.error c))

variable {o : Outcome} {f : Fault}

theorem verdict_of_isFinal (fails : o.result = .error f) (final : f.IsFinal) :
    ∃ detail, o.verdict = .error (.permanent detail) := by
  refine ⟨f.message, ?_⟩
  rw [Outcome.verdict, fails]
  exact congrArg Except.error (f.refusal_eq.trans (if_pos final))

theorem verdict_of_not_isFinal (fails : o.result = .error f) (passing : ¬ f.IsFinal) :
    ∃ reason, o.verdict = .error (.transient reason) := by
  refine ⟨f.message, ?_⟩
  rw [Outcome.verdict, fails]
  exact congrArg Except.error (f.refusal_eq.trans (if_neg passing))

theorem Takes.verdict (h : o.Takes) : o.verdict = .ok () := by
  obtain ⟨r, text⟩ := h
  simp only [Outcome.verdict, result, text]
  rfl

theorem Rejects.verdict (h : o.Rejects) : ∃ detail, o.verdict = .error (.permanent detail) := by
  cases h with
  | unlinked f final => exact verdict_of_isFinal rfl final
  | complaint c lasting => exact verdict_of_isFinal rfl (c.isFinal_fault_iff.mpr lasting)
  | noText r none =>
    have fails : (replied (.ok r)).result = .error (notText r) := by
      simp [result, none]
    exact verdict_of_isFinal fails (isFinal_notText r)

theorem Falters.verdict (h : o.Falters) : ∃ reason, o.verdict = .error (.transient reason) := by
  cases h with
  | unlinked f passing => exact verdict_of_not_isFinal rfl passing
  | lost reason => exact verdict_of_not_isFinal rfl (Fault.not_isFinal_broken reason)
  | garbled m => exact verdict_of_not_isFinal rfl m.not_isFinal_fault
  | complaint c passing =>
    exact verdict_of_not_isFinal rfl (mt c.isFinal_fault_iff.mp passing)

/-- Every outcome is of one of the three kinds. -/
theorem takes_or_rejects_or_falters (o : Outcome) : o.Takes ∨ o.Rejects ∨ o.Falters := by
  rcases o with f | reason | m | (c | r)
  · by_cases final : f.IsFinal
    · exact .inr (.inl (.unlinked f final))
    · exact .inr (.inr (.unlinked f final))
  · exact .inr (.inr (.lost reason))
  · exact .inr (.inr (.garbled m))
  · by_cases lasting : c.IsLasting
    · exact .inr (.inl (.complaint c lasting))
    · exact .inr (.inr (.complaint c lasting))
  · cases text : r.toText with
    | none => exact .inr (.inl (.noText r text))
    | some s => exact .inl (.text r (by rw [text]; rfl))

/-- **The verdict goes by the kind of the outcome.** -/
theorem verdict_cases (o : Outcome) :
    (o.Takes ∧ o.verdict = .ok ()) ∨
    (o.Rejects ∧ ∃ detail, o.verdict = .error (.permanent detail)) ∨
    (o.Falters ∧ ∃ reason, o.verdict = .error (.transient reason)) :=
  o.takes_or_rejects_or_falters.imp (fun h => ⟨h, h.verdict⟩)
    (Or.imp (fun h => ⟨h, h.verdict⟩) fun h => ⟨h, h.verdict⟩)

theorem verdict_eq_ok_iff : o.verdict = .ok () ↔ o.Takes := by
  refine ⟨fun e => ?_, Takes.verdict⟩
  rcases o.verdict_cases with ⟨takes, -⟩ | ⟨-, detail, e'⟩ | ⟨-, reason, e'⟩
  · exact takes
  · cases e.symm.trans e'
  · cases e.symm.trans e'

theorem verdict_eq_permanent_iff :
    (∃ detail, o.verdict = .error (.permanent detail)) ↔ o.Rejects := by
  refine ⟨fun ⟨detail, e⟩ => ?_, Rejects.verdict⟩
  rcases o.verdict_cases with ⟨-, e'⟩ | ⟨rejects, -⟩ | ⟨-, reason, e'⟩
  · cases e.symm.trans e'
  · exact rejects
  · cases e.symm.trans e'

theorem verdict_eq_transient_iff :
    (∃ reason, o.verdict = .error (.transient reason)) ↔ o.Falters := by
  refine ⟨fun ⟨reason, e⟩ => ?_, Falters.verdict⟩
  rcases o.verdict_cases with ⟨-, e'⟩ | ⟨-, detail, e'⟩ | ⟨falters, -⟩
  · cases e.symm.trans e'
  · cases e.symm.trans e'
  · exact falters

end Outcome

/-! ## Connections that are set up, or not -/

namespace Location

variable {l : Location} {f : Fault}

/-- **What a client gives up with** is final only if it could not choose the database. -/
theorem GivesUp.isFinal_iff (h : l.GivesUp f) : f.IsFinal ↔ f = refusedDatabase := by
  have final : refusedDatabase.IsFinal := .inl rfl
  refine ⟨fun isFinal => ?_, fun e => e ▸ final⟩
  cases h with
  | unreachable reason => exact absurd isFinal (Fault.not_isFinal_broken reason)
  | noAddress => exact absurd isFinal (by decide)
  | noLogin => exact absurd isFinal (by decide)
  | noDatabase => rfl

/-- The first database need not be chosen. -/
theorem GivesUp.database_ne_zero (h : l.GivesUp refusedDatabase) : l.database ≠ 0 := by
  generalize chosen : refusedDatabase = f at h
  cases h with
  | noDatabase other => exact other
  | unreachable | noAddress | noLogin => cases congrArg Fault.kind chosen

/-- A connection to a location, or what a client may give up with while it sets one up. -/
def Leads (l : Location) (link : Except Fault Connection) : Prop :=
  ∀ f, link = .error f → l.GivesUp f

end Location

/-- What comes of a command over a connection, or for want of one. -/
def reach (link : Except Fault Connection) (e : Exchange) : Turn :=
  match link with
  | .error f => { outcome := .unlinked f, isSent := false }
  | .ok c => c.hear e

/-- Over a connection a command is sent, or lost because something else was received before. -/
theorem Connection.hear_unsent {c : Connection} {e : Exchange}
    (unsent : (c.hear e).isSent = false) : (c.hear e).outcome = .lost closed := by
  cases garbled : c.isGarbled with
  | true => simp [hear, garbled]
  | false =>
    -- a connection that is of use sends the command, whatever is received then
    have sent : (c.hear e).isSent = true := by
      rcases e with reason | bytes
      · simp [hear, garbled]
      · rcases received : Reply.read (c.pending ++ bytes) with (_ | m) | ⟨r, rest⟩ <;>
          simp [hear, garbled, received]
    rw [sent] at unsent
    cases unsent

variable {link : Except Fault Connection} {e : Exchange}

/-- A command that the server does not get is refused for good only for want of a connection. -/
theorem reach_unsent_rejects_iff (link : Except Fault Connection) (e : Exchange) :
    (reach link e).isSent = false ∧ (reach link e).outcome.Rejects ↔
      ∃ f, link = .error f ∧ f.IsFinal := by
  rcases link with f | c
  · constructor
    · rintro ⟨-, ⟨_, final⟩⟩
      exact ⟨f, rfl, final⟩
    · rintro ⟨_, ⟨⟩, final⟩
      exact ⟨rfl, .unlinked f final⟩
  · refine iff_of_false ?_ (by rintro ⟨_, ⟨⟩, -⟩)
    rintro ⟨unsent, rejects⟩
    rw [reach, Connection.hear_unsent unsent] at rejects
    cases rejects

/-! ## A whole publish -/

namespace Publisher

/-- Publishes a message over a connection, or for want of one, and with what is received then: the
commands that the server gets, and the answer to the publish. -/
def publish (p : Publisher) (cancelled : Bool) (m : Message) (link : Except Fault Connection)
    (e : Exchange) : List (List String) × Except Refusal Unit :=
  match p.deliver cancelled m with
  | .withheld r => ([], .error r)
  | .sent arguments =>
    let turn := reach link e
    (if turn.isSent then [arguments] else [], turn.outcome.verdict)

variable {p : Publisher} {m : Message} {cancelled : Bool}

theorem publish_of_long (long : p.mostBytes < m.payload.utf8ByteSize) (cancelled : Bool) :
    p.publish cancelled m link e = ([], .error (p.tooLarge m)) := by
  simp only [publish, deliver, if_pos long]

theorem publish_of_cancelled (fits : ¬ p.mostBytes < m.payload.utf8ByteSize) :
    p.publish true m link e = ([], .error (.transient "cancelled")) := by
  simp only [publish, deliver, if_neg fits, if_true]

theorem publish_of_fits (fits : ¬ p.mostBytes < m.payload.utf8ByteSize) :
    p.publish false m link e = (if (reach link e).isSent then [p.command m] else [],
      (reach link e).outcome.verdict) := by
  simp only [publish, deliver, if_neg fits, Bool.false_eq_true, if_false]

/-- **A message that is refused for good without asking the server** is too large, or there is no
connection, for a reason that is taken to be final. -/
theorem withheld_for_good_iff :
    ((p.publish cancelled m link e).1 = [] ∧
      ∃ detail, (p.publish cancelled m link e).2 = .error (.permanent detail)) ↔
        p.mostBytes < m.payload.utf8ByteSize ∨
          cancelled = false ∧ ∃ f, link = .error f ∧ f.IsFinal := by
  by_cases long : p.mostBytes < m.payload.utf8ByteSize
  · rw [publish_of_long long]
    exact iff_of_true ⟨rfl, _, rfl⟩ (.inl long)
  · cases cancelled with
    | true => simp [publish_of_cancelled long, long]
    | false =>
      rw [publish_of_fits long, Outcome.verdict_eq_permanent_iff]
      simp [← reach_unsent_rejects_iff link e, long]

/-- So it is with a connection to a location: the database could not be chosen. -/
theorem withheld_for_good_iff_of_leads {l : Location} (leads : l.Leads link) :
    ((p.publish cancelled m link e).1 = [] ∧
      ∃ detail, (p.publish cancelled m link e).2 = .error (.permanent detail)) ↔
        p.mostBytes < m.payload.utf8ByteSize ∨
          cancelled = false ∧ link = .error Location.refusedDatabase := by
  have final : (∃ f, link = .error f ∧ f.IsFinal) ↔ link = .error Location.refusedDatabase := by
    constructor
    · rintro ⟨f, e, isFinal⟩
      rw [e, (leads f e).isFinal_iff.mp isFinal]
    · exact fun e => ⟨_, e, .inl rfl⟩
  rw [withheld_for_good_iff, final]

/-- **What a publish answers**, by the size of the payload, by whether its caller is told to stop,
and by the kind of the outcome. -/
theorem publish_answers (p : Publisher) (cancelled : Bool) (m : Message)
    (link : Except Fault Connection) (e : Exchange) :
    let answer := (p.publish cancelled m link e).2
    let outcome := (reach link e).outcome
    let long := p.mostBytes < m.payload.utf8ByteSize
    (answer = .ok () ↔ ¬ long ∧ cancelled = false ∧ outcome.Takes) ∧
    ((∃ detail, answer = .error (.permanent detail)) ↔
      long ∨ cancelled = false ∧ outcome.Rejects) ∧
    ((∃ reason, answer = .error (.transient reason)) ↔
      ¬ long ∧ (cancelled = true ∨ outcome.Falters)) := by
  intro answer outcome long
  by_cases large : p.mostBytes < m.payload.utf8ByteSize
  · have answers : answer = .error (p.tooLarge m) := by
      simp only [answer, publish_of_long large]
    simp [answers, tooLarge, long, large]
  · cases cancelled with
    | true =>
      have answers : answer = .error (.transient "cancelled") := by
        simp only [answer, publish_of_cancelled large]
      simp [answers, long, large]
    | false =>
      have answers : answer = outcome.verdict := by
        simp only [answer, outcome, publish_of_fits large]
      simp [answers, long, large, outcome.verdict_eq_ok_iff, outcome.verdict_eq_permanent_iff,
        outcome.verdict_eq_transient_iff]

/-- What is sent is the command for the message, once or not at all. -/
theorem publish_sends (p : Publisher) (cancelled : Bool) (m : Message)
    (link : Except Fault Connection) (e : Exchange) :
    (p.publish cancelled m link e).1 = [] ∨ (p.publish cancelled m link e).1 = [p.command m] := by
  by_cases long : p.mostBytes < m.payload.utf8ByteSize
  · exact .inl (by rw [publish_of_long long])
  · cases cancelled with
    | true => exact .inl (by rw [publish_of_cancelled long])
    | false =>
      rw [publish_of_fits long]
      cases (reach link e).isSent with
      | true => exact .inr rfl
      | false => exact .inl rfl

end Publisher

end Relay.Stream

/-! ## The publisher in the simulation -/

namespace Relay.Simulation

/-- The connection to the stream server, or why there is none. -/
def Servers.link (s : Servers) : Except Stream.Fault Stream.Connection :=
  match s.fault with
  | some f => .error f
  | none => .ok (s.connection.getD {})

/-- The service that is simulated publishes just so. -/
theorem Site.publish_eq (s : Site) (p : Stream.Publisher) (m : Message) :
    let published := p.publish false m s.servers.link (s.servers.exchanges.headD Servers.taken)
    (s.publish p m).2 = published.2 ∧
      (s.publish p m).1.servers.entries = s.servers.entries ++ published.1.toArray := by
  by_cases long : p.mostBytes < m.payload.utf8ByteSize
  · simp [p.publish_of_long long, publish, Stream.Publisher.deliver, long, noteAll]
  · simp only [p.publish_of_fits long, publish, Stream.Publisher.deliver, if_neg long,
      Bool.false_eq_true, if_false, Servers.add, Servers.link]
    cases s.servers.fault with
    | some f => simp [Stream.reach, noteAll]
    | none =>
      simp only [Stream.reach]
      split <;> simp_all [noteAll]

end Relay.Simulation
