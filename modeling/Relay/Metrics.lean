import Relay.Decimal.Layout
import Relay.Row.Basic

/-!
# Metrics

What a worker measures, and two places that keep it: a `Tally` counts, and a `Recorder` holds
counters and samples of durations under names with labels.
-/

namespace Relay

/-- Why a row was poisoned. -/
inductive PoisonReason where
  /-- No type is registered for its name and version. -/
  | unknownType
  /-- Its payload is not of its type. -/
  | invalidPayload
  /-- The broker will never accept it. -/
  | rejected
  /-- It has no attempts left. -/
  | attemptsExhausted
  deriving DecidableEq, Repr

/-- The name of a reason. -/
def PoisonReason.name : PoisonReason → String
  | .unknownType => "unknown_type"
  | .invalidPayload => "invalid_payload"
  | .rejected => "rejected"
  | .attemptsExhausted => "attempts_exhausted"

/-- Something that a worker measures. -/
inductive Measurement where
  /-- A message was published and marked processed. -/
  | processed (event : String)
  | poisoned (event : String) (reason : PoisonReason)
  /-- A publish failed and will be tried again. -/
  | failed (event : String)
  /-- An iteration that claimed rows is over. -/
  | iteration (claimed : Nat)
  deriving DecidableEq, Repr

/-- Counts of what was measured. -/
structure Tally where
  processed : UInt64 := 0
  poisoned : UInt64 := 0
  failed : UInt64 := 0
  iterations : UInt64 := 0
  claimed : UInt64 := 0
  deriving DecidableEq, Repr

/-- Counts a measurement. -/
def Tally.record (t : Tally) : Measurement → Tally
  | .processed _ => { t with processed := t.processed + 1 }
  | .poisoned _ _ => { t with poisoned := t.poisoned + 1 }
  | .failed _ => { t with failed := t.failed + 1 }
  | .iteration claimed =>
    { t with iterations := t.iterations + 1, claimed := t.claimed + UInt64.ofNat claimed }

/-- The counts by their names. -/
def Tally.counts (t : Tally) : List (String × Nat) :=
  [("processed", t.processed.toNat), ("poisoned", t.poisoned.toNat), ("failed", t.failed.toNat),
    ("iterations", t.iterations.toNat), ("claimed", t.claimed.toNat)]

/-- A named series: the labels are in ascending order of their names. -/
structure Series where
  name : String
  labels : List (String × String)
  deriving DecidableEq, Repr

/-- The text of a series. -/
def Series.text (s : Series) : String :=
  s.name ++ "\x7b" ++ ",".intercalate (s.labels.map fun (k, v) => k ++ "=" ++ v) ++ "\x7d"

/-- Counters, and samples of durations in seconds. -/
structure Recorder where
  counters : List (Series × UInt64) := []
  samples : List (Series × List Float) := []

namespace Recorder

/-- Adds one to a counter. -/
def count (r : Recorder) (s : Series) : Recorder :=
  match r.counters.lookup s with
  | none => { r with counters := r.counters ++ [(s, 1)] }
  | some _ =>
    { r with counters := r.counters.map fun (k, n) => if k = s then (k, n + 1) else (k, n) }

/-- Adds a sample. -/
def sample (r : Recorder) (s : Series) (elapsed : Duration) : Recorder :=
  match r.samples.lookup s with
  | none => { r with samples := r.samples ++ [(s, [elapsed.toSeconds])] }
  | some _ =>
    { r with
      samples := r.samples.map fun (k, xs) =>
        if k = s then (k, xs ++ [elapsed.toSeconds]) else (k, xs) }

def processedName : String := "outbox_messages_processed_total"
def poisonedName : String := "outbox_messages_poisoned_total"
def failedName : String := "outbox_messages_failed_total"
def dispatchName : String := "outbox_dispatch_duration_seconds"
def iterationName : String := "outbox_iteration_duration_seconds"

/-- Records what a worker of an outbox measured, and how long it took. -/
def record (r : Recorder) (outbox : Outbox) (m : Measurement) (elapsed : Duration) : Recorder :=
  match m with
  | .processed event =>
    (r.count ⟨processedName, [("event", event), ("outbox", outbox.name)]⟩).sample
      ⟨dispatchName, [("event", event), ("outbox", outbox.name), ("outcome", "processed")]⟩ elapsed
  | .poisoned event reason =>
    r.count
      ⟨poisonedName, [("event", event), ("outbox", outbox.name), ("reason", reason.name)]⟩
  | .failed event =>
    (r.count ⟨failedName, [("event", event), ("outbox", outbox.name)]⟩).sample
      ⟨dispatchName, [("event", event), ("outbox", outbox.name), ("outcome", "failed")]⟩ elapsed
  | .iteration _ => r.sample ⟨iterationName, [("outbox", outbox.name)]⟩ elapsed

/-- Samples in ascending order. -/
def samplesText (xs : List Float) : String :=
  "[" ++ ", ".intercalate ((xs.mergeSort fun a b => a ≤ b).map Decimal.Layout.measure.text) ++ "]"

/-- The number of samples. -/
def samplesCount (xs : List Float) : String := toString xs.length ++ " samples"

/-- A line for every series, in ascending order; `shown` writes the samples. -/
def lines (shown : List Float → String) (r : Recorder) : List String :=
  let counters := r.counters.map fun c => c.1.text ++ " " ++ toString c.2.toNat
  let samples := r.samples.map fun c => c.1.text ++ " " ++ shown c.2
  (counters ++ samples).mergeSort fun a b => a ≤ b

end Recorder

end Relay
