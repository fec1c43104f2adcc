import Relay.Decimal.Floating
import Relay.Retry

/-!
# Tuning

A `Tuning` holds what an operator may choose about a worker. `Tuning.ofLookup` reads it from named
settings over the defaults; a setting that is missing or blank leaves the default. Texts that cannot
be read are reported first, in the order of reading, and `Tuning.fault` finds a value out of range.
-/

namespace Relay

/-- A setting that was refused. -/
structure SettingError where
  key : String
  value : String
  reason : String
  deriving DecidableEq, Repr

/-- The wording of a refused setting. -/
def SettingError.message (e : SettingError) : String :=
  "invalid " ++ e.key ++ "=" ++ Text.quote e.value ++ ": " ++ e.reason

/-- What an operator may choose about a worker. -/
structure Tuning where
  /-- The first part of every claim of the worker. -/
  instanceName : String
  /-- The sleep between two looks at an empty outbox. -/
  pollInterval : Duration
  /-- The part of that sleep that it is spread by. -/
  pollJitter : Float
  /-- The most rows claimed at once. -/
  batchSize : Nat
  /-- How long a claim lasts. -/
  claimDuration : Duration
  /-- The attempts after which a row rests. -/
  maxAttempts : UInt32
  retry : RetryPolicy Float

namespace Tuning

/-- The defaults, with the instance name given. -/
def standard (instanceName : String) : Tuning :=
  ⟨instanceName, .ofMillis 1000, 0.2, 50, .ofSeconds 300, 10, .standard⟩

/-- The default instance name, which holds a fresh id. -/
def freshName (id : Uuid) : String := "dispatcher-" ++ id.text

def instanceNameKey : String := "OUTBOX_INSTANCE_NAME"
def pollIntervalKey : String := "OUTBOX_POLL_INTERVAL_MS"
def pollJitterKey : String := "OUTBOX_POLL_JITTER"
def batchSizeKey : String := "OUTBOX_BATCH_SIZE"
def claimDurationKey : String := "OUTBOX_CLAIM_DURATION_MINUTES"
def maxAttemptsKey : String := "OUTBOX_MAX_ATTEMPTS"
def strategyKey : String := "OUTBOX_BACKOFF_STRATEGY"
def baseDelayKey : String := "OUTBOX_BACKOFF_BASE_MS"
def longestDelayKey : String := "OUTBOX_BACKOFF_MAX_MS"
def retryJitterKey : String := "OUTBOX_BACKOFF_JITTER"

/-- Whether a factor lies between zero and one. -/
def isFactor (x : Float) : Bool := 0 ≤ x && x ≤ 1

/-- The first value that is out of range, if any. -/
def fault (t : Tuning) : Option SettingError :=
  let outside := "must be within 0.0..=1.0"
  if t.instanceName = "" then some ⟨instanceNameKey, "", "must not be empty"⟩
  else if t.pollInterval = .zero then some ⟨pollIntervalKey, "0", "must be > 0"⟩
  else if t.batchSize = 0 then some ⟨batchSizeKey, "0", "must be >= 1"⟩
  else if t.claimDuration = .zero then some ⟨claimDurationKey, "0", "must be > 0"⟩
  else if t.maxAttempts = 0 then some ⟨maxAttemptsKey, "0", "must be >= 1"⟩
  else if !isFactor t.pollJitter then
    some ⟨pollJitterKey, Decimal.Layout.plain.text t.pollJitter, outside⟩
  else if t.retry.base = .zero then some ⟨baseDelayKey, "0", "must be > 0"⟩
  else if !isFactor t.retry.jitter then
    some ⟨retryJitterKey, Decimal.Layout.plain.text t.retry.jitter, outside⟩
  else if t.retry.longest.toNanos < t.retry.base.toNanos then
    some ⟨longestDelayKey, toString t.retry.longest.toMillis, "must be >= the base delay"⟩
  else none

/-- The tuning, if no value is out of range. -/
def check (t : Tuning) : Except SettingError Tuning :=
  match t.fault with
  | some e => .error e
  | none => .ok t

/-- Settings by name. -/
abbrev Lookup := String → Option String

/-- A setting that is there and not blank. -/
def present (lookup : Lookup) (key : String) : Option String :=
  (lookup key).filter fun v => !Text.isAllBlank v

/-- A natural number of so many bits. -/
def readNatural (bits : Nat) (s : List Char) : Except String Nat :=
  (Decimal.readNatural (1 <<< bits - 1) s).mapError Decimal.NumberError.message

/-- A number of milliseconds. -/
def readMillis (s : List Char) : Except String Duration := (readNatural 64 s).map .ofMillis

/-- A number of minutes. -/
def readMinutes (s : List Char) : Except String Duration :=
  (readNatural 64 s).map fun n => .ofSeconds (n * 60)

/-- A float. -/
def readFloat (s : List Char) : Except String Float :=
  (Decimal.readFloat s).mapError Decimal.FloatError.message

/-- A setting: its name, how its text is read, and the value that it is kept as. -/
structure Setting where
  key : String
  {Value : Type}
  read : List Char → Except String Value
  set : Tuning → Value → Tuning

namespace Setting

def instanceName : Setting :=
  ⟨instanceNameKey, fun s => .ok (String.ofList s), fun t v => { t with instanceName := v }⟩

def pollInterval : Setting := ⟨pollIntervalKey, readMillis, fun t v => { t with pollInterval := v }⟩

def pollJitter : Setting := ⟨pollJitterKey, readFloat, fun t v => { t with pollJitter := v }⟩

def batchSize : Setting := ⟨batchSizeKey, readNatural 64, fun t v => { t with batchSize := v }⟩

def claimDuration : Setting :=
  ⟨claimDurationKey, readMinutes, fun t v => { t with claimDuration := v }⟩

def maxAttempts : Setting :=
  ⟨maxAttemptsKey, fun s => (readNatural 32 s).map UInt32.ofNat,
    fun t v => { t with maxAttempts := v }⟩

def strategy : Setting :=
  ⟨strategyKey, fun s => Strategy.read (String.ofList s),
    fun t v => { t with retry := { t.retry with strategy := v } }⟩

def baseDelay : Setting :=
  ⟨baseDelayKey, readMillis, fun t v => { t with retry := { t.retry with base := v } }⟩

def longestDelay : Setting :=
  ⟨longestDelayKey, readMillis, fun t v => { t with retry := { t.retry with longest := v } }⟩

def retryJitter : Setting :=
  ⟨retryJitterKey, readFloat, fun t v => { t with retry := { t.retry with jitter := v } }⟩

/-- Reads a setting, if it is there, and applies it. -/
def apply (s : Setting) (lookup : Lookup) (t : Tuning) : Except SettingError Tuning :=
  match present lookup s.key with
  | none => .ok t
  | some v =>
    match s.read (Text.trim v.toList) with
    | .ok x => .ok (s.set t x)
    | .error reason => .error ⟨s.key, v, reason⟩

end Setting

/-- All settings, in the order in which they are read. -/
def settings : List Setting :=
  [.instanceName, .pollInterval, .pollJitter, .batchSize, .claimDuration, .maxAttempts, .strategy,
    .baseDelay, .longestDelay, .retryJitter]

/-- The names of all settings, in the order in which they are read. -/
def keys : List String := settings.map Setting.key

/-- The tuning with the settings that are there, ranges not looked at yet. -/
def override (lookup : Lookup) (t : Tuning) : Except SettingError Tuning :=
  settings.foldlM (fun t s => s.apply lookup t) t

/-- The tuning that the settings ask for; `instanceName` is used when none is set. -/
def ofLookup (instanceName : String) (lookup : Lookup) : Except SettingError Tuning := do
  check (← override lookup (standard instanceName))

end Tuning

end Relay
