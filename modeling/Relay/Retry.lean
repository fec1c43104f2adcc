import Relay.Json.Reader
import Relay.Json.Writer
import Relay.Text.Blank

/-!
# Retrying

A `RetryPolicy` says how long a row waits after its n-th failed attempt: the same time, a multiple
of it or a doubling, never more than a longest delay, and spread by a random part. Delays are
computed in milliseconds in any `Arithmetic`: in floats when the program runs, in exact numbers when
it is reasoned about.
-/

namespace Relay

/-- How delays grow. -/
inductive Strategy where
  /-- The same delay every time. -/
  | fixed
  /-- The base delay times the number of the attempt. -/
  | linear
  /-- The base delay, doubled after every attempt but the first. -/
  | exponential
  deriving DecidableEq, Repr

namespace Strategy

/-- The name of a strategy. -/
def name : Strategy → String
  | .fixed => "fixed"
  | .linear => "linear"
  | .exponential => "exponential"

/-- The names of the strategies. -/
def names : List String := ["fixed", "linear", "exponential"]

/-- The place of a strategy among the names. -/
def toFin : Strategy → Fin names.length
  | .fixed => ⟨0, by decide⟩
  | .linear => ⟨1, by decide⟩
  | .exponential => ⟨2, by decide⟩

/-- The strategy at a place among the names. -/
def ofFin (i : Fin names.length) : Strategy :=
  match i.val with
  | 0 => .fixed
  | 1 => .linear
  | _ => .exponential

/-- The message about a name that is none. -/
def unknown (name : String) : String :=
  "unknown backoff strategy " ++ Text.quote name ++ " (expected fixed, linear or exponential)"

/-- Reads a name in any case, blanks around it. -/
def read (text : String) : Except String Strategy :=
  let word := String.ofList ((Text.trim text.toList).map Char.toLower)
  if word = "fixed" then .ok .fixed
  else if word = "linear" then .ok .linear
  else if word = "exponential" then .ok .exponential
  else .error (unknown word)

end Strategy

/-- What computing a delay needs of numbers. -/
class Arithmetic (α : Type) where
  zero : α
  one : α
  ofNat : Nat → α
  add : α → α → α
  sub : α → α → α
  mul : α → α → α
  le : α → α → Bool
  /-- Whether the number is neither infinite nor undefined. -/
  isFinite : α → Bool
  /-- The whole part of a number that is not negative, cut down to 64 bits. -/
  truncate : α → Nat

instance : Arithmetic Float where
  zero := 0
  one := 1
  ofNat := Nat.toFloat
  add := (· + ·)
  sub := (· - ·)
  mul := (· * ·)
  le a b := a ≤ b
  isFinite := Float.isFinite
  truncate x := x.toUInt64.toNat

namespace Arithmetic

variable {α : Type} [Arithmetic α]

/-- The smaller of two numbers. -/
def smaller (a b : α) : α := if le a b then a else b

/-- A number cut off at both ends. -/
def clamp (low high a : α) : α := if le a low then low else if le high a then high else a

/-- A number of milliseconds spread by a random part of it. The draw lies between minus one and
one and is scaled by `factor`, itself cut off at zero and one. -/
def spread (millis factor draw : α) : α :=
  if !isFinite factor || !isFinite millis then millis
  else
    let factor := clamp zero one factor
    if le factor zero || le millis zero then millis
    else add millis (mul (mul millis factor) draw)

end Arithmetic

/-- How long a row waits after a failed attempt. -/
structure RetryPolicy (α : Type) where
  strategy : Strategy
  base : Duration
  /-- The longest delay, the random part included. -/
  longest : Duration
  /-- The part of a delay that it is spread by, up or down. -/
  jitter : α

namespace RetryPolicy

open Arithmetic

/-- One second, doubled up to five minutes, a tenth up or down. -/
def standard : RetryPolicy Float :=
  ⟨.exponential, .ofSeconds 1, .ofSeconds 300, 0.1⟩

/-- The same delay every time. -/
def fixed (delay : Duration) : RetryPolicy Float := ⟨.fixed, delay, delay, 0⟩

/-- Doubling delays, spread as usual. -/
def exponential (base longest : Duration) : RetryPolicy Float :=
  { standard with strategy := .exponential, base, longest }

/-- The same policy without a random part. -/
def withoutJitter (p : RetryPolicy Float) : RetryPolicy Float := { p with jitter := 0 }

variable {α : Type} [Arithmetic α]

/-- The delay after an attempt before it is cut off and spread, in milliseconds. -/
def growth (p : RetryPolicy α) (attempt : UInt32) : α :=
  let base : α := ofNat p.base.toMillis
  match p.strategy with
  | .fixed => base
  | .linear => mul base (ofNat attempt.toNat)
  | .exponential => mul base (ofNat (1 <<< min (attempt.toNat - 1) 62))

/-- The delay after an attempt without the random part, in milliseconds. -/
def steady (p : RetryPolicy α) (attempt : UInt32) : α :=
  smaller (p.growth attempt) (ofNat p.longest.toMillis)

/-- The delay after the given attempt, counted from one. -/
def delay (p : RetryPolicy α) (attempt : UInt32) (draw : α) : Duration :=
  if attempt = 0 then .zero
  else
    let spreadOut := spread (p.steady attempt) p.jitter draw
    .ofMillis (truncate (clamp zero (ofNat p.longest.toMillis) spreadOut))

/-- The fields of a policy. -/
def fields : List Json.Field :=
  [⟨"strategy", .choice Strategy.names⟩, ⟨"base_delay", .duration⟩, ⟨"max_delay", .duration⟩,
    ⟨"jitter", .number⟩]

/-- The record of a policy. -/
def toRecord (p : RetryPolicy Float) : Json.Record fields :=
  (p.strategy.toFin, p.base, p.longest, p.jitter, ())

/-- The policy of a record. -/
def ofRecord : Json.Record fields → RetryPolicy Float
  | (strategy, base, longest, jitter, ()) => ⟨.ofFin strategy, base, longest, jitter⟩

/-- A policy as JSON. -/
def render (p : RetryPolicy Float) : String := Json.render fields p.toRecord

/-- Reads a policy from JSON. -/
def parse (text : String) : Except Json.Fault (RetryPolicy Float) :=
  (Json.parseRecord "BackoffPolicy" fields text).map ofRecord

end RetryPolicy

/-- A duration spread by a random part of it, in whole milliseconds. -/
def Duration.spread {α : Type} [Arithmetic α] (d : Duration) (factor draw : α) : Duration :=
  let millis := Arithmetic.spread (Arithmetic.ofNat d.toMillis) factor draw
  .ofMillis (Arithmetic.truncate
    (if Arithmetic.le millis Arithmetic.zero then Arithmetic.zero else millis))

end Relay
