import Relay.Uuid

/-!
# Fresh identifiers

A `UuidSource` gives out identifiers of version seven: the milliseconds since 1970, a count that
grows within a millisecond, and random bits. Each identifier it gives is greater than the one
before.
-/

namespace Relay

/-- Where fresh identifiers come from. -/
structure UuidSource where
  /-- The milliseconds of the last identifier. -/
  millis : Nat := 0
  /-- The identifiers given since the last change of the milliseconds. -/
  count : Nat := 0

namespace UuidSource

/-- The identifier of version seven with the given parts: 48, 12, 30 and 32 bits are kept. -/
def assemble (millis high low random : Nat) : Uuid :=
  .ofNat (millis % 1 <<< 48 * 1 <<< 80 + 7 * 1 <<< 76 + high % 1 <<< 12 * 1 <<< 64 + 2 * 1 <<< 62
    + low % 1 <<< 30 * 1 <<< 32 + random % 1 <<< 32)

/-- The next identifier at a time, with random bits. -/
def next (s : UuidSource) (millis random : Nat) : Uuid × UuidSource :=
  let s := if s.millis < millis then ⟨millis, 0⟩ else ⟨s.millis, s.count + 1⟩
  (assemble s.millis (s.count / 1 <<< 30) s.count random, s)

end UuidSource

/-- The version of an identifier. -/
def Uuid.version (u : Uuid) : Nat := u.toNat / 1 <<< 76 % 16

end Relay
