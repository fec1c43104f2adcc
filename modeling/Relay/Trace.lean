import Relay.Text.Blank
import Relay.Text.Hex
import Relay.Text.Quoted

/-!
# Trace contexts

A `TraceContext` names a span of a trace: two ids that are not zero, a byte of flags, and an
optional text of vendor state that is not empty. It travels as the text `version-trace-span-flags`
beside its state; `TraceContext.parse` reads that text, where versions other than `00` may have
further fields, and `TraceContext.header` writes version `00`. `ofStored` rebuilds a context from
the texts that a row keeps of it.
-/

namespace Relay

/-- A span of a trace. -/
structure TraceContext where
  traceId : Nat
  spanId : Nat
  flags : UInt8
  /-- Vendor state, passed on unread. -/
  state : Option String
  traceId_pos : 0 < traceId
  traceId_lt : traceId < 0x1_0000_0000_0000_0000_0000_0000_0000_0000
  spanId_pos : 0 < spanId
  spanId_lt : spanId < 0x1_0000_0000_0000_0000
  state_ne : state ≠ some ""
  deriving DecidableEq, Repr

/-- Why a text names no span. -/
inductive TraceFault where
  | fieldCount
  | badVersion
  | unsupportedVersion
  | badTraceId
  | badSpanId
  | badFlags
  | zeroId
  deriving DecidableEq, Repr

/-- The reason given for a fault. -/
def TraceFault.reason : TraceFault → String
  | .fieldCount => "expected four fields"
  | .badVersion => "bad version"
  | .unsupportedVersion => "unsupported version"
  | .badTraceId => "bad trace-id"
  | .badSpanId => "bad parent-id"
  | .badFlags => "bad trace-flags"
  | .zeroId => "all-zero id"

/-- The message for a text with a fault. -/
def TraceFault.message (fault : TraceFault) (text : String) : String :=
  "invalid traceparent " ++ Text.quote (Text.trimmed text) ++ ": " ++ fault.reason

namespace TraceContext

open Relay.Text

/-- The flag of a trace that is recorded. -/
def sampledFlag : UInt8 := 1

/-- The state, unless it is empty. -/
def keepState (state : Option String) : Option String := state.filter (· ≠ "")

theorem keepState_ne (state : Option String) : keepState state ≠ some "" := by
  cases state with
  | none => simp [keepState]
  | some s => by_cases h : s = "" <;> simp [keepState, Option.filter, h]

theorem keepState_of_ne {state : Option String} (h : state ≠ some "") :
    keepState state = state := by
  cases state with
  | none => rfl
  | some s => simp_all [keepState, Option.filter]

/-- The context of the given parts; neither id may be zero. -/
def ofParts (traceId : Fin 0x1_0000_0000_0000_0000_0000_0000_0000_0000)
    (spanId : Fin 0x1_0000_0000_0000_0000) (flags : UInt8) (state : Option String) :
    Option TraceContext :=
  if h : 0 < traceId.val ∧ 0 < spanId.val then
    some ⟨traceId, spanId, flags, keepState state, h.1, traceId.isLt, h.2, spanId.isLt,
      keepState_ne state⟩
  else none

/-- Ids drawn for a new span and a new trace; a zero is drawn again. -/
structure Draw where
  traceId : Nat
  spanId : Nat
  traceId_pos : 0 < traceId
  traceId_lt : traceId < 0x1_0000_0000_0000_0000_0000_0000_0000_0000
  spanId_pos : 0 < spanId
  spanId_lt : spanId < 0x1_0000_0000_0000_0000

/-- The first span of a new trace, which is recorded. -/
def root (ids : Draw) : TraceContext :=
  ⟨ids.traceId, ids.spanId, sampledFlag, none, ids.traceId_pos, ids.traceId_lt, ids.spanId_pos,
    ids.spanId_lt, by simp⟩

/-- A new span of the same trace. -/
def child (c : TraceContext) (ids : Draw) : TraceContext :=
  { c with spanId := ids.spanId, spanId_pos := ids.spanId_pos, spanId_lt := ids.spanId_lt }

/-- Whether the trace is recorded. -/
def isSampled (c : TraceContext) : Bool := c.flags &&& sampledFlag ≠ 0

/-- The trace id in hexadecimal. -/
def traceIdText (c : TraceContext) : String := String.ofList (hex 32 c.traceId)

/-- The span id in hexadecimal. -/
def spanIdText (c : TraceContext) : String := String.ofList (hex 16 c.spanId)

/-- The characters of the header. -/
def headerChars (c : TraceContext) : List Char :=
  "00-".toList ++ hex 32 c.traceId ++ '-' :: hex 16 c.spanId ++ '-' :: hex 2 c.flags.toNat

/-- The header that names the span, in version `00`. -/
def header (c : TraceContext) : String := String.ofList c.headerChars

/-- A text of exactly `width` hexadecimal digits in lower case. -/
def readLowerHex (width : Nat) (s : List Char) : Option (Fin (Nat.pow 16 width)) :=
  if s.length = width ∧ s.all isLowerHexDigit then
    let n := hexOnto 0 s
    if h : n < Nat.pow 16 width then some ⟨n, h⟩ else none
  else none

/-- The parts of a text between hyphens. -/
def splitHyphens : List Char → List (List Char)
  | [] => [[]]
  | c :: rest =>
    if c = '-' then [] :: splitHyphens rest
    else
      match splitHyphens rest with
      | [] => [[c]]
      | part :: parts => (c :: part) :: parts

/-- Reads a header; blanks around it do not count. -/
def parse (text : String) (state : Option String) : Except TraceFault TraceContext :=
  match splitHyphens (trim text.toList) with
  | version :: trace :: span :: flags :: more =>
    match readLowerHex 2 version with
    | none => .error .badVersion
    | some version =>
      if version.val = 0xff ∨ (version.val = 0 ∧ more ≠ []) then .error .unsupportedVersion
      else
        match readLowerHex 32 trace with
        | none => .error .badTraceId
        | some trace =>
          match readLowerHex 16 span with
          | none => .error .badSpanId
          | some span =>
            match readLowerHex 2 flags with
            | none => .error .badFlags
            | some flags =>
              match ofParts trace span (UInt8.ofNat flags.val) state with
              | none => .error .zeroId
              | some c => .ok c
  | _ => .error .fieldCount

/-- Rebuilds a context from the texts kept of it. -/
def ofStored (traceId spanId : String) (flags : UInt8) (state : Option String) :
    Option TraceContext := do
  let traceId ← readLowerHex 32 traceId.toList
  let spanId ← readLowerHex 16 spanId.toList
  ofParts traceId spanId flags state

end TraceContext

/-- The contexts that are ambient one inside the other, the innermost first. -/
abbrev Ambient := List TraceContext

/-- The ambient context, if there is one. -/
def Ambient.current (a : Ambient) : Option TraceContext := a.head?

/-- What is seen of the ambient context outside, on the way into nested scopes and on the way out
again. -/
def Ambient.visit (a : Ambient) : List TraceContext → List (Option TraceContext)
  | [] => [a.current]
  | c :: inner => a.current :: Ambient.visit (c :: a) inner ++ [a.current]

end Relay
