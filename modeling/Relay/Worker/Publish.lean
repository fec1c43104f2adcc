import Relay.Broker
import Relay.Journal.Entry
import Relay.Row.Basic

/-!
# Publishing a row

The message of a row, and the span in which it is published. A `Sink` says how traces reach the
broker: not at all, in a new trace for every publish that is linked to the producer's, or always in
one given context. A `PublishSpan` is the span that is shown in the journal, if any, and the context
that goes into the headers, if any.
-/

namespace Relay

open Journal

/-- How traces are passed on. -/
inductive Sink where
  /-- No trace is passed on. -/
  | off
  /-- Every publish starts a trace, which is shown in the journal. -/
  | tracing
  /-- Every publish belongs to the same span, which is not shown. -/
  | fixed (context : TraceContext)

/-- The span of one publish. -/
structure PublishSpan where
  /-- What the journal shows. -/
  shown : Option Span
  /-- What is added to the span once it is open. -/
  links : Fields
  /-- What the broker is told. -/
  context : Option TraceContext

/-- The names of headers. -/
def traceparentHeader : String := "traceparent"
def tracestateHeader : String := "tracestate"
def messageIdHeader : String := "message-id"
def eventNameHeader : String := "event-name"
def eventVersionHeader : String := "event-version"
def correlationHeader : String := "correlation-id"

/-- The part of the program that opens publish spans. -/
def sinkTarget : String := "brushwork_outbox::trace_sink"

/-- The names of the fields for the producer's span. -/
def linkTraceKey : String := "link.trace_id"
def linkSpanKey : String := "link.span_id"

/-- The context captured when a row is made. -/
def Sink.capture (s : Sink) (ambient : Ambient) : Option TraceContext :=
  match s with
  | .off => none
  | .tracing => ambient.current
  | .fixed c => some c

/-- The span for publishing a row. -/
def Sink.start (s : Sink) (row : Row) (ids : TraceContext.Draw) : PublishSpan :=
  match s with
  | .off => ⟨none, [], none⟩
  | .fixed c => ⟨none, [], some c⟩
  | .tracing =>
    let context := TraceContext.root ids
    let span : Span :=
      { name := "outbox.publish"
        target := sinkTarget
        fields :=
          [("message_id", .text row.id.text), ("event", .text row.name),
            ("version", .number row.version.toNat), ("trace_id", .text context.traceIdText),
            ("span_id", .text context.spanIdText)]
        later := [linkTraceKey, linkSpanKey] }
    let links := match row.traceContext with
      | none => []
      | some link =>
        [(linkTraceKey, Value.quoted link.traceIdText), (linkSpanKey, .quoted link.spanIdText)]
    ⟨some span, links, some context⟩

/-- Writes the context into headers. -/
def PublishSpan.inject (p : PublishSpan) (hs : Headers) : Headers :=
  match p.context with
  | none => hs
  | some c =>
    let hs := hs.insert traceparentHeader c.header
    match c.state with
    | none => hs
    | some state => hs.insert tracestateHeader state

/-- What is noted when the span begins. -/
def PublishSpan.begin (p : PublishSpan) : List Note :=
  match p.shown with
  | none => []
  | some span =>
    .opened span :: p.links.map fun f => .extended [f]

/-- What is noted when the span ends. -/
def PublishSpan.finish (p : PublishSpan) : List Note :=
  if p.shown.isSome then [.closed] else []

/-- The headers of a row's message. -/
def Row.headers (row : Row) (p : PublishSpan) : Headers :=
  let hs := p.inject []
  let hs := hs.insert messageIdHeader row.id.text
  let hs := hs.insert eventNameHeader row.name
  let hs := hs.insert eventVersionHeader (toString row.version.toNat)
  match row.correlation with
  | none => hs
  | some id => hs.insert correlationHeader id

/-- The message of a row. -/
def Row.message (row : Row) (p : PublishSpan) : Message :=
  ⟨topic row.name row.version, row.payload, row.headers p⟩

end Relay
