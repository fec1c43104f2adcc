import Relay.Envelope
import Relay.Proofs.Text.Hex

/-!
# Trace contexts and their texts

`TraceContext.parse` accepts the texts of a grammar and no others: four fields of hexadecimal digits
between hyphens, and after them, in any version but `00`, whatever follows a fourth hyphen
(`HeaderFields.IsValid`). The parts of such a text are its fields
(`HeaderFields.splitHyphens_text`), and the parts of a text that is read are the digits of what is
read (`TraceContext.parts_of_parse`). So a context is read back from its header and from the texts
that a row keeps of it (`TraceContext.encodings_agree`).
-/

namespace Relay

namespace TraceContext

open Text

/-! ## Digits -/

/-- The number that is read from a text is the one whose digits it holds. -/
theorem readLowerHex_eq_some {width : Nat} {s : List Char} {n : Fin (Nat.pow 16 width)} :
    readLowerHex width s = some n ↔ s = hex width n := by
  constructor
  · intro h
    simp only [readLowerHex] at h
    split at h
    next digits =>
      split at h
      next small =>
        cases h
        have chars := hex_hexOnto 0 (List.all_eq_true.1 digits.2)
        rwa [digits.1, eq_comm] at chars
      next => cases h
    next => cases h
  · rintro rfl
    have digits : (hex width n).length = width ∧ (hex width n).all isLowerHexDigit = true :=
      ⟨length_hex _ _, List.all_eq_true.2 fun _ => isLowerHexDigit_of_mem_hex⟩
    have value := hexOnto_hex n.isLt
    rw [readLowerHex, if_pos digits]
    simp only [value, n.isLt, dif_pos]

/-! ## Hyphens -/

/-- A text without hyphens has one part. -/
theorem splitHyphens_of_notMem {p : List Char} (free : '-' ∉ p) : splitHyphens p = [p] := by
  induction p with
  | nil => rfl
  | cons c p ih =>
    rw [List.mem_cons, not_or] at free
    rw [splitHyphens, if_neg (Ne.symm free.1), ih free.2]

/-- The first part of a text ends at its first hyphen. -/
theorem splitHyphens_append {p : List Char} (free : '-' ∉ p) (t : List Char) :
    splitHyphens (p ++ '-' :: t) = p :: splitHyphens t := by
  induction p with
  | nil => rw [List.nil_append, splitHyphens, if_pos rfl]
  | cons c p ih =>
    rw [List.mem_cons, not_or] at free
    rw [List.cons_append, splitHyphens, if_neg (Ne.symm free.1), ih free.2]

theorem splitHyphens_ne_nil (s : List Char) : splitHyphens s ≠ [] := by
  by_cases mem : '-' ∈ s
  · obtain ⟨p, t, rfl, free⟩ := List.eq_append_cons_of_mem mem
    simp [splitHyphens_append free]
  · simp [splitHyphens_of_notMem mem]

theorem of_splitHyphens {s p : List Char} {ps : List (List Char)}
    (h : splitHyphens s = p :: ps) :
    s = p ∧ ps = [] ∨ ∃ t, s = p ++ '-' :: t ∧ splitHyphens t = ps := by
  by_cases mem : '-' ∈ s
  · obtain ⟨q, t, rfl, free⟩ := List.eq_append_cons_of_mem mem
    rw [splitHyphens_append free] at h
    cases h
    exact Or.inr ⟨t, rfl, rfl⟩
  · rw [splitHyphens_of_notMem mem] at h
    cases h
    exact Or.inl ⟨rfl, rfl⟩

/-- A further part of a text stands behind a hyphen. -/
theorem of_splitHyphens_cons {s p : List Char} {ps : List (List Char)}
    (h : splitHyphens s = p :: ps) (more : ps ≠ []) :
    ∃ t, s = p ++ '-' :: t ∧ splitHyphens t = ps :=
  (of_splitHyphens h).resolve_left fun only => more only.2

end TraceContext

/-! ## Headers -/

/-- The fields of a header. -/
structure HeaderFields where
  version : List Char
  trace : List Char
  span : List Char
  flags : List Char
  /-- What follows a fourth hyphen, if there is one. -/
  rest : Option (List Char)

namespace HeaderFields

open Text TraceContext

/-- The text after the flags. -/
def ending (f : HeaderFields) : List Char := f.rest.elim [] ('-' :: ·)

/-- The fields with hyphens between them. -/
def text (f : HeaderFields) : List Char :=
  f.version ++ '-' :: (f.trace ++ '-' :: (f.span ++ '-' :: (f.flags ++ f.ending)))

/-- Four fields of digits, neither id all zeros, and nothing after them in version `00`. There is
no version `ff`. -/
structure IsValid (f : HeaderFields) : Prop where
  version : IsLowerHex 2 f.version
  known : f.version ≠ ['f', 'f']
  trace : IsLowerHex 32 f.trace
  traced : ∃ d ∈ f.trace, d ≠ '0'
  span : IsLowerHex 16 f.span
  spanned : ∃ d ∈ f.span, d ≠ '0'
  flags : IsLowerHex 2 f.flags
  ends : f.version = ['0', '0'] → f.rest = none

/-- A context of the ids and the flags of a header. -/
structure Names (f : HeaderFields) (c : TraceContext) : Prop where
  trace : hex 32 c.traceId = f.trace
  span : hex 16 c.spanId = f.span
  flags : hex 2 c.flags.toNat = f.flags

/-- The fields that name a context are valid, if its version is one and allows what follows. -/
theorem Names.isValid {f : HeaderFields} {c : TraceContext} (h : f.Names c)
    (version : IsLowerHex 2 f.version) (known : f.version ≠ ['f', 'f'])
    (ends : f.version = ['0', '0'] → f.rest = none) : f.IsValid where
  version := version
  known := known
  trace := h.trace ▸ isLowerHex_hex 32 _
  traced := h.trace ▸ (exists_digit_ne_iff c.traceId_lt).2 c.traceId_pos
  span := h.span ▸ isLowerHex_hex 16 _
  spanned := h.span ▸ (exists_digit_ne_iff c.spanId_lt).2 c.spanId_pos
  flags := h.flags ▸ isLowerHex_hex 2 _
  ends := ends

/-- The parts of the text behind the flags. -/
def further (f : HeaderFields) : List (List Char) := f.rest.elim [] splitHyphens

variable {f : HeaderFields}

theorem further_eq_nil : f.further = [] ↔ f.rest = none := by
  rw [further]
  cases f.rest with
  | none => simp
  | some t => simp [splitHyphens_ne_nil]

theorem splitHyphens_flags (free : '-' ∉ f.flags) :
    splitHyphens (f.flags ++ f.ending) = f.flags :: f.further := by
  rw [ending, further]
  cases f.rest with
  | none => rw [Option.elim_none, List.append_nil, splitHyphens_of_notMem free, Option.elim_none]
  | some t => rw [Option.elim_some, splitHyphens_append free, Option.elim_some]

theorem splitHyphens_text (h : f.IsValid) :
    splitHyphens f.text = f.version :: f.trace :: f.span :: f.flags :: f.further := by
  have free {width : Nat} {s : List Char} (digits : IsLowerHex width s) : '-' ∉ s := fun mem =>
    absurd (digits.2 _ mem) (by decide)
  rw [text, splitHyphens_append (free h.version), splitHyphens_append (free h.trace),
    splitHyphens_append (free h.span), splitHyphens_flags (free h.flags)]

/-- The parts of a text make up its fields. -/
theorem exists_text_eq {s version trace span flags : List Char} {more : List (List Char)}
    (h : splitHyphens s = version :: trace :: span :: flags :: more) :
    ∃ rest, s = text ⟨version, trace, span, flags, rest⟩ ∧ (more = [] → rest = none) := by
  obtain ⟨s₁, rfl, h₁⟩ := of_splitHyphens_cons h (by simp)
  obtain ⟨s₂, rfl, h₂⟩ := of_splitHyphens_cons h₁ (by simp)
  obtain ⟨s₃, rfl, h₃⟩ := of_splitHyphens_cons h₂ (by simp)
  rcases of_splitHyphens h₃ with ⟨rfl, rfl⟩ | ⟨t, rfl, parts⟩
  · exact ⟨none, by simp [text, ending], fun _ => rfl⟩
  · refine ⟨some t, by simp [text, ending], fun none => ?_⟩
    exact absurd (parts.trans none) (splitHyphens_ne_nil t)

end HeaderFields

/-! ## Contexts -/

namespace TraceContext

open Text

variable {text : String} {state : Option String} {c : TraceContext}

theorem ext_parts {c d : TraceContext} (trace : c.traceId = d.traceId) (span : c.spanId = d.spanId)
    (flags : c.flags = d.flags) (state : c.state = d.state) : c = d := by
  cases c
  cases d
  simp_all

theorem keepState_eq (state : Option String) :
    keepState state = if state = some "" then none else state := by
  split
  next empty => rw [empty]; rfl
  next full => exact keepState_of_ne full

theorem toNat_ofNat_byte (n : Fin (Nat.pow 16 2)) : (UInt8.ofNat n.val).toNat = n.val := by
  rw [UInt8.toNat_ofNat', Nat.mod_eq_of_lt n.isLt]

/-- A context is made of its parts. -/
theorem ofParts_eq_some {trace : Fin 0x1_0000_0000_0000_0000_0000_0000_0000_0000}
    {span : Fin 0x1_0000_0000_0000_0000} {flags : UInt8} :
    ofParts trace span flags state = some c ↔
      c.traceId = trace ∧ c.spanId = span ∧ c.flags = flags ∧ c.state = keepState state := by
  constructor
  · intro h
    unfold ofParts at h
    split at h
    · cases h
      exact ⟨rfl, rfl, rfl, rfl⟩
    · cases h
  · rintro ⟨traceId, spanId, rfl, kept⟩
    have pos : 0 < trace.val ∧ 0 < span.val := ⟨traceId ▸ c.traceId_pos, spanId ▸ c.spanId_pos⟩
    rw [ofParts, dif_pos pos]
    exact congrArg some (ext_parts traceId.symm spanId.symm rfl kept.symm)

theorem readLowerHex_traceId (c : TraceContext) :
    readLowerHex 32 (hex 32 c.traceId) = some ⟨c.traceId, c.traceId_lt⟩ :=
  readLowerHex_eq_some.2 rfl

theorem readLowerHex_spanId (c : TraceContext) :
    readLowerHex 16 (hex 16 c.spanId) = some ⟨c.spanId, c.spanId_lt⟩ :=
  readLowerHex_eq_some.2 rfl

theorem readLowerHex_flags (c : TraceContext) :
    readLowerHex 2 (hex 2 c.flags.toNat) = some ⟨c.flags.toNat, c.flags.toNat_lt⟩ :=
  readLowerHex_eq_some.2 rfl

/-- A context is made again from its parts. -/
theorem ofParts_parts (kept : c.state = keepState state) :
    ofParts ⟨c.traceId, c.traceId_lt⟩ ⟨c.spanId, c.spanId_lt⟩ c.flags state = some c :=
  ofParts_eq_some.2 ⟨rfl, rfl, rfl, kept⟩

/-- A header of a version that there is, with the digits of a context, is read as the context. -/
theorem parse_of_parts {version : Fin (Nat.pow 16 2)} {more : List (List Char)}
    (parts : splitHyphens (trim text.toList) =
      hex 2 version :: hex 32 c.traceId :: hex 16 c.spanId :: hex 2 c.flags.toNat :: more)
    (known : version.val ≠ 0xff) (ends : version.val = 0 → more = [])
    (kept : c.state = keepState state) : parse text state = .ok c := by
  have supported : ¬ (version.val = 0xff ∨ version.val = 0 ∧ more ≠ []) := by
    rintro (last | ⟨first, some⟩)
    · exact known last
    · exact some (ends first)
  simp only [parse, parts, readLowerHex_eq_some.2 rfl, supported, if_false, readLowerHex_traceId,
    readLowerHex_spanId, readLowerHex_flags, UInt8.ofNat_toNat, ofParts_parts kept]

/-- The parts that a context was read from. -/
theorem parts_of_parse (h : parse text state = .ok c) :
    ∃ (version : Fin (Nat.pow 16 2)) (more : List (List Char)),
      splitHyphens (trim text.toList) =
        hex 2 version :: hex 32 c.traceId :: hex 16 c.spanId :: hex 2 c.flags.toNat :: more ∧
      version.val ≠ 0xff ∧ (version.val = 0 → more = []) ∧ c.state = keepState state := by
  unfold parse at h
  split at h
  next versionText traceText spanText flagsText more parts =>
    -- no fault was found in any of the fields
    rcases readVersion : readLowerHex 2 versionText with _ | version <;>
      simp only [readVersion, reduceCtorEq] at h
    split at h
    · cases h
    next supported =>
    rcases readTrace : readLowerHex 32 traceText with _ | trace <;>
      simp only [readTrace, reduceCtorEq] at h
    rcases readSpan : readLowerHex 16 spanText with _ | span <;>
      simp only [readSpan, reduceCtorEq] at h
    rcases readFlags : readLowerHex 2 flagsText with _ | flags <;>
      simp only [readFlags, reduceCtorEq] at h
    rcases made : ofParts trace span (UInt8.ofNat flags.val) state with _ | d <;>
      simp only [made, reduceCtorEq, Except.ok.injEq] at h
    subst h
    -- so that the fields are the digits of the context
    obtain ⟨traceId, spanId, flagByte, kept⟩ := ofParts_eq_some.1 made
    have byte : d.flags.toNat = flags.val := by rw [flagByte, toNat_ofNat_byte]
    rw [not_or, not_and, not_not] at supported
    refine ⟨version, more, ?_, supported.1, supported.2, kept⟩
    rw [parts, traceId, spanId, byte, ← readLowerHex_eq_some.1 readVersion,
      ← readLowerHex_eq_some.1 readTrace, ← readLowerHex_eq_some.1 readSpan,
      ← readLowerHex_eq_some.1 readFlags]
  next => cases h

/-- A text of the grammar is read, and what is read has its ids and flags. -/
theorem parse_of_isValid {f : HeaderFields} (valid : f.IsValid)
    (whole : trim text.toList = f.text) (state : Option String) :
    ∃ c, parse text state = .ok c ∧ f.Names c ∧ c.state = keepState state := by
  obtain ⟨version, hversion⟩ := valid.version.exists_hex
  obtain ⟨trace, htrace⟩ := valid.trace.exists_hex
  obtain ⟨span, hspan⟩ := valid.span.exists_hex
  obtain ⟨flags, hflags⟩ := valid.flags.exists_hex
  have traced : 0 < trace.val := (exists_digit_ne_iff trace.isLt).1 (htrace ▸ valid.traced)
  have spanned : 0 < span.val := (exists_digit_ne_iff span.isLt).1 (hspan ▸ valid.spanned)
  have known : version.val ≠ 0xff := fun last => valid.known (by rw [hversion, last]; rfl)
  have ends (first : version.val = 0) : f.further = [] :=
    HeaderFields.further_eq_nil.2 (valid.ends (by rw [hversion, first]; rfl))
  let c : TraceContext := ⟨trace, span, UInt8.ofNat flags.val, keepState state, traced, trace.isLt,
    spanned, span.isLt, keepState_ne state⟩
  have names : f.Names c := ⟨htrace.symm, hspan.symm, by rw [hflags, ← toNat_ofNat_byte]⟩
  refine ⟨c, parse_of_parts ?_ known ends rfl, names, rfl⟩
  rw [whole, HeaderFields.splitHyphens_text valid, hversion, names.trace, names.span, names.flags]

/-- The fields of a header that names a context. -/
def fields (c : TraceContext) (version : List Char) (rest : Option (List Char)) : HeaderFields :=
  ⟨version, hex 32 c.traceId, hex 16 c.spanId, hex 2 c.flags.toNat, rest⟩

theorem names_fields (c : TraceContext) (version : List Char) (rest : Option (List Char)) :
    (c.fields version rest).Names c := ⟨rfl, rfl, rfl⟩

/-- Every text that is read is one of the grammar. -/
theorem isValid_of_parse (h : parse text state = .ok c) :
    ∃ f : HeaderFields, f.IsValid ∧ trim text.toList = f.text := by
  obtain ⟨version, more, parts, known, ends, -⟩ := parts_of_parse h
  obtain ⟨rest, whole, alone⟩ := HeaderFields.exists_text_eq parts
  refine ⟨c.fields (hex 2 version) rest, (c.names_fields _ _).isValid (isLowerHex_hex 2 version)
    (fun last => ?_) (fun first => ?_), whole⟩
  · exact known ((hex_inj version.isLt (by decide)).1 last)
  · exact alone (ends ((hex_inj version.isLt (by decide)).1 first))

/-- The fields of the header of a context. -/
def headerFields (c : TraceContext) : HeaderFields := c.fields ['0', '0'] none

theorem text_headerFields (c : TraceContext) : c.headerFields.text = c.headerChars := by
  simp [HeaderFields.text, HeaderFields.ending, headerFields, fields, headerChars]

theorem isValid_headerFields (c : TraceContext) : c.headerFields.IsValid :=
  (c.names_fields _ _).isValid (isLowerHex_hex 2 0) (by simp [fields]) fun _ => rfl

theorem names_inj {f : HeaderFields} {d : TraceContext} (hc : f.Names c) (hd : f.Names d)
    (state : c.state = d.state) : c = d := by
  refine ext_parts ?_ ?_ ?_ state
  · exact (hex_inj c.traceId_lt d.traceId_lt).1 (hc.trace.trans hd.trace.symm)
  · exact (hex_inj c.spanId_lt d.spanId_lt).1 (hc.span.trans hd.span.symm)
  · exact UInt8.toNat_inj.1
      ((hex_inj c.flags.toNat_lt d.flags.toNat_lt).1 (hc.flags.trans hd.flags.symm))

theorem isBlank_headerChars (c : TraceContext) : ∀ x ∈ c.headerChars, isBlank x = false := by
  have digits {width n : Nat} : ∀ x ∈ hex width n, isBlank x = false := fun x mem =>
    isBlank_of_isLowerHexDigit (isLowerHexDigit_of_mem_hex mem)
  have version : ∀ x ∈ "00-".toList, isBlank x = false := by simp [isBlank]
  intro x mem
  simp only [headerChars, List.mem_append, List.mem_cons] at mem
  rcases mem with ((first | trace) | rfl | span) | rfl | flags
  · exact version x first
  · exact digits x trace
  · decide
  · exact digits x span
  · decide
  · exact digits x flags

theorem trim_header (c : TraceContext) : trim c.header.toList = c.headerFields.text := by
  rw [header, String.toList_ofList, trim_of_not_blank c.isBlank_headerChars, text_headerFields]

/-- A context is read back from its header. -/
theorem parse_header (c : TraceContext) : parse c.header c.state = .ok c := by
  obtain ⟨d, read, names, kept⟩ :=
    parse_of_isValid c.isValid_headerFields c.trim_header c.state
  rw [keepState_of_ne c.state_ne] at kept
  rw [read, names_inj names (c.names_fields _ _) kept]

/-- A context is read back from the texts of its ids. -/
theorem ofStored_texts (c : TraceContext) :
    ofStored c.traceIdText c.spanIdText c.flags c.state = some c := by
  simp only [ofStored, traceIdText, spanIdText, String.toList_ofList, readLowerHex_traceId,
    readLowerHex_spanId, Option.bind_eq_bind, Option.bind_some]
  exact ofParts_parts (keepState_of_ne c.state_ne).symm

/-- The row of an envelope keeps the context that it was sent with. -/
theorem traceContext_ofEnvelope {s : Schema} (e : Envelope s) (id : Uuid) (payload : String)
    (now : Instant) (c : TraceContext) :
    (Row.ofEnvelope e id payload now (some c)).traceContext = some c := by
  simp only [Row.traceContext, Row.ofEnvelope, Option.map_some, Option.bind_eq_bind,
    Option.bind_some, Option.getD_some]
  exact c.ofStored_texts

/-- A header of version `00` is written as it was read. -/
theorem header_of_parse (h : parse text state = .ok c)
    (first : (trim text.toList).take 2 = ['0', '0']) : c.header = trimmed text := by
  obtain ⟨f, valid, whole⟩ := isValid_of_parse h
  obtain ⟨d, read, names, -⟩ := parse_of_isValid valid whole state
  obtain rfl : c = d := Except.ok.inj (h.symm.trans read)
  have version : f.version = ['0', '0'] := by
    rw [whole, HeaderFields.text, ← valid.version.1, List.take_left] at first
    exact first
  rw [trimmed, whole, HeaderFields.text, HeaderFields.ending, valid.ends version, version,
    ← names.trace, ← names.span, ← names.flags, header, headerChars]
  simp

/-- **Trace contexts are read from the texts of a grammar, and from every text that is written of
them.** A text is accepted just if, trimmed, it is four fields of hexadecimal digits with hyphens
between them, or more of them in a version other than `00`, and what is read carries the digits of
the fields and the state, of which an empty one is none. Every context, which is made again from its
parts, is read back from its header and its state, from the texts of its ids, and from the row of an
envelope that was sent with it. An accepted text of version `00` is the header of what is read. -/
theorem encodings_agree :
    (∀ text state, (∃ c, parse text state = .ok c) ↔
      ∃ f : HeaderFields, f.IsValid ∧ trim text.toList = f.text) ∧
    (∀ text state c (f : HeaderFields), parse text state = .ok c → f.IsValid →
      trim text.toList = f.text →
        f.Names c ∧ c.state = if state = some "" then none else state) ∧
    (∀ c : TraceContext,
      ofParts ⟨c.traceId, c.traceId_lt⟩ ⟨c.spanId, c.spanId_lt⟩ c.flags c.state = some c ∧
      parse c.header c.state = .ok c ∧
      ofStored c.traceIdText c.spanIdText c.flags c.state = some c ∧
      ∀ {s : Schema} (e : Envelope s) id payload now,
        (Row.ofEnvelope e id payload now (some c)).traceContext = some c) ∧
    ∀ text state c, parse text state = .ok c → (trim text.toList).take 2 = ['0', '0'] →
      c.header = trimmed text := by
  refine ⟨fun text state => ⟨?_, ?_⟩, fun text state c f read valid whole => ?_, fun c => ?_,
    fun _ _ _ => header_of_parse⟩
  · rintro ⟨c, read⟩
    exact isValid_of_parse read
  · rintro ⟨f, valid, whole⟩
    obtain ⟨c, read, -⟩ := parse_of_isValid valid whole state
    exact ⟨c, read⟩
  · obtain ⟨d, again, names, kept⟩ := parse_of_isValid valid whole state
    obtain rfl : c = d := Except.ok.inj (read.symm.trans again)
    exact ⟨names, kept.trans (keepState_eq state)⟩
  · exact ⟨ofParts_parts (keepState_of_ne c.state_ne).symm, c.parse_header, c.ofStored_texts,
      fun e id payload now => traceContext_ofEnvelope e id payload now c⟩

/-- The fields of a header of a later version, with one more that begins with a hyphen. -/
def laterFields : HeaderFields where
  version := "cc".toList
  trace := "4bf92f3577b34da6a3ce929d0e0e4736".toList
  span := "00f067aa0ba902b7".toList
  flags := "01".toList
  rest := some "-more".toList

/-- A text of these fields. -/
def laterHeader : String := " cc-4bf92f3577b34da6a3ce929d0e0e4736-00f067aa0ba902b7-01--more\n"

theorem encodings_agree_later :
    laterFields.IsValid ∧ ∃ c, parse laterHeader (some "") = .ok c ∧ laterFields.Names c ∧
      c.state = none ∧ parse c.header c.state = .ok c ∧ c.header = trimmed c.header := by
  obtain ⟨grammar, carried, alike, first⟩ := encodings_agree
  have valid : laterFields.IsValid :=
    { version := ⟨by decide, List.all_eq_true.1 (by decide)⟩
      known := by decide
      trace := ⟨by decide, List.all_eq_true.1 (by decide)⟩
      traced := ⟨'4', by decide, by decide⟩
      span := ⟨by decide, List.all_eq_true.1 (by decide)⟩
      spanned := ⟨'f', by decide, by decide⟩
      flags := ⟨by decide, List.all_eq_true.1 (by decide)⟩
      ends := fun none => absurd none (by decide) }
  have whole : trim laterHeader.toList = laterFields.text := by decide
  obtain ⟨c, read⟩ := (grammar laterHeader (some "")).2 ⟨laterFields, valid, whole⟩
  obtain ⟨names, kept⟩ := carried _ _ _ _ read valid whole
  have again := (alike c).2.1
  have zeros : (trim c.header.toList).take 2 = ['0', '0'] := by rw [trim_header]; rfl
  exact ⟨valid, c, read, names, kept, again, first _ _ c again zeros⟩

end TraceContext

end Relay
