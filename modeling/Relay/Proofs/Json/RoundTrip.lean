import Mathlib.Data.List.Nodup
import Relay.Proofs.Except
import Relay.Proofs.Json.Text
import Relay.Proofs.Time.Text

/-!
# Records that come back

A value of a kind that is written as a string, or that may be absent and is written so otherwise,
reads back from its text whatever follows it (`read_write`), an instant as the one that its text
names. A record of such values, whose fields have different names, reads back from its text
(`parseRecord_render`): field by field, the values read so far are the first ones of the record
(`readSlots_items`).
-/

namespace Relay

open Json Text

/-! ## Identifiers -/

theorem Text.mem_hex {width n : Nat} {c : Char} (h : c ∈ hex width n) :
    c ∈ "0123456789abcdef".toList := by
  have digit : ∀ d < 16, d.digitChar ∈ "0123456789abcdef".toList := by decide
  induction width generalizing n with
  | zero => cases h
  | succ width ih =>
    rcases List.mem_append.1 h with h | h
    · exact ih h
    · rw [List.mem_singleton.1 h]
      exact digit _ (Nat.mod_lt _ (by decide))

namespace Uuid

/-- The characters that identifiers are written with. -/
theorem mem_chars {u : Uuid} {c : Char} (h : c ∈ u.chars) : c ∈ "-0123456789abcdef".toList := by
  have digit : ∀ {width n : Nat}, c ∈ hex width n → c ∈ "-0123456789abcdef".toList :=
    fun mem => List.mem_cons_of_mem _ (mem_hex mem)
  simp only [chars, List.mem_append, List.mem_cons] at h
  rcases h with (((h | rfl | h) | rfl | h) | rfl | h) | rfl | h
  · exact digit h
  · decide
  · exact digit h
  · decide
  · exact digit h
  · decide
  · exact digit h
  · decide
  · exact digit h

theorem length_chars (u : Uuid) : u.chars.length = 36 := by
  simp [chars]

/-- **An identifier reads back from its text.** -/
theorem read_chars (u : Uuid) : read u.chars = .ok u := by
  have length := length_chars u
  obtain ⟨c, cs, e⟩ : ∃ c cs, u.chars = c :: cs :=
    List.exists_cons_of_ne_nil fun nil => by rw [nil] at length; cases length
  -- the first character begins neither of the longer forms
  have plain : ("-0123456789abcdef".toList.all fun d => d ≠ '\x7b' ∧ d.toLower ≠ 'u') = true := by
    decide
  obtain ⟨brace, urn⟩ := of_decide_eq_true
    (List.all_eq_true.1 plain c (mem_chars (e ▸ List.mem_cons_self)))
  have bare : unwrap u.chars = none := by
    rw [e]
    simp [unwrap, brace, urn]
  have short : readDigits32 u.chars = none := by
    rw [readDigits32, length]
    rfl
  simp only [read, bare, short, Option.none_or, readGroups_chars]

end Uuid

namespace Json

/-! ## Values -/

/-- Kinds whose values are written as strings. -/
def Kind.isQuoted : Kind → Bool
  | .text => true
  | .uuid => true
  | .instant => true
  | .choice names => names.Nodup
  | _ => false

/-- Kinds whose values are written as strings or may be absent. -/
def Kind.readsBack : Kind → Bool
  | .optional kind => kind.isQuoted
  | kind => kind.isQuoted

/-- The value that is read from the text of a value. -/
def Kind.asWritten : (kind : Kind) → kind.Value → kind.Value
  | .instant, t => Instant.asWritten t
  | .optional kind, v => v.map kind.asWritten
  | _, v => v

/-- Kinds whose values hold no instant. -/
def Kind.isTimeless : Kind → Bool
  | .instant => false
  | .optional kind => kind.isTimeless
  | _ => true

theorem Kind.asWritten_of_isTimeless {kind : Kind} (h : kind.isTimeless = true) (v : kind.Value) :
    kind.asWritten v = v := by
  induction kind with
  | instant => cases h
  | optional kind ih =>
    cases v with
    | none => rfl
    | some v => exact congrArg some (ih h v)
  | text | uuid | boolean | natural | integer | number | duration | choice => rfl

theorem write_uuid (u : Uuid) : write .uuid u = writeString u.text := by
  have plain : ("-0123456789abcdef".toList.all fun c => escape c = [c]) = true := by decide
  refine (writeString_ofList fun c mem => ?_).symm
  exact of_decide_eq_true (List.all_eq_true.1 plain c (Uuid.mem_chars mem))

theorem escape_of_isDigit {c : Char} (h : c.isDigit = true) : escape c = [c] := by
  have low : 48 ≤ c.toNat := by
    simp only [Char.isDigit, Bool.and_eq_true, decide_eq_true_eq, ge_iff_le,
      UInt32.le_iff_toNat_le] at h
    exact h.1
  refine escape_of_le (by omega) ?_ ?_
  · rintro rfl
    cases h
  · rintro rfl
    cases h

theorem write_instant (t : Instant) : write .instant t = writeString t.text := by
  have plain : ("-+:.TZ".toList.all fun c => escape c = [c]) = true := by decide
  refine (writeString_ofList fun c mem => ?_).symm
  obtain digit | mark := Instant.mem_chars mem
  · exact escape_of_isDigit digit
  · exact of_decide_eq_true (List.all_eq_true.1 plain c mark)

/-- A name of a choice is found in its place. -/
theorem finIdxOf?_get {names : List String} (nodup : names.Nodup) (i : Fin names.length) :
    names.finIdxOf? (names.get i) = some i := by
  rw [List.finIdxOf?_eq_some_iff]
  refine ⟨rfl, fun j before same => ?_⟩
  exact absurd ((nodup.get_inj_iff).1 same) (Fin.ne_of_lt before)

/-- A value that is written as a string begins with a quote. -/
theorem write_eq_cons {kind : Kind} (h : kind.isQuoted = true) (v : kind.Value) :
    ∃ body, write kind v = '"' :: body := by
  cases kind with
  | text | uuid | instant | choice => exact ⟨_, rfl⟩
  | boolean | natural | integer | number | duration | optional => cases h

/-- A value that is written as a string reads back. -/
theorem read_write_quoted {kind : Kind} (h : kind.isQuoted = true) (v : kind.Value)
    (rest : List Char) : read kind (write kind v ++ rest) = .ok (kind.asWritten v, rest) := by
  cases kind with
  | text => exact readText_writeString _ _ _
  | uuid =>
    rw [write_uuid]
    refine readContent_writeString _ ?_ rest
    rw [Uuid.text, String.toList_ofList, Uuid.read_chars]
    rfl
  | instant =>
    rw [write_instant]
    refine readContent_writeString _ ?_ rest
    rw [Instant.text, String.toList_ofList, Instant.read_chars]
    rfl
  | choice names =>
    have nodup : names.Nodup := of_decide_eq_true h
    have named : readChoice names (writeString (names.get v) ++ rest) = .ok (v, rest) := by
      refine bind_ok (readText_writeString _ _ _) ?_
      simp only [finIdxOf?_get nodup]
    exact named
  | boolean | natural | integer | number | duration | optional => cases h

/-- **A value reads back from its text**, whatever follows it. -/
theorem read_write {kind : Kind} (h : kind.readsBack = true) (v : kind.Value) (rest : List Char) :
    read kind (write kind v ++ rest) = .ok (kind.asWritten v, rest) := by
  cases kind with
  | optional kind =>
    cases v with
    | none => rfl
    | some v =>
      have there := read_write_quoted h v rest
      obtain ⟨body, e⟩ := write_eq_cons h v
      rw [write, read]
      rw [e] at there ⊢
      exact map_ok _ there
  | text | uuid | instant | choice =>
    refine read_write_quoted ?_ v rest
    exact h
  | boolean | natural | integer | number | duration => cases h

/-! ## Records -/

/-- A field with a value of its kind. -/
abbrev Item := Σ f : Field, f.kind.Value

/-- The record that is read from the text of a record. -/
def Record.asWritten : (fields : List Field) → Record fields → Record fields
  | [], () => ()
  | f :: fs, (v, vs) => (f.kind.asWritten v, asWritten fs vs)

/-- The fields of a record with their values. -/
def Record.items : (fields : List Field) → Record fields → List Item
  | [], () => []
  | f :: fs, (v, vs) => ⟨f, v⟩ :: items fs vs

/-- The first values of a record, as if no others were read yet. -/
def Slots.first : (count : Nat) → (fields : List Field) → Record fields → Slots fields
  | _, [], () => ()
  | 0, fields, _ => Slots.empty fields
  | count + 1, _ :: fs, (v, vs) => (some v, first count fs vs)

variable {fields : List Field}

theorem Record.map_items (r : Record fields) : (Record.items fields r).map Sigma.fst = fields := by
  induction fields with
  | nil => rfl
  | cons f fs ih =>
    obtain ⟨v, vs⟩ := r
    exact congrArg (f :: ·) (ih vs)

theorem Record.length_items (r : Record fields) :
    (Record.items fields r).length = fields.length := by
  rw [← List.length_map (f := Sigma.fst), map_items]

theorem Slots.first_zero (r : Record fields) : Slots.first 0 fields r = Slots.empty fields := by
  cases fields <;> rfl

/-- A record is complete once all its values are read. -/
theorem complete_first (r : Record fields) :
    complete fields (Slots.first fields.length fields r) = .ok r := by
  induction fields with
  | nil => rfl
  | cons f fs ih =>
    obtain ⟨v, vs⟩ := r
    exact bind_ok rfl (bind_ok (ih vs) rfl)

/-- **The value of the next field is put into its slot.** -/
theorem readSlot_first {count : Nat} {f : Field} {v : f.kind.Value} {todo : List Item}
    (names : (fields.map Field.name).Nodup) (kinds : ∀ f ∈ fields, f.kind.readsBack = true)
    (r : Record fields) (next : (Record.items fields r).drop count = ⟨f, v⟩ :: todo)
    (rest : List Char) :
    readSlot f.name fields (Slots.first count fields (Record.asWritten fields r))
        (':' :: write f.kind v ++ rest) =
      .ok (Slots.first (count + 1) fields (Record.asWritten fields r), rest) := by
  induction fields generalizing count with
  | nil =>
    rw [Record.items, List.drop_nil] at next
    cases next
  | cons g gs ih =>
    obtain ⟨w, ws⟩ := r
    rw [List.map_cons, List.nodup_cons] at names
    cases count with
    | zero =>
      cases next
      have read := read_write (kinds _ List.mem_cons_self) v rest
      change readSlot f.name (f :: gs) (none, Slots.empty gs) (':' :: write f.kind v ++ rest) =
        .ok ((some (f.kind.asWritten v), Slots.first 0 gs (Record.asWritten gs ws)), rest)
      simp only [readSlot, if_true, Option.isSome_none, Bool.false_eq_true, if_false,
        Slots.first_zero]
      exact bind_ok rfl (bind_ok read rfl)
    | succ count =>
      have later : (Record.items gs ws).drop count = ⟨f, v⟩ :: todo := next
      have among : f ∈ gs := by
        have mem : (⟨f, v⟩ : Item) ∈ Record.items gs ws :=
          List.mem_of_mem_drop (later ▸ List.mem_cons_self)
        have mem := List.mem_map_of_mem (f := Sigma.fst) mem
        rwa [Record.map_items] at mem
      have other : g.name ≠ f.name := fun same => names.1 (same ▸ List.mem_map_of_mem among)
      have read := ih names.2 (fun f mem => kinds f (List.mem_cons_of_mem _ mem)) ws later
      change readSlot f.name (g :: gs)
          (some (g.kind.asWritten w), Slots.first count gs (Record.asWritten gs ws)) _ =
        .ok ((some (g.kind.asWritten w), Slots.first (count + 1) gs (Record.asWritten gs ws)), rest)
      rw [readSlot, if_neg other]
      exact bind_ok read rfl

/-! ## Objects -/

/-- The members of an object that follow a first one. -/
def moreText (items : List Item) : List Char :=
  items.flatMap fun i => ',' :: writeField i.1 i.2

theorem writeMore_eq (r : Record fields) :
    writeMore fields r = moreText (Record.items fields r) := by
  induction fields with
  | nil => rfl
  | cons f fs ih =>
    obtain ⟨v, vs⟩ := r
    simp only [writeMore, ih, Record.items, moreText, List.flatMap_cons, List.cons_append]

theorem writeFields_cons (f : Field) (fs : List Field) (v : f.kind.Value) (vs : Record fs) :
    writeFields (f :: fs) (v, vs) = writeField f v ++ moreText (Record.items fs vs) := by
  rw [writeFields, writeMore_eq]

theorem nextKey_first (name : String) (rest : List Char) :
    nextKey true (writeString name ++ rest) = .ok (some name, rest) := by
  rw [writeString_append]
  exact map_ok _ (readString_escape name rest)

theorem nextKey_more (name : String) (rest : List Char) :
    nextKey false (',' :: writeString name ++ rest) = .ok (some name, rest) := by
  rw [List.cons_append, writeString_append]
  exact map_ok _ (readString_escape name rest)

theorem nextKey_end (isFirst : Bool) (rest : List Char) :
    nextKey isFirst ('\x7d' :: rest) = .ok (none, rest) := rfl

/-- **The remaining fields of a record are read**, up to the closing bracket. -/
theorem readSlots_items {fuel count : Nat} {todo : List Item}
    (names : (fields.map Field.name).Nodup) (kinds : ∀ f ∈ fields, f.kind.readsBack = true)
    (r : Record fields) (next : (Record.items fields r).drop count = todo)
    (enough : todo.length < fuel) (rest : List Char) :
    readSlots fields fuel false (Slots.first count fields (Record.asWritten fields r))
        (moreText todo ++ '\x7d' :: rest) =
      .ok (Slots.first (count + todo.length) fields (Record.asWritten fields r), rest) := by
  induction todo generalizing fuel count with
  | nil =>
    obtain ⟨fuel, rfl⟩ := Nat.exists_eq_add_one_of_ne_zero (Nat.ne_of_gt enough)
    exact bind_ok (nextKey_end false rest) rfl
  | cons i todo ih =>
    obtain ⟨f, v⟩ := i
    obtain ⟨fuel, rfl⟩ := Nat.exists_eq_add_one_of_ne_zero (Nat.ne_of_gt (Nat.zero_lt_of_lt enough))
    have later : (Record.items fields r).drop (count + 1) = todo := by
      rw [← List.drop_drop, next]
      rfl
    have text : moreText (⟨f, v⟩ :: todo) ++ '\x7d' :: rest =
        ',' :: writeString f.name ++
          (':' :: write f.kind v ++ (moreText todo ++ '\x7d' :: rest)) := by
      simp only [moreText, List.flatMap_cons, writeField, List.append_assoc, List.cons_append]
    rw [text]
    refine bind_ok (nextKey_more _ _) (bind_ok (readSlot_first names kinds r next _) ?_)
    have onward := ih later (by simpa using enough)
    rw [List.length_cons, Nat.add_comm todo.length 1, ← Nat.add_assoc]
    exact onward

theorem length_le_moreText (items : List Item) : items.length ≤ (moreText items).length := by
  induction items with
  | nil => simp
  | cons i items ih =>
    simp only [moreText, List.flatMap_cons, List.length_append, List.length_cons] at ih ⊢
    omega

/-- The fields of a record are read. -/
theorem readSlots_fields {fuel : Nat} {rest : List Char} (names : (fields.map Field.name).Nodup)
    (kinds : ∀ f ∈ fields, f.kind.readsBack = true) (r : Record fields)
    (enough : (writeFields fields r ++ '\x7d' :: rest).length < fuel) :
    readSlots fields fuel true (Slots.empty fields) (writeFields fields r ++ '\x7d' :: rest) =
      .ok (Slots.first fields.length fields (Record.asWritten fields r), rest) := by
  obtain ⟨fuel, rfl⟩ := Nat.exists_eq_add_one_of_ne_zero (Nat.ne_of_gt (Nat.zero_lt_of_lt enough))
  cases fields with
  | nil => exact bind_ok (nextKey_end true rest) rfl
  | cons f fs =>
    obtain ⟨v, vs⟩ := r
    have more : (Record.items fs vs).length < fuel := by
      have long := length_le_moreText (Record.items fs vs)
      rw [writeFields_cons] at enough
      simp only [List.length_append, List.length_cons] at enough
      omega
    have text : writeFields (f :: fs) (v, vs) ++ '\x7d' :: rest =
        writeString f.name ++
          (':' :: write f.kind v ++ (moreText (Record.items fs vs) ++ '\x7d' :: rest)) := by
      simp only [writeFields_cons, writeField, List.append_assoc, List.cons_append]
    have whole : (Record.items (f :: fs) (v, vs)).drop 0 = ⟨f, v⟩ :: Record.items fs vs := rfl
    have left : (Record.items (f :: fs) (v, vs)).drop 1 = Record.items fs vs := rfl
    have first := readSlot_first names kinds (v, vs) whole
      (moreText (Record.items fs vs) ++ '\x7d' :: rest)
    have onward := readSlots_items names kinds (v, vs) left more rest
    rw [Slots.first_zero] at first
    rw [Record.length_items, Nat.add_comm 1] at onward
    rw [text]
    exact bind_ok (nextKey_first _ _) (bind_ok first onward)

/-- A record reads back from its text, whatever follows it. -/
theorem readRecord_writeRecord (name : String) (names : (fields.map Field.name).Nodup)
    (kinds : ∀ f ∈ fields, f.kind.readsBack = true) (r : Record fields) (rest : List Char) :
    readRecord name fields (writeRecord fields r ++ rest) =
      .ok (Record.asWritten fields r, rest) := by
  have text : writeRecord fields r ++ rest =
      '\x7b' :: (writeFields fields r ++ '\x7d' :: rest) := by
    simp [writeRecord]
  rw [text]
  refine bind_ok (readSlots_fields names kinds r (Nat.lt_succ_self _)) ?_
  dsimp only
  rw [complete_first]
  rfl

/-- **A record reads back from its text.** -/
theorem parseRecord_render (name : String) (names : (fields.map Field.name).Nodup)
    (kinds : ∀ f ∈ fields, f.kind.readsBack = true) (r : Record fields) :
    parseRecord name fields (render fields r) = .ok (Record.asWritten fields r) := by
  have read := readRecord_writeRecord name names kinds r []
  rw [List.append_nil] at read
  rw [parseRecord, whole, render, String.toList_ofList, read]
  rfl

end Json

end Relay
