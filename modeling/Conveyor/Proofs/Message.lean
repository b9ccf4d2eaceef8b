import Conveyor.Message.Document
import Conveyor.Proofs.Json.Reading
import Conveyor.Proofs.Json.Tracking
import Conveyor.Proofs.Text.Base64

/-!
# Message documents and back

A message is read back from each document that it can be written to, with the metadata of a part in
any order (`Message.parse_of_writes`). Conversely, a document that is read as a message holds the
texts that the contents of the message are written as (`Message.contentTexts_of_parse`).
-/

namespace Conveyor

open Json

/-! ### Writing -/

/-- The values that a part is written as: its metadata may come in any order. -/
def Part.Writes (p : Part) (v : Value) : Prop :=
  ∃ metadata, metadata.Perm p.metadata.toList ∧ v = p.toValueWith metadata

/-- The values that a message is written as. -/
def Message.Writes (m : Message) (v : Value) : Prop :=
  ∃ vs, List.Forall₂ Part.Writes m.parts vs ∧ v = .list vs

/-- The keys of an object. -/
def Json.Value.keys : Value → List String
  | .object members => members.map Prod.fst
  | _               => []

/-- The elements of a list. -/
def Json.Value.elements : Value → List Value
  | .list elements => elements
  | _              => []

variable {p : Part} {m : Message} {v : Value}

lemma Message.writes_toValue (m : Message) : m.Writes m.toValue := by
  refine ⟨m.parts.map Part.toValue, ?_, rfl⟩
  rw [List.forall₂_map_right_iff, List.forall₂_same]
  exact fun p _ => ⟨p.metadata.toList, .refl _, rfl⟩

/-- The metadata are left out if there are none, and only then. -/
lemma Part.Writes.keys (h : p.Writes v) : "metadata" ∈ v.keys ↔ p.metadata ≠ .empty := by
  obtain ⟨metadata, order, rfl⟩ := h
  rw [Ne, Dict.eq_empty_iff, ← List.isEmpty_iff, ← order.isEmpty_eq, toValueWith]
  cases metadata.isEmpty <;> simp [Value.keys]

/-! ### Reading what was written -/

lemma Part.reads_content (r : Part) (content : Bytes) :
    Reads (fun s => do
        let (text, s) ← readString "a string" s
        match Text.Base64.decodeText text with
        | .ok content  => return ({ r with content := content }, s)
        | .error cause => throw (.content cause))
      (.text (Text.Base64.encodeText content)) { r with content := content } := by
  intro before s rest leading spelling closed
  have decoded := Text.Base64.decodeText_eq_ok_iff.mpr (rfl : Text.Base64.encodeText content = _)
  simp [reads_text "a string" _ leading spelling closed, decoded, bind, Except.bind, pure,
    Except.pure]

lemma Part.Writes.reads (h : p.Writes v) : Reads Part.shape.read v p := by
  obtain ⟨metadata, order, rfl⟩ := h
  rw [toValueWith]
  split
  · rename_i none
    have empty : p.metadata = .empty := by
      rw [Dict.eq_empty_iff, ← List.isEmpty_iff, ← order.isEmpty_eq]
      exact none
    apply reads_record
    · apply RecordShape.Takes.field (by rfl) (by simp) (Part.reads_content ..)
      have same : { shape.start with content := p.content } = p := by
        obtain ⟨content, metadata⟩ := p
        rw [show metadata = .empty from empty]
        rfl
      rw [same]
      exact .nil
    · simp [shape]
  · apply reads_record
    · apply RecordShape.Takes.field (by rfl) (by simp) (Part.reads_content ..)
      apply RecordShape.Takes.field (by rfl) (by simp)
      · exact (reads_texts "a string" order).map fun metadata => { p with metadata }
      · exact .nil
    · simp [shape]

lemma Message.Writes.reads (h : m.Writes v) : Reads (readList Part.shape.read) v m.parts := by
  obtain ⟨vs, parts, rfl⟩ := h
  apply reads_list
  apply List.Forall₂.flip
  exact parts.imp fun _ _ part => Part.Writes.reads part

/-- A message is read back from its documents, compact or with line ends and indentation. -/
lemma Message.parse_of_writes (h : m.Writes v) :
    parse v.toCompact = .ok m ∧ parse v.toPretty = .ok m := by
  rw [parse, parse, h.reads.document_compact, h.reads.document_pretty]
  exact ⟨rfl, rfl⟩

/-! ### The texts in a document -/

/-- A part as a document holds it, with a text for its content. -/
structure PartText where
  content : String := ""
  metadata : Dict String := .empty

/-- The shape of parts, of which contents are read as they are. -/
def PartText.shape : RecordShape PartText where
  name := "Part"
  start := {}
  fields := [
    { name := "content"
      required := true
      read := fun p s => (readString "a string" s).map fun (content, s) =>
        ({ p with content := content }, s) },
    { name := "metadata"
      read := fun p s => (readDict (readString "a string") s).map fun (metadata, s) =>
        ({ p with metadata := metadata }, s) }]

/-- The texts that a document holds as the contents of the parts of a message. -/
def Message.contentTexts (document : String) : Except Fault (List String) :=
  (readDocument (readList PartText.shape.read) document).map (·.map PartText.content)

/-- Whether a part of a document stands for a part of a message. -/
def PartText.StandsFor (p : Part) (q : PartText) : Prop :=
  Text.Base64.encodeText p.content = q.content

lemma PartText.follows : Follows PartText.StandsFor Part.shape.read shape.read := by
  apply Follows.record
  · refine .cons ⟨rfl, rfl, ?_⟩ (.cons ⟨rfl, rfl, ?_⟩ .nil)
    · intro r r' _ s a t result
      obtain ⟨⟨text, s₁⟩, read, result⟩ := bind_eq_ok.mp result
      cases decoded : Text.Base64.decodeText text with
      | error cause => simp [decoded, throw, throwThe, MonadExceptOf.throw] at result
      | ok content =>
        simp only [decoded] at result
        cases result
        refine ⟨{ r' with content := text }, ?_, Text.Base64.decodeText_eq_ok_iff.mp decoded⟩
        simp [read, Except.map]
    · intro r r' related s a t result
      simp only at result ⊢
      cases read : readDict (readString "a string") s with
      | error e => simp [read, Except.map] at result
      | ok metadata =>
        rw [read] at result
        cases result
        exact ⟨_, rfl, related⟩
  · show Text.Base64.encodeText [] = ""
    rfl

/-- A document that is read as a message holds what the contents of the message are written as. -/
lemma Message.contentTexts_of_parse {document : String} (h : parse document = .ok m) :
    contentTexts document = .ok (m.parts.map fun p => Text.Base64.encodeText p.content) := by
  rw [parse, readDocument] at h
  cases read : readList Part.shape.read document.toList with
  | error e => simp [read, bind, Except.bind, Except.map] at h
  | ok result =>
    obtain ⟨parts, rest⟩ := result
    obtain ⟨texts, read', related⟩ := PartText.follows.list read
    have same : texts.map PartText.content =
        parts.map fun p => Text.Base64.encodeText p.content := by
      rw [← List.forall₂_eq_eq_eq, List.forall₂_map_left_iff, List.forall₂_map_right_iff]
      exact related.flip.imp fun _ _ text => text.symm
    rw [contentTexts, readDocument]
    simp only [read, read', bind, Except.bind] at h ⊢
    split at h
    · cases h
      simp [Except.map, pure, Except.pure, same]
    · cases h

/-! ### Round trips -/

/-- Whether the documents of a message that hold this value give the message back, and whether those
of its parts that have metadata say so. -/
structure Message.RoundTrip (m : Message) (v : Value) : Prop where
  compact : parse v.toCompact = .ok m
  pretty : parse v.toPretty = .ok m
  metadata : List.Forall₂ (fun p w => "metadata" ∈ w.keys ↔ p.metadata ≠ .empty) m.parts v.elements

/-- Message documents round-trip: a message is read back from whatever it may be written as, and
whatever document a message was read from, the message is written with the texts for its contents
that stand there. No two texts stand for the same bytes. -/
theorem Message.documents_round_trip :
    (∀ m : Message, m.Writes m.toValue ∧ ∀ v, m.Writes v → m.RoundTrip v) ∧
    (∀ document (m : Message), parse document = .ok m → ∃ texts,
      contentTexts document = .ok texts ∧ contentTexts m.render = .ok texts ∧
      ∀ v, m.Writes v →
        contentTexts v.toCompact = .ok texts ∧ contentTexts v.toPretty = .ok texts) ∧
    ∀ (s t : String) (bytes : Bytes), Text.Base64.decodeText s = .ok bytes →
      Text.Base64.decodeText t = .ok bytes → s = t := by
  refine ⟨?written, ?read, ?texts⟩
  case written =>
    intro m
    refine ⟨m.writes_toValue, ?_⟩
    intro v h
    obtain ⟨compact, pretty⟩ := parse_of_writes h
    refine ⟨compact, pretty, ?_⟩
    obtain ⟨vs, parts, rfl⟩ := h
    exact parts.imp fun _ _ part => part.keys
  case read =>
    intro document m h
    have own : parse m.render = .ok m := (parse_of_writes m.writes_toValue).1
    refine ⟨_, contentTexts_of_parse h, contentTexts_of_parse own, ?_⟩
    intro v hv
    obtain ⟨compact, pretty⟩ := parse_of_writes hv
    exact ⟨contentTexts_of_parse compact, contentTexts_of_parse pretty⟩
  case texts =>
    intro s t bytes hs ht
    rw [← Text.Base64.decodeText_eq_ok_iff.mp hs, ← Text.Base64.decodeText_eq_ok_iff.mp ht]

/-- A message with two bytes and with none, with metadata that need escapes. -/
def Message.sample : Message :=
  ⟨[⟨[255, 254], .ofList [("\"", "\x00"), ("é\\", "")]⟩, ⟨[], .empty⟩]⟩

/-- The document of a message with its metadata in another order, and one with fields in a list,
with an escape in the text for a content and with a field that is passed over. -/
theorem Message.documents_round_trip_sample :
    sample.RoundTrip (.list [.object [("content", .text "//4="),
        ("metadata", .object [("é\\", .text ""), ("\"", .text "\x00")])],
      .object [("content", .text "")]]) ∧
    ∃ texts, contentTexts "[[\"AAE\\u003d\"], \x7b\"x\": [1], \"content\":\"\"\x7d]" = .ok texts ∧
      contentTexts (Message.mk [⟨[0, 1], .empty⟩, ⟨[], .empty⟩]).render = .ok texts := by
  obtain ⟨first, second, -⟩ := documents_round_trip
  constructor
  · apply (first sample).2
    have order : [("é\\", ""), ("\"", "\x00")].Perm
        (Dict.ofList [("\"", "\x00"), ("é\\", "")]).toList := by decide +kernel
    exact ⟨_, .cons ⟨_, order, rfl⟩ (.cons ⟨[], .refl _, rfl⟩ .nil), rfl⟩
  · have read : parse "[[\"AAE\\u003d\"], \x7b\"x\": [1], \"content\":\"\"\x7d]" =
        .ok ⟨[⟨[0, 1], .empty⟩, ⟨[], .empty⟩]⟩ := by decide +kernel
    obtain ⟨texts, held, rendered, -⟩ := second _ _ read
    exact ⟨texts, held, rendered⟩

end Conveyor
