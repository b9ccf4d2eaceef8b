import Conveyor.Proofs.Json.Reading

/-!
# Texts of records

A record can be written as an object, with its fields in any order and with members that mean
nothing between them, or as the list of its first fields (`RecordText`). Either way any fields can be
left out, and reading puts in what is written and nothing else (`reads_recordText`).
-/

namespace Conveyor.Json

open Value (commaSeparated)

/-! ### Fields with their values -/

/-- A field with a value: how the value may be written, and what comes of a record when the field gets
this value. -/
structure Written (ρ : Type) where
  name : String
  texts : Texts
  put : ρ → ρ

variable {ρ : Type} {shape : RecordShape ρ} {entries es : List (Written ρ)} {kept : String → Bool}
  {pieces : List (List Char)} {before blanks s rest : List Char} {seen : List String} {r r' : ρ}
  {fields : List (RecordField ρ)} {f : RecordField ρ} {e : Written ρ}

/-- Put values into the fields of a record, one after the other. -/
def putAll (r : ρ) (entries : List (Written ρ)) : ρ := entries.foldl (fun r e => e.put r) r

/-- The members of an object that give their values to these fields, one after the other. Members
with names that are unknown may stand between them. -/
inductive ObjectPieces (known : List String) : List (Written ρ) → List (List Char) → Prop
  | nil : ObjectPieces known [] []
  | field {e : Written ρ} {es : List (Written ρ)} {piece : List Char} {pieces : List (List Char)}
      (member : MemberText e.name e.texts piece) (later : ObjectPieces known es pieces) :
      ObjectPieces known (e :: es) (piece :: pieces)
  | other {es : List (Written ρ)} {name : String} {piece : List Char} {pieces : List (List Char)}
      (unknown : name ∉ known) (member : MemberText name WellFormed piece)
      (later : ObjectPieces known es pieces) : ObjectPieces known es (piece :: pieces)

/-- The texts of a record of which these fields are kept: objects with them in any order, and lists of
the first fields if no others are kept. -/
inductive RecordText (entries : List (Written ρ)) (kept : String → Bool) : Texts
  | object {es : List (Written ρ)} {pieces : List (List Char)} {blanks : List Char}
      (order : es.Perm (entries.filter fun e => kept e.name))
      (members : ObjectPieces (entries.map Written.name) es pieces) (blank : Blanks blanks) :
      RecordText entries kept ('\x7b' :: (commaSeparated pieces ++ (blanks ++ ['\x7d'])))
  | list {n : Nat} {pieces : List (List Char)} {blanks : List Char}
      (front : entries.filter (fun e => kept e.name) = entries.take n)
      (elements : List.Forall₂ (fun e => Padded e.texts) (entries.take n) pieces)
      (blank : Blanks blanks) :
      RecordText entries kept ('[' :: (commaSeparated pieces ++ (blanks ++ [']'])))

lemma RecordText.begins (h : RecordText entries kept s) : ∃ c t, s = c :: t ∧ Opens c := by
  cases h <;> exact ⟨_, _, rfl, rfl, by decide⟩

/-- Whether the members of an object name fields in their order, and each spelling of their values is
a text of the value that the field has here. -/
def Written.Spells (ms : List (String × Value)) (entries : List (Written ρ)) : Prop :=
  List.Forall₂ (fun m e => m.1 = e.name ∧ ∀ s, Spelling m.2 s → e.texts s) ms entries

lemma ObjectPieces.of_spellings {ms : List (String × Value)} (known : List String)
    (h : Written.Spells ms entries) (spelled : MemberSpellings ms pieces) :
    ObjectPieces known entries pieces := by
  induction h generalizing pieces with
  | nil =>
    cases spelled
    exact .nil
  | @cons m e ms entries first later ih =>
    obtain ⟨same, texts⟩ := first
    obtain ⟨piece, pieces, rfl, member, rest⟩ := spelled.uncons
    exact .field (same ▸ member.mono texts) (ih rest)

/-- The spellings of an object with all fields in their order are among the texts of the record. -/
lemma RecordText.of_spelling {ms : List (String × Value)} (h : Written.Spells ms entries)
    (spelled : Spelling (.object ms) s) : RecordText entries (fun _ => true) s := by
  cases spelled with
  | object members blank =>
    refine .object ?_ (ObjectPieces.of_spellings _ h members) blank
    rw [List.filter_eq_self.mpr fun _ _ => rfl]

/-- Whether a field of a shape may be left out, and is read as it is written here. -/
structure Written.Suits (f : RecordField ρ) (e : Written ρ) : Prop where
  name : f.name = e.name
  optional : f.required = false
  begins : ∀ s, e.texts s → ∃ c t, s = c :: t ∧ Opens c
  reads : ∀ r, ReadsTexts (f.read r) e.texts (e.put r)

/-! ### Objects -/

lemma find?_of_suits (h : List.Forall₂ Written.Suits fields entries)
    (distinct : (entries.map Written.name).Nodup) (member : e ∈ entries) :
    ∃ f, fields.find? (fun f => f.name = e.name) = some f ∧ e.Suits f := by
  induction h with
  | nil => cases member
  | @cons f d fields entries suits later ih =>
    obtain ⟨fresh, distinct⟩ := List.nodup_cons.mp distinct
    rw [List.find?_cons, suits.name]
    rcases List.mem_cons.mp member with rfl | member
    · exact ⟨f, by simp, suits⟩
    · have apart : d.name ≠ e.name := fun same =>
        fresh (same ▸ List.mem_map_of_mem member)
      simpa [apart] using ih distinct member

lemma find?_eq_none_of_suits {name : String} (h : List.Forall₂ Written.Suits fields entries)
    (unknown : name ∉ entries.map Written.name) : fields.find? (fun f => f.name = name) = none := by
  induction h with
  | nil => rfl
  | @cons f d fields entries suits later ih =>
    obtain ⟨apart, unknown⟩ := not_or.mp (mt List.mem_cons.mpr unknown)
    rw [List.find?_cons, suits.name]
    simpa [Ne.symm apart] using ih unknown

lemma ObjectPieces.fills (h : List.Forall₂ Written.Suits shape.fields entries)
    (distinct : (entries.map Written.name).Nodup)
    (members : ObjectPieces (entries.map Written.name) es pieces) (known : es ⊆ entries)
    (fresh : (es.map Written.name).Nodup ∧ ∀ e ∈ es, e.name ∉ seen) :
    ∃ seen', shape.Fills seen r pieces seen' (putAll r es) := by
  induction members generalizing seen r with
  | nil => exact ⟨seen, .nil⟩
  | @field e es piece pieces member _ ih =>
    obtain ⟨here, known⟩ := List.cons_subset.mp known
    obtain ⟨f, found, suits⟩ := find?_of_suits h distinct here
    obtain ⟨different, unseen⟩ := fresh
    obtain ⟨apart, different⟩ := List.nodup_cons.mp different
    obtain ⟨first, unseen⟩ := List.forall_mem_cons.mp unseen
    have unseen' : ∀ d ∈ es, d.name ∉ e.name :: seen := by
      intro d hd
      rw [List.mem_cons, not_or]
      exact ⟨fun same => apart (same ▸ List.mem_map_of_mem hd), unseen d hd⟩
    obtain ⟨seen', later⟩ := ih (r := e.put r) known ⟨different, unseen'⟩
    exact ⟨seen', .field member found first (suits.reads r) later⟩
  | other unknown member _ ih =>
    obtain ⟨seen', later⟩ := ih (r := r) known fresh
    exact ⟨seen', .other member (find?_eq_none_of_suits h unknown) later⟩

/-! ### Lists -/

lemma readInOrder_none (index : Nat) (next : nextElement (index = 0) s = .ok none)
    (optional : ∀ f ∈ fields, f.required = false) :
    shape.readInOrder index fields r s = .ok (r, s) := by
  cases fields with
  | nil => rfl
  | cons f fields =>
    have none : (f :: fields).findIdx? RecordField.required = .none := by
      simpa [List.findIdx?_eq_none_iff] using optional
    simp [RecordShape.readInOrder, next, none, bind, Except.bind, pure, Except.pure]

lemma readInOrder_some {index : Nat} {t u : List Char}
    (next : nextElement (index = 0) s = .ok (some t)) (value : f.read r t = .ok (r', u)) :
    shape.readInOrder index (f :: fields) r s = shape.readInOrder (index + 1) fields r' u := by
  simp [RecordShape.readInOrder, next, value, bind, Except.bind]

lemma Suits.optional (h : List.Forall₂ Written.Suits fields entries) :
    ∀ f ∈ fields, f.required = false := by
  induction h with
  | nil => simp
  | cons suits _ ih => exact List.forall_mem_cons.mpr ⟨suits.optional, ih⟩

lemma readInOrder_pieces (shape : RecordShape ρ) (index : Nat) (rest : List Char)
    (h : List.Forall₂ Written.Suits fields entries)
    (elements : List.Forall₂ (fun e => Padded (Written.texts e)) es pieces) (front : es <+: entries)
    (leading : Blanks before) (blank : Blanks blanks) :
    ∃ left, Blanks left ∧ shape.readInOrder index fields r
        (before ++ (upcoming (index = 0) pieces ++ (blanks ++ ']' :: rest))) =
      .ok (putAll r es, left ++ ']' :: rest) := by
  induction elements generalizing fields entries index r before with
  | nil =>
    have all : Blanks (before ++ blanks) := blanks_append.mpr ⟨leading, blank⟩
    refine ⟨before ++ blanks, all, ?_⟩
    rw [upcoming_nil, List.nil_append, ← List.append_assoc]
    exact readInOrder_none index (nextElement_end _ all) (Suits.optional h)
  | @cons e piece es pieces element _ ih =>
    cases h with
    | nil => simp at front
    | @cons f d fields entries suits later =>
      obtain ⟨rfl, front'⟩ := List.cons_prefix_cons.mp front
      cases element with
      | @intro inner s after opening text trailing =>
        obtain ⟨c, t, rfl, opens⟩ := suits.begins s text
        have closed : Closes (after ++ (upcoming false pieces ++ (blanks ++ ']' :: rest))) :=
          closes_append trailing (closes_upcoming pieces blank (by decide))
        have next := nextElement_lead (t := t ++ (after ++ (upcoming false pieces ++
          (blanks ++ ']' :: rest)))) (index = 0) leading opening opens
        have result := suits.reads r blanks_nil text closed
        obtain ⟨left, hleft, others⟩ := ih (index + 1) (r := e.put r) later front' trailing
        refine ⟨left, hleft, ?_⟩
        simp only [upcoming_cons, List.append_assoc, List.cons_append]
        rw [readInOrder_some next result]
        exact others

lemma read_of_elements {t u : List Char} (leading : Blanks before)
    (elements : shape.readInOrder 0 shape.fields shape.start s = .ok (r, t))
    (ends : endList t = .ok u) : shape.read (before ++ '[' :: s) = .ok (r, u) := by
  rw [RecordShape.read, skipBlanks_append leading, skipBlanks_cons rfl]
  simp [elements, ends, bind, Except.bind, pure, Except.pure]

/-! ### Records -/

lemma putAll_of_perm (order : es.Perm entries)
    (commute : ∀ d ∈ entries, ∀ e ∈ entries, ∀ r, e.put (d.put r) = d.put (e.put r)) (r : ρ) :
    putAll r es = putAll r entries :=
  order.foldl_eq' (fun d hd e he r => commute d (order.subset hd) e (order.subset he) r) r

/-- A record whose fields can all be left out is read from each of its texts: what is written is put
in, and nothing else. -/
theorem reads_recordText (h : List.Forall₂ Written.Suits shape.fields entries)
    (distinct : (entries.map Written.name).Nodup)
    (commute : ∀ d ∈ entries, ∀ e ∈ entries, ∀ r, e.put (d.put r) = d.put (e.put r))
    (kept : String → Bool) :
    ReadsTexts shape.read (RecordText entries kept)
      (putAll shape.start (entries.filter fun e => kept e.name)) := by
  have optional := Suits.optional h
  intro before s rest leading text _
  cases text with
  | @object es pieces blanks order members blank =>
    have known : es ⊆ entries := fun e he => List.mem_of_mem_filter (order.subset he)
    have different : (es.map Written.name).Nodup :=
      (order.map _).nodup_iff.mpr (distinct.sublist (List.filter_sublist.map _))
    obtain ⟨seen, fills⟩ : ∃ seen, shape.Fills [] shape.start pieces seen (putAll shape.start es) :=
      members.fills h distinct known ⟨different, by simp⟩
    obtain ⟨left, hleft, read⟩ := readByName_pieces true rest fills
      (length_lt_commaSeparated pieces blanks '\x7d' rest) blanks_nil blank
    have same : putAll shape.start es = putAll shape.start (entries.filter fun e => kept e.name) :=
      putAll_of_perm order (fun d hd e he => commute d (List.mem_of_mem_filter hd) e
        (List.mem_of_mem_filter he)) _
    rw [← same]
    simp only [List.cons_append, List.append_assoc, List.nil_append]
    exact read_of_members leading read (by simpa using fun f hf => by simp [optional f hf])
      (endObject_end hleft)
  | @list n pieces blanks front elements blank =>
    obtain ⟨left, hleft, read⟩ := readInOrder_pieces shape 0 (r := shape.start) rest h elements
      (List.take_prefix ..) blanks_nil blank
    rw [front]
    simp only [List.cons_append, List.append_assoc, List.nil_append]
    exact read_of_elements leading read (endList_end hleft)

end Conveyor.Json
