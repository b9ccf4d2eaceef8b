import Conveyor.Proofs.Dict
import Conveyor.Proofs.Json.Spelling
import Mathlib.Data.List.Forall2

/-!
# Reading what is spelled

A reader reads a value (`Reads`) if it takes every spelling of the value off the front of a text and
leaves alone what comes after it. The readers of scalars read the values that they are made for, and
a reader of lists, of dictionaries or of records reads a value if the readers of its parts read the
parts.
-/

namespace Conveyor.Json

open Value

variable {α ρ : Type} {read : Reader α} {texts : Texts} {v : Value} {a : α} {vs : List Value}
  {ms : List (String × Value)} {pieces : List (List Char)} {blanks before s t u rest : List Char}
  {first : Bool} {fuel : Nat} {c : Char}

/-- Whether a reader takes each of these texts off the front of a document, with one result for
all. -/
def ReadsTexts (read : Reader α) (texts : Texts) (a : α) : Prop :=
  ∀ ⦃before s rest : List Char⦄, Blanks before → texts s → Closes rest →
    read (before ++ (s ++ rest)) = .ok (a, rest)

/-- Whether a reader takes every spelling of a value off the front of a document. -/
abbrev Reads (read : Reader α) (v : Value) (a : α) : Prop := ReadsTexts read (Spelling v) a

/-- Whether one of some texts stands before the rest of a document, behind blanks. -/
def Stands (texts : Texts) (s rest : List Char) : Prop :=
  ∃ before t, Blanks before ∧ texts t ∧ Closes rest ∧ s = before ++ (t ++ rest)

lemma ReadsTexts.of_stands (h : ReadsTexts read texts a) (stands : Stands texts s rest) :
    read s = .ok (a, rest) := by
  obtain ⟨before, t, leading, text, closed, rfl⟩ := stands
  exact h leading text closed

lemma skipValue_of_stands (stands : Stands WellFormed s rest) : skipValue s = .ok rest := by
  obtain ⟨before, t, leading, value, closed, rfl⟩ := stands
  exact skipValue_wellFormed value leading closed

lemma ReadsTexts.map {β : Type} (h : ReadsTexts read texts a) (f : α → β) :
    ReadsTexts (fun s => (read s).map fun x => (f x.1, x.2)) texts (f a) := by
  intro before s rest leading text closed
  simp only [h leading text closed]
  rfl

/-! ### Scalars -/

lemma reads_nat (typeName : String) {n : Nat} (h : n < UInt64.size) :
    Reads (readNat typeName) (.nat n) n := by
  rintro before - rest leading ⟨⟩ closed
  obtain ⟨d, ds, hd⟩ := List.exists_cons_of_ne_nil (Nat.toDigits_ne_nil : Nat.toDigits 10 n ≠ [])
  have digit : d.isDigit := by
    apply Nat.isDigit_of_mem_toDigits (b := 10) (n := n) (by decide) (by decide)
    simp [hd]
  have scanned := scan_numberText .endInValue (numberText_toDigits n) closed.noNumber
  have classified := classify_toDigits (Nat.le_sub_one_of_lt h : n ≤ Number.largest)
  rw [hd, List.cons_append] at scanned
  rw [hd] at classified
  rw [readNat, skipBlanks_append leading, hd, List.cons_append,
    skipBlanks_cons (opens_of_isDigit digit).1]
  simp [digit, scanned, classified, bind, Except.bind]

lemma reads_bool (b : Bool) : Reads readBool (.bool b) b := by
  rintro before - rest leading ⟨⟩ -
  rw [readBool, skipBlanks_append leading]
  cases b <;> rfl

lemma reads_text (expected text : String) : Reads (readString expected) (.text text) text := by
  rintro before - rest leading (_ | _ | @⟨_, k, h⟩) -
  rw [readString, skipBlanks_append leading, List.cons_append, skipBlanks_cons rfl]
  simp [readText_spelling h, Except.map]

/-! ### Lists -/

lemma nextElement_lead (first : Bool) (blank : Blanks blanks) (leading : Blanks before)
    (h : Opens c) :
    nextElement first (blanks ++ (lead first ++ (before ++ c :: t))) = .ok (some (c :: t)) := by
  obtain ⟨solid, mark⟩ := h
  have notEnd : c ≠ ']' := by
    rintro rfl
    exact mark (by decide)
  rw [nextElement, skipBlanks_append blank]
  cases first with
  | true =>
    rw [lead, if_pos rfl, List.nil_append, skipBlanks_append leading, skipBlanks_cons solid]
    simp [notEnd]
  | false =>
    rw [lead, if_neg (by simp), List.singleton_append, skipBlanks_cons rfl]
    simp [skipBlanks_append leading, skipBlanks_cons solid, notEnd]

lemma nextElement_end (first : Bool) (blank : Blanks blanks) :
    nextElement first (blanks ++ ']' :: t) = .ok none := by
  rw [nextElement, skipBlanks_append blank, skipBlanks_cons rfl]
  rfl

lemma endList_end (blank : Blanks blanks) : endList (blanks ++ ']' :: t) = .ok t := by
  rw [endList, skipBlanks_append blank, skipBlanks_cons rfl]
  rfl

lemma readElements_none (h : nextElement first s = .ok none) :
    readElements read (fuel + 1) first s = .ok ([], s) := by
  simp [readElements, h, bind, Except.bind, pure, Except.pure]

lemma readElements_some (next : nextElement first s = .ok (some t)) (value : read t = .ok (a, u)) :
    readElements read (fuel + 1) first s =
      (readElements read fuel false u).map fun x => (a :: x.1, x.2) := by
  simp only [readElements, next, value, bind, Except.bind, pure, Except.pure]
  cases readElements read fuel false u <;> rfl

lemma readElements_spelled {as : List α} (first : Bool) (rest : List Char)
    (spelled : ElementSpellings vs pieces)
    (reads : List.Forall₂ (Reads read) vs as) (enough : pieces.length < fuel)
    (leading : Blanks before) (blank : Blanks blanks) :
    ∃ left, Blanks left ∧
      readElements read fuel first (before ++ (upcoming first pieces ++ (blanks ++ ']' :: rest))) =
        .ok (as, left ++ ']' :: rest) := by
  induction reads generalizing pieces fuel first before with
  | nil =>
    cases spelled
    obtain ⟨fuel, rfl⟩ := Nat.exists_eq_succ_of_ne_zero (Nat.ne_of_gt enough)
    have all : Blanks (before ++ blanks) := blanks_append.mpr ⟨leading, blank⟩
    refine ⟨before ++ blanks, all, ?_⟩
    rw [upcoming_nil, List.nil_append, ← List.append_assoc]
    exact readElements_none (nextElement_end first all)
  | @cons v a vs as value _ ih =>
    obtain ⟨fuel, rfl⟩ := Nat.exists_eq_succ_of_ne_zero (Nat.ne_of_gt (Nat.zero_lt_of_lt enough))
    cases spelled with
    | @cons _ _ pieces inner s after opening spelling trailing later =>
      obtain ⟨c, t, rfl, opens⟩ := spelling.begins
      have next := nextElement_lead (t := t ++ (after ++ (upcoming false pieces ++
        (blanks ++ ']' :: rest)))) first leading opening opens
      have closed : Closes (after ++ (upcoming false pieces ++ (blanks ++ ']' :: rest))) :=
        closes_append trailing (closes_upcoming pieces blank (by decide))
      have result := value blanks_nil spelling closed
      obtain ⟨left, hleft, others⟩ := ih false later (Nat.lt_of_succ_lt_succ enough)
        trailing
      refine ⟨left, hleft, ?_⟩
      simp only [upcoming_cons, List.append_assoc, List.cons_append]
      rw [readElements_some next result, others]
      rfl

lemma readList_of_elements {as : List α} (leading : Blanks before)
    (elements : readElements read (s.length + 1) true s = .ok (as, t)) (ends : endList t = .ok u) :
    readList read (before ++ '[' :: s) = .ok (as, u) := by
  rw [readList, skipBlanks_append leading, skipBlanks_cons rfl]
  simp [elements, ends, bind, Except.bind, pure, Except.pure]

lemma reads_list {as : List α} (reads : List.Forall₂ (Reads read) vs as) :
    Reads (readList read) (.list vs) as := by
  intro before s rest leading spelling _
  cases spelling with
  | @list _ pieces blanks elements blank =>
    obtain ⟨left, hleft, read⟩ := readElements_spelled true rest elements reads
      (length_lt_commaSeparated pieces blanks ']' rest) blanks_nil blank
    simp only [List.cons_append, List.append_assoc, List.nil_append]
    exact readList_of_elements leading read (endList_end hleft)

/-! ### Members -/

lemma nextKey_lead (first : Bool) (blank : Blanks blanks) (leading : Blanks before) :
    nextKey first (blanks ++ (lead first ++ (before ++ '"' :: t))) = .ok (some t) := by
  rw [nextKey, skipBlanks_append blank]
  cases first with
  | true =>
    rw [lead, if_pos rfl, List.nil_append, skipBlanks_append leading, skipBlanks_cons rfl]
    rfl
  | false =>
    rw [lead, if_neg (by simp), List.singleton_append, skipBlanks_cons rfl]
    simp [skipBlanks_append leading, skipBlanks_cons (c := '"') rfl]

lemma nextKey_end (first : Bool) (blank : Blanks blanks) :
    nextKey first (blanks ++ '\x7d' :: t) = .ok none := by
  rw [nextKey, skipBlanks_append blank, skipBlanks_cons rfl]
  rfl

lemma skipColon_colon (blank : Blanks blanks) : skipColon (blanks ++ ':' :: t) = .ok t := by
  rw [skipColon, skipBlanks_append blank, skipBlanks_cons rfl]
  rfl

lemma endObject_end (blank : Blanks blanks) : endObject (blanks ++ '\x7d' :: t) = .ok t := by
  rw [endObject, skipBlanks_append blank, skipBlanks_cons rfl]
  rfl

/-- The key of the next member is read, and then the colon, behind which the value stands. -/
lemma MemberText.enter {key : String} {piece : List Char} (member : MemberText key texts piece)
    (first : Bool) (blank : Blanks blanks) (closed : Closes rest) :
    ∃ inner colon value after, Blanks after ∧
      nextKey first (blanks ++ (lead first ++ (piece ++ rest))) = .ok (some inner) ∧
      readText inner = .ok (key.toList, colon) ∧ skipColon colon = .ok value ∧
      Stands texts value (after ++ rest) := by
  cases member with
  | @intro before k left right s after leading name beforeColon afterColon value trailing =>
    refine ⟨_, _, right ++ (s ++ (after ++ rest)), after, trailing, ?_, readText_spelling name _,
      skipColon_colon beforeColon, right, s, afterColon, value, closes_append trailing closed, rfl⟩
    simp only [List.append_assoc, List.cons_append]
    exact nextKey_lead first blank leading

/-! ### Dictionaries -/

lemma readMembers_none (h : nextKey first s = .ok none) :
    readMembers read (fuel + 1) first s = .ok ([], s) := by
  simp [readMembers, h, bind, Except.bind, pure, Except.pure]

lemma readMembers_some {key : String} {inner colon : List Char}
    (next : nextKey first s = .ok (some inner)) (name : readText inner = .ok (key.toList, colon))
    (passed : skipColon colon = .ok t) (value : read t = .ok (a, u)) :
    readMembers read (fuel + 1) first s =
      (readMembers read fuel false u).map fun x => ((key, a) :: x.1, x.2) := by
  simp only [readMembers, next, name, passed, value, bind, Except.bind, pure, Except.pure]
  cases readMembers read fuel false u <;> simp [Except.map]

/-- Whether a reader reads the value of a member, under the same key. -/
def ReadsMember (read : Reader α) (m : String × Value) (e : String × α) : Prop :=
  m.1 = e.1 ∧ Reads read m.2 e.2

lemma readMembers_spelled {es : List (String × α)} (first : Bool) (rest : List Char)
    (spelled : MemberSpellings ms pieces)
    (reads : List.Forall₂ (ReadsMember read) ms es) (enough : pieces.length < fuel)
    (leading : Blanks before) (blank : Blanks blanks) :
    ∃ left, Blanks left ∧
      readMembers read fuel first
          (before ++ (upcoming first pieces ++ (blanks ++ '\x7d' :: rest))) =
        .ok (es, left ++ '\x7d' :: rest) := by
  induction reads generalizing pieces fuel first before with
  | nil =>
    cases spelled
    obtain ⟨fuel, rfl⟩ := Nat.exists_eq_succ_of_ne_zero (Nat.ne_of_gt enough)
    have all : Blanks (before ++ blanks) := blanks_append.mpr ⟨leading, blank⟩
    refine ⟨before ++ blanks, all, ?_⟩
    rw [upcoming_nil, List.nil_append, ← List.append_assoc]
    exact readMembers_none (nextKey_end first all)
  | @cons m e ms es member _ ih =>
    obtain ⟨fuel, rfl⟩ := Nat.exists_eq_succ_of_ne_zero (Nat.ne_of_gt (Nat.zero_lt_of_lt enough))
    obtain ⟨piece, pieces, rfl, written, later⟩ := spelled.uncons
    obtain ⟨same, value⟩ := member
    have closed : Closes (upcoming false pieces ++ (blanks ++ '\x7d' :: rest)) :=
      closes_upcoming pieces blank (by decide)
    obtain ⟨inner, colon, t, after, trailing, next, name, passed, stands⟩ :=
      written.enter first leading closed
    rw [same] at name
    obtain ⟨left, hleft, others⟩ := ih false later (Nat.lt_of_succ_lt_succ enough) trailing
    refine ⟨left, hleft, ?_⟩
    rw [upcoming_cons, List.append_assoc, List.append_assoc,
      readMembers_some next name passed (value.of_stands stands), others]
    rfl

lemma readDict_of_members {es : List (String × α)} (leading : Blanks before)
    (members : readMembers read (s.length + 1) true s = .ok (es, t)) (ends : endObject t = .ok u) :
    readDict read (before ++ '\x7b' :: s) = .ok (.ofList es, u) := by
  rw [readDict, skipBlanks_append leading, skipBlanks_cons rfl]
  simp [members, ends, bind, Except.bind, pure, Except.pure]

lemma reads_dict {es : List (String × α)} (reads : List.Forall₂ (ReadsMember read) ms es) :
    Reads (readDict read) (.object ms) (.ofList es) := by
  intro before s rest leading spelling _
  cases spelling with
  | @object _ pieces blanks members blank =>
    obtain ⟨left, hleft, read⟩ := readMembers_spelled true rest members reads
      (length_lt_commaSeparated pieces blanks '\x7d' rest) blanks_nil blank
    simp only [List.cons_append, List.append_assoc, List.nil_append]
    exact readDict_of_members leading read (endObject_end hleft)

/-- A dictionary of texts, spelled with its entries in any order. -/
lemma reads_texts (expected : String) {d : Dict String} {es : List (String × String)}
    (h : es.Perm d.toList) :
    Reads (readDict (readString expected)) (.object (es.map fun e => (e.1, .text e.2))) d := by
  have members : List.Forall₂ (ReadsMember (readString expected))
      (es.map fun e => (e.1, .text e.2)) es := by
    rw [List.forall₂_map_left_iff, List.forall₂_same]
    exact fun e _ => ⟨rfl, reads_text expected e.2⟩
  have read := reads_dict members
  rwa [Dict.ofList_of_perm h] at read

/-! ### Records -/

/-- Whether the members of an object give values to fields of a record, one after the other, and no
field is given a value twice. The names of the fields with values are collected. -/
inductive RecordShape.Takes (shape : RecordShape ρ) :
    List String → ρ → List (String × Value) → List String → ρ → Prop
  | nil {seen : List String} {r : ρ} : Takes shape seen r [] seen r
  | field {seen seen' : List String} {r r₁ r' : ρ} {name : String} {v : Value}
      {ms : List (String × Value)} {f : RecordField ρ}
      (known : shape.fields.find? (fun f => f.name = name) = some f) (fresh : name ∉ seen)
      (value : Reads (f.read r) v r₁) (later : Takes shape (name :: seen) r₁ ms seen' r') :
      Takes shape seen r ((name, v) :: ms) seen' r'

/-- Whether the pieces of an object give values to fields of a record likewise, where members for
other fields may stand anywhere. -/
inductive RecordShape.Fills (shape : RecordShape ρ) :
    List String → ρ → List (List Char) → List String → ρ → Prop
  | nil {seen : List String} {r : ρ} : Fills shape seen r [] seen r
  | field {seen seen' : List String} {r r₁ r' : ρ} {key : String} {texts : Texts}
      {piece : List Char} {pieces : List (List Char)} {f : RecordField ρ}
      (member : MemberText key texts piece)
      (known : shape.fields.find? (fun f => f.name = key) = some f) (fresh : key ∉ seen)
      (value : ReadsTexts (f.read r) texts r₁) (later : Fills shape (key :: seen) r₁ pieces seen' r') :
      Fills shape seen r (piece :: pieces) seen' r'
  | other {seen seen' : List String} {r r' : ρ} {key : String} {piece : List Char}
      {pieces : List (List Char)} (member : MemberText key WellFormed piece)
      (unknown : shape.fields.find? (fun f => f.name = key) = none)
      (later : Fills shape seen r pieces seen' r') : Fills shape seen r (piece :: pieces) seen' r'

variable {shape : RecordShape ρ} {seen seen' : List String} {r r₁ r' : ρ} {f : RecordField ρ}

lemma RecordShape.Takes.fills (takes : shape.Takes seen r ms seen' r')
    (spelled : MemberSpellings ms pieces) : shape.Fills seen r pieces seen' r' := by
  induction takes generalizing pieces with
  | nil =>
    cases spelled
    exact .nil
  | field known fresh value _ ih =>
    obtain ⟨piece, pieces, rfl, written, later⟩ := spelled.uncons
    exact .field written known fresh value (ih later)

lemma readByName_none (h : nextKey first s = .ok none) :
    shape.readByName (fuel + 1) first seen r s = .ok ((r, seen), s) := by
  simp [RecordShape.readByName, h, bind, Except.bind, pure, Except.pure]

lemma readByName_field {key : String} {inner colon : List Char}
    (next : nextKey first s = .ok (some inner)) (name : readText inner = .ok (key.toList, colon))
    (passed : skipColon colon = .ok t)
    (known : shape.fields.find? (fun f => f.name = key) = some f) (fresh : key ∉ seen)
    (value : f.read r t = .ok (r₁, u)) :
    shape.readByName (fuel + 1) first seen r s =
      shape.readByName fuel false (key :: seen) r₁ u := by
  simp [RecordShape.readByName, next, name, passed, known, fresh, value, bind, Except.bind]

lemma readByName_other {key : String} {inner colon : List Char}
    (next : nextKey first s = .ok (some inner)) (name : readText inner = .ok (key.toList, colon))
    (passed : skipColon colon = .ok t)
    (unknown : shape.fields.find? (fun f => f.name = key) = none) (value : skipValue t = .ok u) :
    shape.readByName (fuel + 1) first seen r s = shape.readByName fuel false seen r u := by
  simp [RecordShape.readByName, next, name, passed, unknown, value, bind, Except.bind]

lemma readByName_pieces (first : Bool) (rest : List Char) (fills : shape.Fills seen r pieces seen' r')
    (enough : pieces.length < fuel) (leading : Blanks before) (blank : Blanks blanks) :
    ∃ left, Blanks left ∧
      shape.readByName fuel first seen r
          (before ++ (upcoming first pieces ++ (blanks ++ '\x7d' :: rest))) =
        .ok ((r', seen'), left ++ '\x7d' :: rest) := by
  induction fills generalizing fuel first before with
  | nil =>
    obtain ⟨fuel, rfl⟩ := Nat.exists_eq_succ_of_ne_zero (Nat.ne_of_gt enough)
    have all : Blanks (before ++ blanks) := blanks_append.mpr ⟨leading, blank⟩
    refine ⟨before ++ blanks, all, ?_⟩
    rw [upcoming_nil, List.nil_append, ← List.append_assoc]
    exact readByName_none (nextKey_end first all)
  | @field _ _ _ _ _ _ _ _ pieces _ member known fresh value _ ih =>
    obtain ⟨fuel, rfl⟩ := Nat.exists_eq_succ_of_ne_zero (Nat.ne_of_gt (Nat.zero_lt_of_lt enough))
    have closed : Closes (upcoming false pieces ++ (blanks ++ '\x7d' :: rest)) :=
      closes_upcoming pieces blank (by decide)
    obtain ⟨inner, colon, t, after, trailing, next, name, passed, stands⟩ :=
      member.enter first leading closed
    obtain ⟨left, hleft, others⟩ := ih false (Nat.lt_of_succ_lt_succ enough) trailing
    refine ⟨left, hleft, ?_⟩
    rw [upcoming_cons, List.append_assoc, List.append_assoc,
      readByName_field next name passed known fresh (value.of_stands stands), others]
  | @other _ _ _ _ _ _ pieces member unknown _ ih =>
    obtain ⟨fuel, rfl⟩ := Nat.exists_eq_succ_of_ne_zero (Nat.ne_of_gt (Nat.zero_lt_of_lt enough))
    have closed : Closes (upcoming false pieces ++ (blanks ++ '\x7d' :: rest)) :=
      closes_upcoming pieces blank (by decide)
    obtain ⟨inner, colon, t, after, trailing, next, name, passed, stands⟩ :=
      member.enter first leading closed
    obtain ⟨left, hleft, others⟩ := ih false (Nat.lt_of_succ_lt_succ enough) trailing
    refine ⟨left, hleft, ?_⟩
    rw [upcoming_cons, List.append_assoc, List.append_assoc,
      readByName_other next name passed unknown (skipValue_of_stands stands), others]

lemma read_of_members (leading : Blanks before)
    (members : shape.readByName (s.length + 1) true [] shape.start s = .ok ((r, seen), t))
    (complete : ∀ f ∈ shape.fields, f.required → f.name ∈ seen) (ends : endObject t = .ok u) :
    shape.read (before ++ '\x7b' :: s) = .ok (r, u) := by
  have none : shape.fields.find? (fun f => f.required && !decide (f.name ∈ seen)) = none := by
    simpa [List.find?_eq_none] using complete
  rw [RecordShape.read, skipBlanks_append leading, skipBlanks_cons rfl]
  simp [members, ends, none, bind, Except.bind, pure, Except.pure]

lemma reads_record (takes : shape.Takes [] shape.start ms seen r)
    (complete : ∀ f ∈ shape.fields, f.required → f.name ∈ seen) :
    Reads shape.read (.object ms) r := by
  intro before s rest leading spelling _
  cases spelling with
  | @object _ pieces blanks members blank =>
    obtain ⟨left, hleft, read⟩ := readByName_pieces true rest (takes.fills members)
      (length_lt_commaSeparated pieces blanks '\x7d' rest) blanks_nil blank
    simp only [List.cons_append, List.append_assoc, List.nil_append]
    exact read_of_members leading read complete (endObject_end hleft)

/-! ### Documents -/

/-- A document with one of these texts, and blanks around it. -/
lemma ReadsTexts.document (h : ReadsTexts read texts a) (leading : Blanks before) (text : texts s)
    (trailing : Blanks blanks) :
    readDocument read (.ofList (before ++ (s ++ blanks))) = .ok a := by
  have closed : Closes blanks := fun c hc => .inl (trailing c (List.mem_of_mem_head? hc))
  have passed : skipBlanks blanks = [] := by
    rw [← List.append_nil blanks, skipBlanks_append trailing]
    rfl
  simp [readDocument, h leading text closed, passed, bind, Except.bind, pure, Except.pure]

lemma Reads.document_compact (h : Reads read v a) : readDocument read v.toCompact = .ok a := by
  have read := h.document blanks_nil (spelling_compact v) blanks_nil
  rwa [List.nil_append, List.append_nil] at read

lemma Reads.document_pretty (h : Reads read v a) : readDocument read v.toPretty = .ok a := by
  have read := h.document blanks_nil (spelling_pretty 0 v) blanks_nil
  rwa [List.nil_append, List.append_nil] at read

end Conveyor.Json
