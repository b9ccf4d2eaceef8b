import Conveyor.Proofs.Json.Grammar

/-!
# Spellings

A value can be spelled in many ways: any blanks may stand around the tokens of a list or an object,
and characters may be escaped in texts. The compact form and the pretty form of a value are two of
its spellings.
-/

namespace Conveyor.Json

open Value

/-! ### Spelled values -/

mutual

/-- The texts that spell a value. -/
inductive Spelling : Value → List Char → Prop
  | nat (n : Nat) : Spelling (.nat n) (Nat.toDigits 10 n)
  | bool (b : Bool) : Spelling (.bool b) (writeBool b)
  | text (s : String) {k : List Char} (h : TextSpelling s.toList k) : Spelling (.text s) ('"' :: k)
  | list {vs : List Value} {pieces : List (List Char)} {blanks : List Char}
      (elements : ElementSpellings vs pieces) (blank : Blanks blanks) :
      Spelling (.list vs) ('[' :: (commaSeparated pieces ++ (blanks ++ [']'])))
  | object {ms : List (String × Value)} {pieces : List (List Char)} {blanks : List Char}
      (members : MemberSpellings ms pieces) (blank : Blanks blanks) :
      Spelling (.object ms) ('\x7b' :: (commaSeparated pieces ++ (blanks ++ ['\x7d'])))

/-- The pieces of text that spell the elements of a list, with the blanks around them. -/
inductive ElementSpellings : List Value → List (List Char) → Prop
  | nil : ElementSpellings [] []
  | cons {v : Value} {vs : List Value} {pieces : List (List Char)} {before s after : List Char}
      (leading : Blanks before) (value : Spelling v s) (trailing : Blanks after)
      (later : ElementSpellings vs pieces) :
      ElementSpellings (v :: vs) ((before ++ (s ++ after)) :: pieces)

/-- The pieces of text that spell the members of an object, with the blanks around them. -/
inductive MemberSpellings : List (String × Value) → List (List Char) → Prop
  | nil : MemberSpellings [] []
  | cons (key : String) {v : Value} {ms : List (String × Value)} {pieces : List (List Char)}
      {before k left right s after : List Char} (leading : Blanks before)
      (name : TextSpelling key.toList k) (beforeColon : Blanks left) (afterColon : Blanks right)
      (value : Spelling v s) (trailing : Blanks after) (later : MemberSpellings ms pieces) :
      MemberSpellings ((key, v) :: ms)
        ((before ++ ('"' :: (k ++ (left ++ ':' :: (right ++ (s ++ after)))))) :: pieces)

end

variable {v : Value} {vs : List Value} {ms : List (String × Value)} {pieces : List (List Char)}
  {s : List Char}

mutual

theorem wellFormed_of_spelling {v : Value} {s : List Char} : Spelling v s → WellFormed s
  | .nat n                 => .number (numberText_toDigits n)
  | .bool b                => .bool b
  | .text _ h              => .text h.body
  | .list elements blank   => .nested (wellFormed_of_elementSpellings elements) blank
  | .object members blank  => .nested (wellFormed_of_memberSpellings members) blank

theorem wellFormed_of_elementSpellings {vs : List Value} {pieces : List (List Char)} :
    ElementSpellings vs pieces → WellFormedPieces .list pieces
  | .nil                                => .nil
  | .cons leading value trailing later =>
    .cons leading .list (wellFormed_of_spelling value) trailing (wellFormed_of_elementSpellings later)

theorem wellFormed_of_memberSpellings {ms : List (String × Value)} {pieces : List (List Char)} :
    MemberSpellings ms pieces → WellFormedPieces .object pieces
  | .nil => .nil
  | .cons _ leading name beforeColon afterColon value trailing later => by
    have spelled := WellFormedPieces.cons leading (.object name.body beforeColon afterColon)
      (wellFormed_of_spelling value) trailing (wellFormed_of_memberSpellings later)
    simpa only [List.cons_append, List.append_assoc] using spelled

end

lemma Spelling.begins (h : Spelling v s) : ∃ c t, s = c :: t ∧ Opens c :=
  (wellFormed_of_spelling h).begins

lemma MemberSpellings.uncons {m : String × Value} (h : MemberSpellings (m :: ms) pieces) :
    ∃ piece later, pieces = piece :: later ∧ MemberText m.1 (Spelling m.2) piece ∧
      MemberSpellings ms later := by
  cases h with
  | cons _ leading name beforeColon afterColon value trailing later =>
    exact ⟨_, _, rfl, .intro leading name beforeColon afterColon value trailing, later⟩

/-! ### Compact values -/

mutual

theorem spelling_compact : (v : Value) → Spelling v (compact v)
  | .nat n          => .nat n
  | .bool b         => .bool b
  | .text s         => .text s (textSpelling_escape _)
  | .list elements  => .list (elementSpellings_compact elements) blanks_nil
  | .object members => .object (memberSpellings_compact members) blanks_nil

theorem elementSpellings_compact :
    (vs : List Value) → ElementSpellings vs (compactElements vs)
  | []      => .nil
  | v :: vs => by
    have spelled := ElementSpellings.cons blanks_nil (spelling_compact v) blanks_nil
      (elementSpellings_compact vs)
    rwa [List.nil_append, List.append_nil] at spelled

theorem memberSpellings_compact :
    (ms : List (String × Value)) → MemberSpellings ms (compactMembers ms)
  | []           => .nil
  | (k, v) :: ms => by
    have spelled := MemberSpellings.cons k blanks_nil (textSpelling_escape _) blanks_nil blanks_nil
      (spelling_compact v) blanks_nil (memberSpellings_compact ms)
    rw [List.nil_append, List.nil_append, List.nil_append, List.append_nil] at spelled
    exact spelled

end

/-! ### Pretty values -/

@[simp] lemma blanks_newLine (level : Nat) : Blanks (newLine level) := by
  intro c hc
  simp only [newLine, List.mem_cons, List.mem_replicate] at hc
  rcases hc with rfl | ⟨-, rfl⟩ <;> rfl

lemma ElementSpellings.indent (h : ElementSpellings vs pieces) {blanks : List Char}
    (blank : Blanks blanks) : ElementSpellings vs (pieces.map (blanks ++ ·)) := by
  induction vs generalizing pieces with
  | nil =>
    cases h
    exact .nil
  | cons v vs ih =>
    cases h with
    | cons leading value trailing later =>
      have spelled := ElementSpellings.cons (blanks_append.mpr ⟨blank, leading⟩) value trailing
        (ih later)
      rwa [List.append_assoc] at spelled

lemma MemberSpellings.indent (h : MemberSpellings ms pieces) {blanks : List Char}
    (blank : Blanks blanks) : MemberSpellings ms (pieces.map (blanks ++ ·)) := by
  induction ms generalizing pieces with
  | nil =>
    cases h
    exact .nil
  | cons m ms ih =>
    cases h with
    | cons key leading name left right value trailing later =>
      have spelled := MemberSpellings.cons key (blanks_append.mpr ⟨blank, leading⟩) name left right
        value trailing (ih later)
      rwa [List.append_assoc] at spelled

lemma bracketed_eq (level : Nat) (opening closing : Char) (pieces : List (List Char)) :
    ∃ blanks, Blanks blanks ∧ bracketed level opening closing pieces =
      opening :: (commaSeparated (pieces.map (newLine (level + 1) ++ ·)) ++ (blanks ++ [closing])) := by
  cases pieces with
  | nil => exact ⟨[], blanks_nil, rfl⟩
  | cons piece pieces => exact ⟨newLine level, blanks_newLine level, by simp [bracketed]⟩

mutual

theorem spelling_pretty (level : Nat) : (v : Value) → Spelling v (pretty level v)
  | .nat n          => .nat n
  | .bool b         => .bool b
  | .text s         => .text s (textSpelling_escape _)
  | .list elements  => by
    obtain ⟨blanks, blank, written⟩ :=
      bracketed_eq level '[' ']' (prettyElements (level + 1) elements)
    rw [pretty, written]
    exact .list ((elementSpellings_pretty (level + 1) elements).indent (blanks_newLine _)) blank
  | .object members => by
    obtain ⟨blanks, blank, written⟩ :=
      bracketed_eq level '\x7b' '\x7d' (prettyMembers (level + 1) members)
    rw [pretty, written]
    exact .object ((memberSpellings_pretty (level + 1) members).indent (blanks_newLine _)) blank

theorem elementSpellings_pretty (level : Nat) :
    (vs : List Value) → ElementSpellings vs (prettyElements level vs)
  | []      => .nil
  | v :: vs => by
    have spelled := ElementSpellings.cons blanks_nil (spelling_pretty level v) blanks_nil
      (elementSpellings_pretty level vs)
    rwa [List.nil_append, List.append_nil] at spelled

theorem memberSpellings_pretty (level : Nat) :
    (ms : List (String × Value)) → MemberSpellings ms (prettyMembers level ms)
  | []           => .nil
  | (k, v) :: ms => by
    have space : Blanks [' '] := by simp [Blanks, isBlank]
    have spelled := MemberSpellings.cons k blanks_nil (textSpelling_escape _) blanks_nil space
      (spelling_pretty level v) blanks_nil (memberSpellings_pretty level ms)
    rw [List.nil_append, List.nil_append, List.append_nil] at spelled
    exact spelled

end

end Conveyor.Json
