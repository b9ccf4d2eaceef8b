import Conveyor.Path
import Mathlib.Tactic.Common

/-!
# Names as paths

The steps of a path that go to names only go to texts that could be names in a directory
(`isName_of_mem_pathSteps`). So a text is its own only step if and only if it is a name
(`pathSteps_eq_name_iff`): what the steps do not show, such as a slash at the end, is still in the
text. A name that is put after the path of a directory is one step more (`pathSteps_joinPath`).
-/

namespace Conveyor

/-! ### Names -/

/-- Whether a text is a name that a directory can have for an entry. -/
structure IsName (name : String) : Prop where
  nonempty : name ≠ ""
  notHere : name ≠ "."
  notParent : name ≠ ".."
  slash : '/' ∉ name.toList

instance (name : String) : Decidable (IsName name) :=
  decidable_of_iff (name ≠ "" ∧ name ≠ "." ∧ name ≠ ".." ∧ '/' ∉ name.toList)
    ⟨fun ⟨a, b, c, d⟩ => ⟨a, b, c, d⟩, fun ⟨a, b, c, d⟩ => ⟨a, b, c, d⟩⟩

variable {name path : String} {s piece : List Char} {c : Char}

/-! ### Pieces -/

lemma Text.pieces_of_not_mem (h : c ∉ s) : pieces c s = [s] := by
  induction s with
  | nil => rfl
  | cons d s ih =>
    rw [List.mem_cons, not_or] at h
    rw [pieces, if_neg (Ne.symm h.1), ih h.2]

lemma Text.pieces_append (c : Char) (s t : List Char) :
    pieces c (s ++ c :: t) = pieces c s ++ pieces c t := by
  induction s with
  | nil => simp [pieces]
  | cons d s ih =>
    obtain ⟨piece, rest, h⟩ := List.exists_cons_of_ne_nil (pieces_ne_nil c s)
    rw [List.cons_append, pieces, pieces, ih, h]
    split <;> rfl

/-! ### Steps -/

lemma PathStep.ofPiece?_name (h : IsName name) : ofPiece? name.toList = some (.name name) := by
  have nonempty : name.toList ≠ [] := by
    simpa using h.nonempty
  have notHere : name.toList ≠ ['.'] := fun e => h.notHere (String.toList_inj.mp e)
  have notParent : name.toList ≠ ['.', '.'] := fun e => h.notParent (String.toList_inj.mp e)
  unfold ofPiece?
  split
  · exact absurd ‹_› nonempty
  · exact absurd ‹_› notHere
  · exact absurd ‹_› notParent
  · rw [String.ofList_toList]

/-- Only for an empty first piece does it matter whether there are more pieces. -/
lemma PathStep.first?_congr {piece : List Char} {later later' : List (List Char)}
    (h : piece = [] → (later = [] ↔ later' = [])) : first? piece later = first? piece later' := by
  cases piece with
  | cons c cs =>
    by_cases dot : c :: cs = ['.']
    · rw [dot]
      rfl
    · simp [first?]
  | nil =>
    have same := h rfl
    cases later with
    | nil => rw [same.mp rfl]
    | cons _ _ =>
      cases later' with
      | nil => cases same.mpr rfl
      | cons _ _ => rfl

lemma pathSteps_of_pieces {path : String} {piece : List Char} {later : List (List Char)}
    (h : Text.pieces '/' path.toList = piece :: later) :
    pathSteps path = (PathStep.first? piece later).toList ++ later.filterMap PathStep.ofPiece? := by
  rw [pathSteps, h]

lemma PathStep.isName_of_ofPiece? (h : ofPiece? piece = some (.name name)) (slash : '/' ∉ piece) :
    IsName name := by
  unfold ofPiece? at h
  split at h
  case h_1 => cases h
  case h_2 => cases h
  case h_3 => cases h
  case h_4 empty dot dots =>
    cases h
    refine ⟨fun e => empty ?_, fun e => dot ?_, fun e => dots ?_, by simpa using slash⟩
    · simpa using e
    · simpa using congrArg String.toList e
    · simpa using congrArg String.toList e

lemma PathStep.isName_of_first? {later : List (List Char)}
    (h : first? piece later = some (.name name)) (slash : '/' ∉ piece) : IsName name := by
  unfold first? at h
  split at h
  · cases h
  · cases h
  · exact isName_of_ofPiece? h slash

/-- Every step to a name is a step to one piece between the slashes. -/
lemma isName_of_mem_pathSteps (h : .name name ∈ pathSteps path) : IsName name := by
  obtain ⟨piece, later, pieces⟩ :=
    List.exists_cons_of_ne_nil (Text.pieces_ne_nil '/' path.toList)
  have slash : ∀ p ∈ piece :: later, '/' ∉ p := fun p hp =>
    Text.separator_not_mem_of_mem_pieces (pieces ▸ hp)
  rw [pathSteps_of_pieces pieces, List.mem_append, Option.mem_toList, List.mem_filterMap] at h
  rcases h with first | ⟨p, hp, step⟩
  · exact PathStep.isName_of_first? first (slash piece List.mem_cons_self)
  · exact PathStep.isName_of_ofPiece? step (slash p (List.mem_cons_of_mem _ hp))

lemma pathSteps_name (h : IsName name) : pathSteps name = [.name name] := by
  rw [pathSteps_of_pieces (Text.pieces_of_not_mem h.slash)]
  have first : PathStep.first? name.toList [] = PathStep.ofPiece? name.toList := by
    have notHere : name.toList ≠ ['.'] := fun e => h.notHere (String.toList_inj.mp e)
    unfold PathStep.first?
    split
    · contradiction
    · exact absurd ‹_› notHere
    · rfl
  rw [first, PathStep.ofPiece?_name h]
  rfl

/-- A text is its own only step if and only if it is a name. -/
theorem pathSteps_eq_name_iff : pathSteps name = [.name name] ↔ IsName name :=
  ⟨fun h => isName_of_mem_pathSteps (h ▸ List.mem_singleton_self _), pathSteps_name⟩

/-! ### Names after a path -/

/-- A further piece that is a name is a further step, and pieces that are no steps may be left
out before it. -/
lemma pathSteps_concat {path longer : String} {piece : List Char} {later later' : List (List Char)}
    (h : IsName name) (shorter : Text.pieces '/' path.toList = piece :: later)
    (whole : Text.pieces '/' longer.toList = piece :: (later' ++ [name.toList]))
    (same : later'.filterMap PathStep.ofPiece? = later.filterMap PathStep.ofPiece?)
    (more : piece = [] → later ≠ []) : pathSteps longer = pathSteps path ++ [.name name] := by
  have first : PathStep.first? piece (later' ++ [name.toList]) = PathStep.first? piece later := by
    apply PathStep.first?_congr
    intro empty
    simp [more empty]
  have step : [name.toList].filterMap PathStep.ofPiece? = [.name name] := by
    simp [PathStep.ofPiece?_name h]
  rw [pathSteps_of_pieces shorter, pathSteps_of_pieces whole, first, List.filterMap_append, same,
    step, List.append_assoc]

lemma pathSteps_append_of_endsWith {directory : String} (ends : directory.endsWith "/")
    (h : IsName name) : pathSteps (directory ++ name) = pathSteps directory ++ [.name name] := by
  rw [String.endsWith_eq_endsWith_toSlice, String.Slice.endsWith_string_iff,
    String.copy_toSlice] at ends
  obtain ⟨inner, written⟩ := ends
  have written : inner ++ ['/'] = directory.toList := written
  obtain ⟨piece, later, pieces⟩ := List.exists_cons_of_ne_nil (Text.pieces_ne_nil '/' inner)
  have shorter : Text.pieces '/' directory.toList = piece :: (later ++ [[]]) := by
    rw [← written, Text.pieces_append, pieces]
    rfl
  have whole : Text.pieces '/' (directory ++ name).toList = piece :: (later ++ [name.toList]) := by
    rw [String.toList_append, ← written, List.append_assoc, List.singleton_append,
      Text.pieces_append, pieces, Text.pieces_of_not_mem h.slash]
    rfl
  apply pathSteps_concat h shorter whole
  · have nothing : PathStep.ofPiece? [] = none := rfl
    simp [nothing]
  · simp

lemma pathSteps_append_slash {directory : String} (nonempty : directory ≠ "")
    (h : IsName name) :
    pathSteps (directory ++ "/" ++ name) = pathSteps directory ++ [.name name] := by
  obtain ⟨piece, later, shorter⟩ :=
    List.exists_cons_of_ne_nil (Text.pieces_ne_nil '/' directory.toList)
  have slash : "/".toList = ['/'] := rfl
  have whole : Text.pieces '/' (directory ++ "/" ++ name).toList =
      piece :: (later ++ [name.toList]) := by
    rw [String.toList_append, String.toList_append, slash, List.append_assoc,
      List.singleton_append, Text.pieces_append, shorter, Text.pieces_of_not_mem h.slash]
    rfl
  apply pathSteps_concat h shorter whole rfl
  rintro rfl none
  -- a single empty piece is an empty text
  have text := Text.intercalate_pieces '/' directory.toList
  rw [shorter, none] at text
  exact nonempty (String.toList_inj.mp text.symm)

lemma IsName.relative (h : IsName name) : name.startsWith "/" = false := by
  rw [← Bool.not_eq_true, String.startsWith_string_iff]
  rintro ⟨rest, e⟩
  exact h.slash (e ▸ by simp)

/-- The path for a name leads on from the end of the path of the directory. -/
lemma pathSteps_joinPath (directory : String) (h : IsName name) :
    pathSteps (joinPath directory name) = pathSteps directory ++ [.name name] := by
  rw [joinPath, h.relative, if_neg (by simp)]
  by_cases empty : directory = ""
  · subst empty
    rw [if_pos (by rfl), String.empty_append, pathSteps_name h]
    rfl
  · by_cases ends : directory.endsWith "/"
    · rw [if_pos (by simp [ends]), pathSteps_append_of_endsWith ends h]
    · rw [if_neg (by simp [empty, ends]), pathSteps_append_slash empty h]

/-- Different names are different ways on from a directory. -/
lemma joinPath_injective {directory other : String} (h : IsName name) (h' : IsName other)
    (same : joinPath directory name = joinPath directory other) : name = other := by
  have steps := congrArg pathSteps same
  rw [pathSteps_joinPath directory h, pathSteps_joinPath directory h'] at steps
  cases List.append_cancel_left steps
  rfl

end Conveyor
