/-!
# Pieces

A text is cut at every occurrence of one character. There is always one piece more than there are
cuts, so a text without the character is a single piece, and a cut at an end leaves an empty piece.
-/

namespace Conveyor.Text

/-- The pieces of a text between the occurrences of a separator. -/
def pieces (separator : Char) : List Char → List (List Char)
  | []      => [[]]
  | c :: cs =>
    if c = separator then [] :: pieces separator cs
    else
      match pieces separator cs with
      | []            => [[c]]
      | piece :: rest => (c :: piece) :: rest

@[simp] theorem pieces_ne_nil (separator : Char) (s : List Char) : pieces separator s ≠ [] := by
  cases s with
  | nil => simp [pieces]
  | cons c cs =>
    simp only [pieces]
    split
    · simp
    · split <;> simp

/-- The pieces, with the separator put between them, make up the text. -/
theorem intercalate_pieces (separator : Char) (s : List Char) :
    [separator].intercalate (pieces separator s) = s := by
  induction s with
  | nil => simp [pieces]
  | cons c cs ih =>
    obtain ⟨piece, rest, h⟩ := List.exists_cons_of_ne_nil (pieces_ne_nil separator cs)
    rw [h] at ih
    by_cases hc : c = separator
    · simp [pieces, hc, h, List.intercalate_cons_cons, ih]
    · cases rest <;> simp_all [pieces, List.intercalate_cons_cons]

theorem separator_not_mem_of_mem_pieces {separator : Char} {s piece : List Char}
    (h : piece ∈ pieces separator s) : separator ∉ piece := by
  induction s generalizing piece with
  | nil => simp_all [pieces]
  | cons c cs ih =>
    obtain ⟨first, rest, hp⟩ := List.exists_cons_of_ne_nil (pieces_ne_nil separator cs)
    simp only [pieces, hp] at h ih
    split at h
    · rcases List.mem_cons.1 h with rfl | h
      · exact List.not_mem_nil
      · exact ih h
    · rename_i hc
      rcases List.mem_cons.1 h with rfl | h
      · exact List.not_mem_cons_of_ne_of_not_mem (Ne.symm hc) (ih List.mem_cons_self)
      · exact ih (List.mem_cons_of_mem _ h)

end Conveyor.Text
