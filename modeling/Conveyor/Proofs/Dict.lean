import Conveyor.Dict
import Mathlib.Data.List.Nodup

/-!
# Dictionaries and the order of their entries

A dictionary can be made of its entries in any order.
-/

namespace Conveyor.Dict

variable {α : Type}

lemma perm_putEntry {key : String} {value : α} {entries : List (String × α)}
    (absent : key ∉ entries.map Prod.fst) :
    (putEntry key value entries).Perm ((key, value) :: entries) := by
  induction entries with
  | nil => rfl
  | cons entry rest ih =>
    simp only [List.map_cons, List.mem_cons, not_or] at absent
    obtain ⟨other, absent⟩ := absent
    rw [putEntry, if_neg other]
    split
    · rfl
    · exact ((ih absent).cons entry).trans (.swap ..)

lemma nodup_keys (d : Dict α) : (d.toList.map Prod.fst).Nodup := by
  rw [List.Nodup, List.pairwise_map]
  refine d.increasing.imp fun {a b} before same => ?_
  rw [same] at before
  exact String.lt_irrefl _ before

lemma perm_insertMany {d : Dict α} {entries : List (String × α)}
    (distinct : ((d.toList ++ entries).map Prod.fst).Nodup) :
    (d.insertMany entries).toList.Perm (d.toList ++ entries) := by
  induction entries generalizing d with
  | nil => rw [List.append_nil]; rfl
  | cons entry entries ih =>
    have absent : entry.1 ∉ d.toList.map Prod.fst := by
      intro present
      rw [List.map_append, List.map_cons] at distinct
      exact (List.nodup_append.mp distinct).2.2 _ present _ List.mem_cons_self rfl
    have inserted : (d.insert entry.1 entry.2).toList.Perm (entry :: d.toList) :=
      perm_putEntry absent
    have moved : ((d.insert entry.1 entry.2).toList ++ entries).Perm
        (d.toList ++ entry :: entries) :=
      (inserted.append_right entries).trans List.perm_middle.symm
    exact (ih ((moved.map Prod.fst).nodup_iff.mpr distinct)).trans moved

/-- Two dictionaries with the same entries are equal, because the entries are sorted. -/
lemma eq_of_perm {d d' : Dict α} (h : d.toList.Perm d'.toList) : d = d' := by
  obtain ⟨entries, increasing⟩ := d
  obtain ⟨entries', increasing'⟩ := d'
  have same : entries = entries' := by
    apply h.eq_of_pairwise _ increasing increasing'
    intro a b _ _ before after
    exact absurd (String.lt_trans before after) (String.lt_irrefl _)
  subst same
  rfl

lemma eq_empty_iff {d : Dict α} : d = empty ↔ d.toList = [] := by
  constructor
  · rintro rfl
    rfl
  · intro none
    apply eq_of_perm
    rw [none]
    rfl

lemma ofList_of_perm {d : Dict α} {entries : List (String × α)} (h : entries.Perm d.toList) :
    ofList entries = d := by
  have distinct : ((toList (empty : Dict α) ++ entries).map Prod.fst).Nodup :=
    (h.map Prod.fst).nodup_iff.mpr d.nodup_keys
  exact eq_of_perm ((perm_insertMany distinct).trans h)

/-- A look-up finds the entries of a dictionary. -/
lemma get?_eq_some_iff {d : Dict α} {key : String} {value : α} :
    d.get? key = some value ↔ (key, value) ∈ d.toList := by
  obtain ⟨entries, increasing⟩ := d
  show entries.lookup key = some value ↔ (key, value) ∈ entries
  induction entries with
  | nil => simp
  | cons e rest ih =>
    obtain ⟨above, sorted⟩ := List.pairwise_cons.mp increasing
    rw [lookup_cons_ite, List.mem_cons]
    by_cases same : key = e.1
    · subst same
      have absent : (e.1, value) ∉ rest := fun h => String.lt_irrefl e.1 (above (e.1, value) h)
      rw [if_pos rfl]
      constructor
      · rintro ⟨⟩
        exact .inl rfl
      · rintro (h | h)
        · rw [← h]
        · exact absurd h absent
    · rw [if_neg same, ih sorted]
      exact ⟨.inr, fun h => h.resolve_left fun e' => same (e' ▸ rfl)⟩

/-- Two dictionaries that answer every look-up alike are equal. -/
lemma ext_get? {d d' : Dict α} (h : ∀ key, d.get? key = d'.get? key) : d = d' := by
  apply eq_of_perm
  rw [List.perm_ext_iff_of_nodup (List.Nodup.of_map _ d.nodup_keys)
    (List.Nodup.of_map _ d'.nodup_keys)]
  intro e
  rw [← get?_eq_some_iff, ← get?_eq_some_iff, h]

end Conveyor.Dict
