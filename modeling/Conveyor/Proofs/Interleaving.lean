import Mathlib.Data.List.Infix
import Mathlib.Data.List.Nodup

/-!
# Interleavings

A list is an interleaving of some parts if each of its entries can be labelled with one of them such
that the entries with the same label are, in their order, the part.
-/

namespace Conveyor

variable {α β : Type} {parts parts' : ℕ → List α} {whole : List α}

/-- Whether a list is made up of all entries of its parts, each part in its order. -/
def Interleaves (parts : ℕ → List α) (whole : List α) : Prop :=
  ∃ labelled : List (ℕ × α), labelled.map Prod.snd = whole ∧
    ∀ i, (labelled.filter (·.1 = i)).map Prod.snd = parts i

namespace Interleaves

lemma nil : Interleaves (fun _ => ([] : List α)) [] := ⟨[], rfl, fun _ => rfl⟩

lemma congr (h : Interleaves parts whole) (same : ∀ i, parts' i = parts i) :
    Interleaves parts' whole := by
  obtain ⟨labelled, hwhole, hparts⟩ := h
  exact ⟨labelled, hwhole, fun i => (hparts i).trans (same i).symm⟩

/-- The next entries are those of one part. -/
lemma append (h : Interleaves parts whole) (i : ℕ) (more : List α)
    (here : parts' i = parts i ++ more) (others : ∀ j, j ≠ i → parts' j = parts j) :
    Interleaves parts' (whole ++ more) := by
  obtain ⟨labelled, rfl, hparts⟩ := h
  refine ⟨labelled ++ more.map fun a => (i, a), by simp [Function.comp_def], fun j => ?_⟩
  rw [List.filter_append, List.map_append, hparts, List.filter_map]
  by_cases hj : j = i
  · subst hj
    rw [here, List.filter_eq_self.mpr (by simp), List.map_map]
    exact congrArg _ (List.map_id more)
  · rw [others j hj, List.filter_eq_nil_iff.mpr (by simp [Ne.symm hj]), List.map_nil, List.map_nil,
      List.append_nil]

lemma map (h : Interleaves parts whole) (f : α → β) :
    Interleaves (fun i => (parts i).map f) (whole.map f) := by
  obtain ⟨labelled, rfl, hparts⟩ := h
  refine ⟨labelled.map fun l => (l.1, f l.2), by simp, fun i => ?_⟩
  change _ = (parts i).map f
  rw [← hparts, List.filter_map, List.map_map, List.map_map]
  rfl

/-- If each part goes on, the interleaving can go on with what is missing of them. -/
lemma extend (h : Interleaves parts whole) (grows : ∀ i, parts i <+: parts' i) (n : ℕ)
    (only : ∀ i, n ≤ i → parts' i = []) :
    ∃ whole', Interleaves parts' whole' ∧ whole <+: whole' := by
  -- the parts are completed one after the other
  suffices step : ∀ k, ∃ whole', Interleaves (fun i => if i < k then parts' i else parts i) whole' ∧
      whole <+: whole' by
    obtain ⟨whole', interleaves, grown⟩ := step n
    refine ⟨whole', interleaves.congr fun i => ?_, grown⟩
    split
    next => rfl
    next hi =>
      have none := only i (Nat.not_lt.mp hi)
      have empty := grows i
      rw [none] at empty
      rw [none, List.prefix_nil.mp empty]
  intro k
  induction k with
  | zero => exact ⟨whole, h.congr fun i => if_neg (Nat.not_lt_zero i), List.prefix_rfl⟩
  | succ k ih =>
    obtain ⟨whole', interleaves, grown⟩ := ih
    obtain ⟨more, hmore⟩ := grows k
    refine ⟨whole' ++ more, interleaves.append k more ?_ fun j hj => ?_,
      grown.trans (List.prefix_append _ _)⟩
    · rw [if_pos (Nat.lt_succ_self k), if_neg (Nat.lt_irrefl k), hmore]
    · have same : j < k + 1 ↔ j < k := by omega
      simp only [same]

/-- A list of which all entries are in one part is this part. -/
lemma alone (h : Interleaves parts whole) {i : ℕ} (others : ∀ j, j ≠ i → parts j = []) :
    whole = parts i := by
  obtain ⟨labelled, rfl, hparts⟩ := h
  have here : ∀ l ∈ labelled, l.1 = i := by
    intro l hl
    by_contra hne
    have member : l.2 ∈ (labelled.filter (·.1 = l.1)).map Prod.snd :=
      List.mem_map_of_mem (List.mem_filter.mpr ⟨hl, by simp⟩)
    rw [hparts, others l.1 hne] at member
    cases member
  rw [← hparts i, List.filter_eq_self.mpr fun l hl => by simpa using here l hl]

/-- The entries of some kind are in their places of the one part that has any of them. -/
lemma filter (h : Interleaves parts whole) {i : ℕ} (kind : α → Bool)
    (others : ∀ j, j ≠ i → ∀ a ∈ parts j, kind a = false) :
    whole.filter kind = (parts i).filter kind := by
  obtain ⟨labelled, rfl, hparts⟩ := h
  have some : Interleaves (fun j => (parts j).filter kind) ((labelled.map Prod.snd).filter kind) := by
    refine ⟨labelled.filter (kind ∘ Prod.snd), (List.filter_map ..).symm, fun j => ?_⟩
    change _ = (parts j).filter kind
    rw [← hparts, List.filter_map, List.filter_filter, List.filter_filter]
    refine congrArg _ (List.filter_congr fun l _ => ?_)
    exact Bool.and_comm _ _
  refine some.alone fun j hj => ?_
  rw [List.filter_eq_nil_iff]
  intro a ha
  rw [others j hj a ha]
  exact Bool.false_ne_true

/-- Different parts of a list without duplicates have no entries in common. -/
lemma disjoint (h : Interleaves parts whole) (distinct : whole.Nodup) {i j : ℕ} (hne : i ≠ j)
    {a : α} (hi : a ∈ parts i) : a ∉ parts j := by
  obtain ⟨labelled, rfl, hparts⟩ := h
  intro hj
  rw [← hparts] at hi hj
  obtain ⟨l, hl, rfl⟩ := List.mem_map.mp hi
  obtain ⟨l', hl', same⟩ := List.mem_map.mp hj
  obtain ⟨hmem, label⟩ := List.mem_filter.mp hl
  obtain ⟨hmem', label'⟩ := List.mem_filter.mp hl'
  obtain rfl := List.inj_on_of_nodup_map distinct hmem' hmem same
  exact hne ((of_decide_eq_true label).symm.trans (of_decide_eq_true label'))

lemma sublist (h : Interleaves parts whole) (i : ℕ) : (parts i).Sublist whole := by
  obtain ⟨labelled, rfl, hparts⟩ := h
  rw [← hparts]
  exact List.filter_sublist.map Prod.snd

end Interleaves

/-- Some entries of a list without duplicates are those that a look at them finds, in their order. -/
lemma filter_mem_of_sublist [DecidableEq α] {l some : List α} (h : some.Sublist l)
    (distinct : l.Nodup) : l.filter (· ∈ some) = some := by
  induction h with
  | slnil => rfl
  | @cons some l a sub ih =>
    obtain ⟨absent, distinct⟩ := List.nodup_cons.mp distinct
    have other : a ∉ some := fun h => absent (sub.subset h)
    rw [List.filter_cons_of_neg (by simpa using other), ih distinct]
  | @cons_cons some l a sub ih =>
    obtain ⟨absent, distinct⟩ := List.nodup_cons.mp distinct
    have same : l.filter (· ∈ a :: some) = l.filter (· ∈ some) := by
      refine List.filter_congr fun b hb => ?_
      have hne : b ≠ a := fun heq => absent (heq ▸ hb)
      simp [hne]
    rw [List.filter_cons_of_pos (by simp), same, ih distinct]

end Conveyor
