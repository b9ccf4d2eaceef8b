import Conveyor.Pool
import Mathlib.Algebra.BigOperators.Group.List.Basic
import Mathlib.Data.List.Infix
import Mathlib.Data.List.Nodup
import Mathlib.Data.List.NodupEquivFin

/-!
# The lanes in use

Which lanes of a dispatcher are in use, and how the operations on lanes change them: a change inside
one lane leaves all others alone (`Dispatcher.inUse_set`), lanes that are started join at the end
(`Dispatcher.inUse_append`), and shrinking keeps the first ones as they are (`Dispatcher.inUse_shrink`).
The lanes may be pipelines of any kind.
-/

namespace Conveyor

variable {σ P : Type} [Pipeline σ P]

/-! ### The choice of a lane -/

@[simp] lemma mem_cyclicFrom {n cursor position : Nat} :
    position ∈ cyclicFrom n cursor ↔ position < n := by
  rw [cyclicFrom, List.mem_append, or_comm, ← List.mem_append, List.take_append_drop,
    List.mem_range]

/-- The lane that was found has room. -/
lemma hasRoom_of_found {queues : List Channel} {cursor position : Nat}
    (h : reserveLane queues cursor = .found position) :
    (queues[position]?).any Channel.hasRoom = true := by
  simp only [reserveLane] at h
  split at h
  next found =>
    cases h
    exact List.find?_some (p := fun position => (queues[position]?).any Channel.hasRoom) found
  next => split at h <;> cases h

/-- If no lane is found, none has room. -/
lemma noRoom_of_not_found {queues : List Channel} {cursor : Nat}
    (h : ∀ position, reserveLane queues cursor ≠ .found position) :
    ∀ queue ∈ queues, queue.hasRoom = false := by
  intro queue hqueue
  simp only [reserveLane] at h
  split at h
  next position found => exact absurd rfl (h position)
  next none =>
    obtain ⟨position, hposition⟩ := List.mem_iff_getElem?.mp hqueue
    have inside : position < queues.length := (List.getElem?_eq_some_iff.mp hposition).1
    have noRoom := List.find?_eq_none.mp none position (mem_cyclicFrom.mpr inside)
    simpa [hposition] using noRoom

/-- The search goes on as long as some lane may have room later. -/
lemma open_of_wait {queues : List Channel} {cursor : Nat}
    (h : reserveLane queues cursor = .wait) : ∃ queue ∈ queues, queue.closed = false := by
  simp only [reserveLane] at h
  split at h
  next => cases h
  next =>
    split at h
    next => cases h
    next notAll => simpa using notAll

/-- The search is given up when no lane takes transactions any more. -/
lemma closed_of_impossible {queues : List Channel} {cursor : Nat}
    (h : reserveLane queues cursor = .impossible) : ∀ queue ∈ queues, queue.closed = true := by
  simp only [reserveLane] at h
  split at h
  next => cases h
  next =>
    split at h
    next all => simpa using all
    next => cases h

/-! ### Lists with one entry replaced -/

lemma forall_mem_set {α : Type} {P : α → Prop} {l : List α} {i : Nat} {a : α}
    (h : ∀ x ∈ l, P x) (ha : P a) : ∀ x ∈ l.set i a, P x := fun _ hx =>
  (List.mem_or_eq_of_mem_set hx).elim (h _) fun heq => heq ▸ ha

/-- The sum over a list with one entry replaced. -/
lemma sum_map_set {α M : Type} [AddCommMonoid M] {l : List α} {i : Nat} {a : α}
    (h : l[i]? = some a) (f : α → M) :
    ∃ rest, (l.map f).sum = f a + rest ∧ ∀ a', ((l.set i a').map f).sum = f a' + rest := by
  induction l generalizing i with
  | nil => cases h
  | cons first l ih =>
    cases i with
    | zero =>
      cases h
      exact ⟨(l.map f).sum, by simp, by simp⟩
    | succ i =>
      obtain ⟨rest, hsum, hset⟩ := ih h
      refine ⟨f first + rest, ?_, fun a' => ?_⟩
      · rw [List.map_cons, List.sum_cons, hsum, add_left_comm]
      · rw [List.set_cons_succ, List.map_cons, List.sum_cons, hset, add_left_comm]

/-- A list with one entry replaced, its entries numbered. -/
lemma zipIdx_set {α : Type} (l : List α) (i : Nat) (a : α) :
    (l.set i a).zipIdx = l.zipIdx.map fun x => if x.2 = i then (a, i) else x := by
  apply List.ext_getElem?
  intro j
  rw [List.getElem?_map, List.getElem?_zipIdx, List.getElem?_zipIdx, List.getElem?_set]
  by_cases hij : i = j
  · subst hij
    by_cases inside : i < l.length
    · simp [inside]
    · simp [inside]
  · simp only [hij, if_false]
    cases l[j]? <;> simp [Ne.symm hij]

/-! ### Changes of single lanes -/

namespace Dispatcher

variable {d d' : Dispatcher P}

lemma mem_inUse {lane : Lane P} {i : Nat} :
    (lane, i) ∈ d.inUse ↔ d.lanes[i]? = some lane ∧ lane.retired = false := by
  simp [inUse, List.mem_filter, List.mem_zipIdx_iff_getElem?]

/-- A change inside one lane leaves the others as they are. -/
lemma inUse_set {i : Nat} {lane lane' : Lane P} (hl : d.lanes[i]? = some lane)
    (retired : lane'.retired = lane.retired) :
    ({ d with lanes := d.lanes.set i lane' } : Dispatcher P).inUse =
      d.inUse.map fun l => if l.2 = i then (lane', i) else l := by
  simp only [inUse, zipIdx_set, List.filter_map]
  refine congrArg _ (List.filter_congr fun l hmem => ?_)
  have here := List.mem_zipIdx_iff_getElem?.mp hmem
  by_cases hi : l.2 = i
  · obtain rfl : lane = l.1 := by
      rw [hi, hl] at here
      exact Option.some.inj here
    simp [hi, retired]
  · simp [hi]

/-- The lanes in use, by their positions among all lanes. -/
def places (d : Dispatcher P) : List Nat := d.inUse.map Prod.snd

lemma size_eq (d : Dispatcher P) : d.size = d.places.length := (List.length_map _).symm

lemma places_set {i : Nat} {lane lane' : Lane P} (hl : d.lanes[i]? = some lane)
    (retired : lane'.retired = lane.retired) :
    ({ d with lanes := d.lanes.set i lane' } : Dispatcher P).places = d.places := by
  rw [places, inUse_set hl retired, List.map_map]
  refine List.map_congr_left fun l _ => ?_
  by_cases hi : l.2 = i <;> simp [hi]

lemma size_set {i : Nat} {lane lane' : Lane P} (hl : d.lanes[i]? = some lane)
    (retired : lane'.retired = lane.retired) :
    ({ d with lanes := d.lanes.set i lane' } : Dispatcher P).size = d.size := by
  rw [size_eq, places_set hl retired, size_eq]

/-- Lanes that are started join the others at the end. -/
lemma inUse_append (d : Dispatcher P) {new : List (Lane P)} {strays : List P}
    (used : ∀ lane ∈ new, lane.retired = false) :
    ({ d with lanes := d.lanes ++ new, strays } : Dispatcher P).inUse =
      d.inUse ++ new.zipIdx d.lanes.length := by
  have all : (new.zipIdx d.lanes.length).filter (fun l => !l.1.retired) =
      new.zipIdx d.lanes.length := by
    refine List.filter_eq_self.mpr fun l hl => ?_
    simp [used l.1 (List.fst_mem_of_mem_zipIdx hl)]
  simp [inUse, List.zipIdx_append, all]

lemma size_append (d : Dispatcher P) {new : List (Lane P)} {strays : List P}
    (used : ∀ lane ∈ new, lane.retired = false) :
    ({ d with lanes := d.lanes ++ new, strays } : Dispatcher P).size = d.size + new.length := by
  rw [size, inUse_append d used, List.length_append, List.length_zipIdx, size]

/-! ### Retiring lanes -/

lemma nodup_inUse (d : Dispatcher P) : (d.inUse.map Prod.snd).Nodup := by
  have numbers : (d.lanes.zipIdx.map Prod.snd).Nodup := by
    rw [List.zipIdx_map_snd]
    exact List.nodup_range'
  exact numbers.sublist (List.filter_sublist.map Prod.snd)

/-- A lane that is retired is not in use any more. -/
lemma inUse_retireAt (d : Dispatcher P) (i : Nat) (metrics : Metrics.Store) :
    (d.retireAt i metrics).1.inUse = d.inUse.filter fun l => l.2 ≠ i := by
  unfold retireAt
  split
  next none =>
    refine (List.filter_eq_self.mpr fun l hl => ?_).symm
    have here := (mem_inUse.mp hl).1
    simp only [ne_eq, decide_eq_true_eq]
    rintro rfl
    rw [none] at here
    cases here
  next lane hl =>
    have gone : (lane.retire metrics).1.retired = true := rfl
    simp only [inUse, zipIdx_set, List.filter_map, List.filter_filter]
    calc _ = ((d.lanes.zipIdx.filter fun l => l.2 ≠ i && !l.1.retired).map fun l =>
          if l.2 = i then ((lane.retire metrics).1, i) else l) := by
          refine congrArg _ (List.filter_congr fun l _ => ?_)
          by_cases hi : l.2 = i <;> simp [hi, gone]
      _ = _ := by
          refine (List.map_congr_left fun l hl => ?_).trans (List.map_id _)
          have other : l.2 ≠ i := by
            simp only [List.mem_filter, Bool.and_eq_true, decide_eq_true_eq] at hl
            exact hl.2.1
          rw [if_neg other, id]

lemma inUse_retireAll (d : Dispatcher P) (metrics : Metrics.Store) (ls : List (Lane P × Nat)) :
    (ls.foldl (fun (d, metrics) l => d.retireAt l.2 metrics) (d, metrics)).1.inUse =
      d.inUse.filter fun l => l.2 ∉ ls.map Prod.snd := by
  induction ls generalizing d metrics with
  | nil => simp
  | cons l ls ih =>
    have first := inUse_retireAt d l.2 metrics
    simp only [List.foldl_cons]
    generalize d.retireAt l.2 metrics = given at first ⊢
    rw [ih given.1 given.2, first, List.filter_filter]
    refine List.filter_congr fun x _ => ?_
    by_cases hx : x.2 = l.2 <;> simp [hx]

/-- Shrinking keeps the first lanes in use, as they are. -/
lemma inUse_shrink (d : Dispatcher P) (n : Nat) (metrics : Metrics.Store) :
    (d.shrink n metrics).1.inUse = d.inUse.take n := by
  rw [shrink, inUse_retireAll]
  have distinct := d.nodup_inUse
  rw [← List.take_append_drop n d.inUse, List.map_append, List.nodup_append] at distinct
  obtain ⟨-, -, apart⟩ := distinct
  conv_lhs => rw [← List.take_append_drop n d.inUse]
  rw [List.filter_append, List.filter_eq_self.mpr, List.filter_eq_nil_iff.mpr, List.append_nil]
  · intro l hl
    simp only [List.take_append_drop, List.map_reverse, List.mem_reverse, decide_eq_true_eq,
      not_not]
    exact List.mem_map_of_mem hl
  · intro l hl
    simp only [List.take_append_drop, List.map_reverse, List.mem_reverse, decide_eq_true_eq]
    exact fun hdrop => apart _ (List.mem_map_of_mem hl) _ hdrop rfl

/-- No lane is in use after all were retired. -/
lemma retired_of_shrink (d : Dispatcher P) (metrics : Metrics.Store) :
    ∀ lane ∈ (d.shrink 0 metrics).1.lanes, lane.retired = true := by
  intro lane hlane
  by_contra used
  obtain ⟨i, hi⟩ := List.mem_iff_getElem?.mp hlane
  have here : (lane, i) ∈ (d.shrink 0 metrics).1.inUse := mem_inUse.mpr ⟨hi, by simpa using used⟩
  simp [inUse_shrink] at here

lemma size_shrink (d : Dispatcher P) (n : Nat) (metrics : Metrics.Store) :
    (d.shrink n metrics).1.size = min n d.size := by
  rw [size, inUse_shrink, List.length_take, size]

end Dispatcher

end Conveyor
