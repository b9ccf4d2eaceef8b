import Mathlib.Data.Set.Finite.Lattice
import Mathlib.Order.Interval.Set.Nat

/-!
# Runs

A system goes from one state to another at events, each of which can take place in some states only.
-/

namespace Conveyor

variable {S E : Type} {step : S → E → Option S} {s s' : S} {events more : List E}

/-- The state after a sequence of events, if each of them can take place. -/
def runFrom (step : S → E → Option S) (s : S) : List E → Option S
  | []          => some s
  | e :: events => (step s e).bind fun s => runFrom step s events

/-- What holds of a state and is kept by the events of a run holds after it. -/
lemma runFrom_induction_mem {P : S → Prop}
    (keep : ∀ {s s' e}, e ∈ events → P s → step s e = some s' → P s') (h : P s)
    (hr : runFrom step s events = some s') : P s' := by
  induction events generalizing s with
  | nil => exact Option.some.inj hr ▸ h
  | cons e events ih =>
    obtain ⟨next, he, hr⟩ := Option.bind_eq_some_iff.mp hr
    refine ih (fun hmem => keep (List.mem_cons_of_mem _ hmem)) ?_ hr
    exact keep (List.mem_cons_self ..) h he

/-- What holds of a state and is kept by every event holds of all states that follow. -/
lemma runFrom_induction {P : S → Prop} (keep : ∀ {s s' e}, P s → step s e = some s' → P s')
    (h : P s) (hr : runFrom step s events = some s') : P s' :=
  runFrom_induction_mem (fun _ => keep) h hr

/-- Whether each event of a run is allowed in the state in which it takes place. -/
def throughout (step : S → E → Option S) (allowed : S → E → Bool) (s : S) : List E → Bool
  | []          => true
  | e :: events => allowed s e && (step s e).all fun s => throughout step allowed s events

/-- What holds of a state and is kept by the events that are allowed holds after a run of such events. -/
lemma runFrom_induction_throughout {allowed : S → E → Bool} {P : S → Prop}
    (keep : ∀ {s s' e}, e ∈ events → P s → allowed s e → step s e = some s' → P s') (h : P s)
    (all : throughout step allowed s events) (hr : runFrom step s events = some s') : P s' := by
  induction events generalizing s with
  | nil => exact Option.some.inj hr ▸ h
  | cons e events ih =>
    obtain ⟨next, he, hr⟩ := Option.bind_eq_some_iff.mp hr
    rw [throughout, he, Option.all_some, Bool.and_eq_true] at all
    refine ih (fun hmem => keep (List.mem_cons_of_mem _ hmem)) ?_ all.2 hr
    exact keep (List.mem_cons_self ..) h all.1 he

lemma runFrom_append (hr : runFrom step s events = some s') :
    runFrom step s (events ++ more) = runFrom step s' more := by
  induction events generalizing s with
  | nil =>
    obtain rfl := Option.some.inj hr
    rfl
  | cons e events ih =>
    obtain ⟨next, he, hr⟩ := Option.bind_eq_some_iff.mp hr
    rw [List.cons_append, runFrom, he, Option.bind_some]
    exact ih hr

/-! ### Runs without an end -/

/-- The states and the events of a run that goes on forever. -/
def Endless (step : S → E → Option S) (states : ℕ → S) (events : ℕ → E) : Prop :=
  ∀ n, step (states n) (events n) = some (states (n + 1))

/-- What holds of a state and is kept by every event holds all along an endless run. -/
lemma Endless.induction {states : ℕ → S} {events : ℕ → E} (h : Endless step states events)
    {P : S → Prop} (keep : ∀ {s s' e}, P s → step s e = some s' → P s') (start : P (states 0))
    (n : ℕ) : P (states n) := by
  induction n with
  | zero => exact start
  | succ n ih => exact keep ih (h n)

/-- What grows only finitely often can only finitely often become less. -/
lemma finite_of_less {M : Type} {less : M → M → Prop} (wf : WellFounded less) {m : ℕ → M}
    {grows falls : Set ℕ} (finite : grows.Finite)
    (keep : ∀ n, n ∉ grows → m (n + 1) = m n ∨ less (m (n + 1)) (m n))
    (fall : ∀ n, n ∈ falls → less (m (n + 1)) (m n)) : falls.Finite := by
  obtain ⟨first, hfirst⟩ := finite.bddAbove
  -- after the last growth, from where on the least value is reached
  obtain ⟨least, ⟨reached, hreached, rfl⟩, hleast⟩ :=
    wf.has_min (m '' Set.Ioi first) ⟨m (first + 1), first + 1, Nat.lt_succ_self _, rfl⟩
  have hreached : first < reached := hreached
  have stays : ∀ n ≥ reached, m n = m reached := by
    intro n hn
    induction n, hn using Nat.le_induction with
    | base => rfl
    | succ n hn ih =>
      have later : first < n := hreached.trans_le hn
      rcases keep n (fun grown => (hfirst grown).not_gt later) with same | smaller
      · exact same.trans ih
      · rw [ih] at smaller
        exact absurd smaller (hleast _ ⟨n + 1, later.trans (Nat.lt_succ_self n), rfl⟩)
  refine (Set.finite_Iio reached).subset fun n hn => ?_
  by_contra late
  have late : reached ≤ n := not_lt.mp late
  have smaller := fall n hn
  rw [stays n late, stays (n + 1) (Nat.le_succ_of_le late)] at smaller
  exact hleast _ ⟨reached, hreached, rfl⟩ smaller

end Conveyor
