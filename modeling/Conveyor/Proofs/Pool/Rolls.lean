import Conveyor.Proofs.Pool.Renumbering

/-!
# Two ways to change the number of lanes

A pool that is not bound yet and a bound one change the number of their lanes in different code. Both
follow one rule, which is written down here for the numbers of the lanes alone (`Pool.Roll.ask`), but
for one point: the number of a lane that fails is tried again by the first one, and skipped by the
second one. So if a number fails each time or never they agree until a lane fails for the second time
(`Pool.Roll.Agrees.askAll`).
-/

namespace Conveyor.Pool

/-- The numbers of the lanes that are held, and the number that comes next. -/
structure Roll where
  numbers : List Nat
  next : Nat

variable {σ P : Type} {construct : Nat → LaneBuild P}

/-- It does not matter how often a number was tried if that changes nothing. -/
lemma makes_steady (construct : Nat → LaneBuild P) (count attempt next : Nat) :
    makes (fun _ => construct) count attempt next = makes (fun _ => construct) count 0 next := by
  cases count <;> rfl

/-! ### The rule -/

namespace Roll

/-- What becomes of the lanes when `n` of them are asked for, and the answer. The number of a lane that
fails is skipped or not. -/
def ask (skips : Bool) (construct : Nat → LaneBuild P) (roll : Roll) (n : Nat) :
    Except PipelineError Unit × Roll :=
  if n = 0 then (.error (.invalidSize 0), roll)
  else
    let (more, result) := makes (fun _ => construct) (n - roll.numbers.length) 0 roll.next
    (result,
      { numbers := roll.numbers.take n ++ more
        next := roll.next + more.length + if skips && !result.isOk then 1 else 0 })

/-- What becomes of the lanes when these numbers of lanes are asked for, one after the other, and the
answers. -/
def askAll (skips : Bool) (construct : Nat → LaneBuild P) (roll : Roll) :
    List Nat → List (Nat × Except PipelineError Unit) × Roll
  | [] => ([], roll)
  | n :: sizes =>
    let (result, roll) := roll.ask skips construct n
    let (results, roll) := roll.askAll skips construct sizes
    ((n, result) :: results, roll)

/-- Whether a number of lanes was not reached because a lane failed. -/
def missed (answer : Nat × Except PipelineError Unit) : Bool := answer.1 ≠ 0 && !answer.2.isOk

variable {skips stuck : Bool} {roll a b : Roll} {n : Nat} {sizes : List Nat}

lemma askAll_cons (skips : Bool) (construct : Nat → LaneBuild P) (roll : Roll) (n : Nat)
    (sizes : List Nat) :
    roll.askAll skips construct (n :: sizes) =
      ((n, (roll.ask skips construct n).1) ::
          ((roll.ask skips construct n).2.askAll skips construct sizes).1,
        ((roll.ask skips construct n).2.askAll skips construct sizes).2) := rfl

lemma askAll_append (skips : Bool) (construct : Nat → LaneBuild P) (roll : Roll)
    (sizes more : List Nat) :
    roll.askAll skips construct (sizes ++ more) =
      ((roll.askAll skips construct sizes).1 ++
          ((roll.askAll skips construct sizes).2.askAll skips construct more).1,
        ((roll.askAll skips construct sizes).2.askAll skips construct more).2) := by
  induction sizes generalizing roll with
  | nil => rfl
  | cons n sizes ih =>
    rw [List.cons_append, askAll_cons, ih]
    rfl

lemma askAll_sizes (skips : Bool) (construct : Nat → LaneBuild P) (roll : Roll)
    (sizes : List Nat) : (roll.askAll skips construct sizes).1.map Prod.fst = sizes := by
  induction sizes generalizing roll with
  | nil => rfl
  | cons n sizes ih =>
    rw [askAll_cons, List.map_cons, ih]

/-- Whoever asks for no lanes changes nothing. -/
lemma askAll_nonzero (skips : Bool) (construct : Nat → LaneBuild P) (roll : Roll)
    (sizes : List Nat) :
    roll.askAll skips construct (sizes.filter (· ≠ 0)) =
      ((roll.askAll skips construct sizes).1.filter (·.1 ≠ 0),
        (roll.askAll skips construct sizes).2) := by
  induction sizes generalizing roll with
  | nil => rfl
  | cons n sizes ih =>
    by_cases hn : n = 0
    · rw [List.filter_cons_of_neg (by simpa using hn), ih, askAll_cons, ask, if_pos hn,
        List.filter_cons_of_neg (by simpa using hn)]
    · rw [List.filter_cons_of_pos (by simpa using hn), askAll_cons, ih, askAll_cons,
        List.filter_cons_of_pos (by simpa using hn)]

/-- Whoever asks for no lanes is refused. -/
lemma askAll_zero (skips : Bool) (construct : Nat → LaneBuild P) (roll : Roll) (sizes : List Nat) :
    (roll.askAll skips construct sizes).1.filter (·.1 = 0) =
      (sizes.filter (· = 0)).map fun n => (n, .error (.invalidSize 0)) := by
  induction sizes generalizing roll with
  | nil => rfl
  | cons n sizes ih =>
    by_cases hn : n = 0
    · rw [askAll_cons, List.filter_cons_of_pos (by simpa using hn),
        List.filter_cons_of_pos (by simpa using hn), List.map_cons, ih, ask, if_pos hn]
    · rw [askAll_cons, List.filter_cons_of_neg (by simpa using hn),
        List.filter_cons_of_neg (by simpa using hn), ih]

/-! ### Agreement -/

lemma makes_error {count next : Nat} {error : PipelineError}
    (h : (makes (fun _ => construct) count 0 next).2 = .error error) :
    (construct (next + (makes (fun _ => construct) count 0 next).1.length)).lane = .error error := by
  induction count generalizing next with
  | zero => cases h
  | succ count ih =>
    rw [makes] at h ⊢
    split at h
    next e he =>
      cases h
      exact he
    next =>
      have later := ih h
      rwa [Nat.add_assoc, Nat.add_comm 1] at later

/-- How the rolls of two pools agree that were asked for the same numbers of lanes, of which the second
one skips what fails. The first one may be stuck at a number that fails. -/
structure Agrees (construct : Nat → LaneBuild P) (stuck : Bool) (a b : Roll) : Prop where
  numbers : b.numbers = a.numbers
  next : b.next = a.next + if stuck then 1 else 0
  fails : stuck = true → ∃ error, (construct a.next).lane = .error error

lemma Agrees.refl (construct : Nat → LaneBuild P) (roll : Roll) : Agrees construct false roll roll :=
  ⟨rfl, rfl, nofun⟩

/-- They go on agreeing as long as the one that is stuck is not asked for more lanes. -/
lemma Agrees.ask (h : Agrees construct stuck a b)
    (once : stuck = true → missed (n, (a.ask false construct n).1) = false) :
    (b.ask true construct n).1 = (a.ask false construct n).1 ∧
      Agrees construct (stuck || missed (n, (a.ask false construct n).1))
        (a.ask false construct n).2 (b.ask true construct n).2 := by
  obtain ⟨numbers, next, fails⟩ := h
  by_cases hn : n = 0
  · have quiet : missed (n, (a.ask false construct n).1) = false := by simp [missed, hn]
    rw [quiet, Bool.or_false]
    rw [Roll.ask, Roll.ask, if_pos hn, if_pos hn]
    exact ⟨rfl, numbers, next, fails⟩
  · rw [Roll.ask, if_neg hn] at once ⊢
    rw [Roll.ask, if_neg hn, numbers]
    cases stuck with
    | false =>
      rw [if_neg Bool.false_ne_true, Nat.add_zero] at next
      rw [next]
      dsimp only
      refine ⟨rfl, rfl, ?_, fun hmissed => ?_⟩
      · simp [missed, hn]
      · have result : ∃ error,
            (makes (fun _ => construct) (n - a.numbers.length) 0 a.next).2 = .error error := by
          cases hr : (makes (fun _ => construct) (n - a.numbers.length) 0 a.next).2 with
          | ok => simp [missed, hr, Except.isOk, Except.toBool] at hmissed
          | error e => exact ⟨e, rfl⟩
        obtain ⟨error, hr⟩ := result
        exact ⟨error, by simpa using makes_error hr⟩
    | true =>
      -- the number that fails was not tried, so no lanes were needed
      obtain ⟨error, he⟩ := fails rfl
      have reached := once rfl
      have enough : n - a.numbers.length = 0 := by
        cases hcount : n - a.numbers.length with
        | zero => rfl
        | succ count =>
          rw [hcount, makes, he] at reached
          simp [missed, hn, Except.isOk, Except.toBool] at reached
      rw [enough, makes, makes]
      refine ⟨rfl, rfl, ?_, fun _ => ⟨error, he⟩⟩
      simpa [Except.isOk, Except.toBool] using next

/-- Pools that agree give the same answers until a lane fails for the second time. -/
lemma Agrees.askAll (h : Agrees construct stuck a b)
    (once : (if stuck then 1 else 0) + (a.askAll false construct sizes).1.countP missed ≤ 1) :
    (b.askAll true construct sizes).1 = (a.askAll false construct sizes).1 ∧
      Agrees construct (stuck || (a.askAll false construct sizes).1.any missed)
        (a.askAll false construct sizes).2 (b.askAll true construct sizes).2 := by
  induction sizes generalizing stuck a b with
  | nil => exact ⟨rfl, by simpa [Roll.askAll] using h⟩
  | cons n sizes ih =>
    rw [askAll_cons, List.countP_cons] at once
    have here : stuck = true → missed (n, (a.ask false construct n).1) = false := by
      rintro rfl
      by_contra hmissed
      rw [Bool.not_eq_false] at hmissed
      rw [if_pos rfl, if_pos hmissed] at once
      omega
    obtain ⟨same, agrees⟩ := h.ask here
    have later : (if stuck || missed (n, (a.ask false construct n).1) then 1 else 0) +
        ((a.ask false construct n).2.askAll false construct sizes).1.countP missed ≤ 1 := by
      refine le_trans ?_ once
      cases stuck <;> cases missed (n, (a.ask false construct n).1) <;> simp [Nat.add_comm]
    obtain ⟨rest, agrees⟩ := ih agrees later
    rw [askAll_cons, askAll_cons, List.any_cons, ← Bool.or_assoc]
    exact ⟨by rw [same, rest], agrees⟩

end Roll

/-! ### The code that follows the rule -/

variable [Pipeline σ P] {pool pool' : Pool P} {d d' : Dispatcher P}
  {metrics metrics' : Metrics.Store} {result : Except PipelineError Unit}

def roll (pool : Pool P) : Roll := ⟨pool.numbers, pool.nextIndex⟩

/-- A pool that is not bound yet tries the number of a lane that fails again. -/
lemma roll_resizeIdle (steady : pool.construct = fun _ => construct) {lanes : List (Nat × P)}
    (hidle : pool.state = .idle lanes) {n : Nat} (some : n ≠ 0)
    (h : pool.resizeIdle lanes n metrics = (result, pool', metrics')) :
    (result, pool'.roll) = pool.roll.ask false construct n := by
  have held : pool.numbers = lanes.map Prod.fst := by simp [numbers, roster, hidle]
  rw [Roll.ask, if_neg some, roll, roll, held, List.length_map]
  cases Adjusts.of_resizeIdle h with
  | missed fewer hg =>
    obtain ⟨more, attempt, rfl, same, -⟩ := growIdle_numbers hg
    rw [steady, makes_steady] at same
    rw [← same, List.take_of_length_le (by simpa using fewer.le)]
    simp [numbers, roster]
  | reached fewer hg =>
    obtain ⟨more, attempt, rfl, same, -⟩ := growIdle_numbers hg
    rw [steady, makes_steady] at same
    rw [← same, List.take_of_length_le (by simpa using fewer.le)]
    simp [numbers, roster]
  | shrunk enough =>
    rw [Nat.sub_eq_zero_of_le enough, makes]
    simp [numbers, roster]

/-- Binding a pool whose lanes can all be started leaves the roll as it is. -/
lemma roll_consume (h : pool.consume = (.ok (), pool')) :
    ∃ d, pool' = { pool with state := .running d } ∧ d.phase = .serving ∧ d.requests = [] ∧
      d.replies = [] ∧ pool'.roll = pool.roll := by
  unfold consume at h
  split at h
  next => cases h
  next => cases h
  next lanes hidle =>
    split at h
    next d hs =>
      cases h
      obtain ⟨new, strays, rfl, used, -, all⟩ := startLanes_numbers hs
      refine ⟨_, rfl, rfl, rfl, rfl, ?_⟩
      have numbers : ({ lanes := [] ++ new, strays } : Dispatcher P).roster.map Prod.fst =
          lanes.map Prod.fst := (Dispatcher.numbers_of_used used).trans (all rfl)
      simp only [roll, Pool.numbers, roster, hidle, dispatcher?, Option.map_some, Option.getD_some]
      exact congrArg (Roll.mk · pool.nextIndex) numbers
    next => cases h

/-- A bound pool whose lanes can all be started skips the number of a lane that fails. -/
lemma Grows.of_starts {count : Nat} (h : Grows pool d metrics count result pool' d' metrics')
    (steady : pool.construct = fun _ => construct)
    (starts : ∀ index lane, (construct index).lane = .ok lane → Pipeline.Starts lane) :
    ∃ new : List (Lane P), d' = { d with lanes := d.lanes ++ new } ∧
      (∀ lane ∈ new, lane.retired = false) ∧
      (new.map Lane.index, result) = makes (fun _ => construct) count 0 pool.nextIndex ∧
      pool'.nextIndex = pool.nextIndex + new.length + if !result.isOk then 1 else 0 := by
  induction h with
  | enough => exact ⟨[], by simp, nofun, rfl, rfl⟩
  | failed _ _ _ failed =>
    rw [steady] at failed
    rw [makes, failed]
    exact ⟨[], by simp, nofun, rfl, rfl⟩
  | @refused pool d _ _ _ _ strays made hl =>
    rw [steady] at made
    have possible := Dispatcher.startLane_of_starts (starts _ _ made) (d := d) pool.laneBuffer
      pool.nextIndex
    rw [hl] at possible
    cases possible
  | joined lane made started _ ih =>
    rw [steady] at made
    obtain ⟨new, rfl, used, same, next⟩ := ih steady
    rw [makes, made]
    refine ⟨lane :: new, by simp, List.forall_mem_cons.mpr ⟨started.used, used⟩, ?_, ?_⟩
    · rw [List.map_cons, started.index, ← same]
    · rw [next, List.length_cons]
      dsimp only
      omega

/-- A bound pool whose lanes can all be started follows the rule. -/
lemma roll_resizeRunning (steady : pool.construct = fun _ => construct)
    (starts : ∀ index lane, (construct index).lane = .ok lane → Pipeline.Starts lane)
    {n : Nat} (h : pool.resizeRunning d n metrics = (result, pool', d', metrics')) :
    (result, (⟨d'.roster.map Prod.fst, pool'.nextIndex⟩ : Roll)) =
      Roll.ask true construct ⟨d.roster.map Prod.fst, pool.nextIndex⟩ n := by
  have size : (d.roster.map Prod.fst).length = d.size := by
    rw [List.length_map, Dispatcher.roster, List.length_map, Dispatcher.size]
  rw [Roll.ask]
  cases Resizes.of_resizeRunning h with
  | invalid hn => rw [if_pos hn]
  | grown hn fewer grows =>
    obtain ⟨new, rfl, used, same, next⟩ := grows.of_starts steady starts
    have roster : Dispatcher.roster { d with lanes := d.lanes ++ new } = _ :=
      d.roster_append used
    rw [if_neg hn, size, ← same, List.take_of_length_le (size.trans_le fewer.le)]
    simp [next, roster]
  | shrunk hn enough hs =>
    have roster := d.roster_shrink n metrics
    rw [hs] at roster
    rw [if_neg hn, size, Nat.sub_eq_zero_of_le enough, makes, roster]
    simp [Except.isOk, Except.toBool]

end Conveyor.Pool
