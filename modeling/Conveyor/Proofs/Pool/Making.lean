import Conveyor.Proofs.Pool.Turns

/-!
# The lanes that a pool makes

Lanes are made under numbers that follow each other, up to the first one that fails. What holds of
all lanes that the constructor can make holds of the lanes of a pool before it is bound, whatever
numbers of lanes were asked for (`Pool.Offers.setSize`). The lane with a number comes from the first
call that did not fail for it (`Pool.Genuine.setSize`). Binding starts each lane once
(`Pool.consume_cases`).
-/

namespace Conveyor.Pool

variable {P : Type}

/-! ### Making lanes -/

/-- Whether these lanes were made one after the other, from the number `first` on, at which the
constructor was called a number of times in vain. -/
structure Made (construct : Nat → Nat → LaneBuild P) (attempt first : Nat)
    (lanes : List (Nat × P)) : Prop where
  numbers : lanes.map Prod.fst = List.range' first lanes.length
  built : ∀ l ∈ lanes, Builds construct attempt first l.1 l.2

variable {construct : Nat → Nat → LaneBuild P} {metrics metrics' : Metrics.Store}
  {pool pool' : Pool P} {lanes : List (Nat × P)}

lemma Made.nil (construct : Nat → Nat → LaneBuild P) (attempt first : Nat) :
    Made construct attempt first [] :=
  ⟨rfl, nofun⟩

lemma Made.cons {attempt first : Nat} {lane : P} (hl : (construct attempt first).lane = .ok lane)
    (h : Made construct 0 (first + 1) lanes) :
    Made construct attempt first ((first, lane) :: lanes) where
  numbers := by simp [h.numbers, List.range'_succ]
  built := List.forall_mem_cons.mpr ⟨.first hl, fun l hmem => .later (h.built l hmem)⟩

/-- Whether the constructor leaves the recorded number of lanes alone. -/
def Discreet (construct : Nat → Nat → LaneBuild P) : Prop :=
  ∀ attempt index, (construct attempt index).recorded = none

lemma noteBuild_of_discreet (discreet : Discreet construct) (attempt index : Nat)
    (metrics : Metrics.Store) : noteBuild (construct attempt index) metrics = metrics := by
  simp [noteBuild, discreet attempt index]

lemma made_of_constructFrom {count index : Nat}
    (h : constructFrom construct metrics count index = (.ok lanes, metrics')) :
    Made construct 0 index lanes ∧ lanes.length = count ∧
      (Discreet construct → metrics' = metrics) := by
  induction count generalizing metrics index lanes with
  | zero =>
    cases h
    exact ⟨.nil construct 0 index, rfl, fun _ => rfl⟩
  | succ count ih =>
    simp only [constructFrom] at h
    split at h
    next => cases h
    next lane hl =>
      generalize hrest : constructFrom construct _ count (index + 1) = rest at h
      obtain ⟨result, metrics₁⟩ := rest
      cases result with
      | error e => cases h
      | ok rest =>
        cases h
        obtain ⟨made, hcount, hmetrics⟩ := ih hrest
        refine ⟨.cons hl made, by simp [hcount], fun discreet => ?_⟩
        exact (hmetrics discreet).trans (noteBuild_of_discreet discreet 0 index metrics)

/-- The lanes that are added to a pool before it is bound. They are all that were asked for, unless
one of them fails. -/
lemma growIdle_cases {count : Nat} {result : Except PipelineError Unit}
    (h : pool.growIdle lanes metrics count = (result, pool', metrics')) :
    ∃ more attempt, Made pool.construct pool.attempt pool.nextIndex more ∧
      pool' = { pool with
        state := .idle (lanes ++ more), nextIndex := pool.nextIndex + more.length, attempt } ∧
      (Discreet pool.construct → metrics' = metrics) ∧
      (result = .ok () ∧ more.length = count ∨ (∃ e, result = .error e) ∧ more.length < count) := by
  induction count generalizing pool lanes metrics with
  | zero =>
    cases h
    exact ⟨[], pool.attempt, .nil _ _ _, by simp, fun _ => rfl, .inl ⟨rfl, rfl⟩⟩
  | succ count ih =>
    simp only [growIdle] at h
    split at h
    next e he =>
      cases h
      refine ⟨[], pool.attempt + 1, .nil _ _ _, by simp, fun discreet => ?_,
        .inr ⟨⟨e, rfl⟩, Nat.succ_pos _⟩⟩
      exact noteBuild_of_discreet discreet _ _ metrics
    next lane hl =>
      obtain ⟨more, attempt, made, rfl, hmetrics, hcount⟩ := ih h
      refine ⟨(pool.nextIndex, lane) :: more, attempt, .cons hl made, ?_, fun discreet => ?_, ?_⟩
      · simp [Nat.add_comm, Nat.add_left_comm]
      · exact (hmetrics discreet).trans (noteBuild_of_discreet discreet _ _ metrics)
      · simpa using hcount

/-! ### Pools that are not bound yet -/

/-- A pool that is not bound yet has a lane at least, and what is asked of lanes holds of those that
it has and of all that it can make. -/
structure Offers (Q : P → Prop) (pool : Pool P) : Prop where
  lanes : ∃ lanes, pool.state = .idle lanes ∧ lanes ≠ [] ∧ ∀ l ∈ lanes, Q l.2
  made : ∀ attempt index lane, (pool.construct attempt index).lane = .ok lane → Q lane
  done : pool.done = false

variable {Q : P → Prop}

/-- A new pool has lanes as its constructor makes them. -/
theorem offers_of_create
    (made : ∀ attempt index lane, (construct attempt index).lane = .ok lane → Q lane)
    {threads laneBuffer outputCapacity : Nat} {metered : Bool}
    (h : create construct threads laneBuffer outputCapacity metered metrics = (.ok pool, metrics')) :
    pool.Offers Q := by
  unfold create at h
  split at h
  next => cases h
  next some =>
    generalize hbuilt : constructFrom construct metrics threads 0 = built at h
    obtain ⟨result, metrics₁⟩ := built
    cases result with
    | error e => cases h
    | ok lanes =>
      cases h
      obtain ⟨hmade, hcount, -⟩ := made_of_constructFrom hbuilt
      refine ⟨⟨lanes, rfl, ?_, fun l hl => (hmade.built l hl).holds made⟩, made, rfl⟩
      rintro rfl
      exact some hcount.symm

/-- Whether a lane is what becomes of a number: what the first call comes to that does not fail for
it. -/
def Yields (construct : Nat → Nat → LaneBuild P) (index : Nat) (lane : P) : Prop :=
  ∃ attempt, (construct attempt index).lane = .ok lane ∧
    ∀ earlier < attempt, ∃ error, (construct earlier index).lane = .error error

/-- At most one lane becomes of a number. -/
lemma Yields.unique {index : Nat} {lane lane' : P} (h : Yields construct index lane)
    (h' : Yields construct index lane') : lane = lane' := by
  obtain ⟨attempt, made, failed⟩ := h
  obtain ⟨attempt', made', failed'⟩ := h'
  have order : attempt = attempt' := by
    rcases Nat.lt_trichotomy attempt attempt' with lt | same | lt
    · obtain ⟨error, he⟩ := failed' attempt lt
      cases made.symm.trans he
    · exact same
    · obtain ⟨error, he⟩ := failed attempt' lt
      cases made'.symm.trans he
  subst order
  exact Except.ok.inj (made.symm.trans made')

/-- Whether all the calls failed that a pool has counted for the number that comes next. -/
def Vain (pool : Pool P) : Prop :=
  ∀ earlier < pool.attempt, ∃ error, (pool.construct earlier pool.nextIndex).lane = .error error

lemma vain_of_fresh (h : pool.attempt = 0) : pool.Vain := by
  intro earlier lt
  rw [h] at lt
  cases lt

/-- What is made after calls that failed is what becomes of its number. -/
lemma Builds.yields {attempt first index : Nat} {lane : P}
    (h : Builds construct attempt first index lane)
    (vain : ∀ earlier < attempt, ∃ error, (construct earlier first).lane = .error error) :
    Yields construct index lane := by
  induction h with
  | first h => exact ⟨_, h, vain⟩
  | later _ ih => exact ih nofun

/-- Whether the lanes of a pool that is not bound yet are those that its constructor makes. -/
structure Genuine (pool : Pool P) : Prop where
  lanes : ∀ lanes, pool.state = .idle lanes → ∀ l ∈ lanes, Yields pool.construct l.1 l.2
  vain : pool.Vain

theorem genuine_of_create {threads laneBuffer outputCapacity : Nat} {metered : Bool}
    (h : create construct threads laneBuffer outputCapacity metered metrics = (.ok pool, metrics')) :
    pool.Genuine := by
  unfold create at h
  split at h
  next => cases h
  next some =>
    generalize hbuilt : constructFrom construct metrics threads 0 = built at h
    obtain ⟨result, metrics₁⟩ := built
    cases result with
    | error e => cases h
    | ok lanes =>
      cases h
      obtain ⟨hmade, -, -⟩ := made_of_constructFrom hbuilt
      refine ⟨fun lanes' hidle l hl => ?_, vain_of_fresh rfl⟩
      obtain rfl := Pool.State.idle.inj hidle
      exact (hmade.built l hl).yields nofun

variable {σ : Type} [Pipeline σ P]

/-- What a pool that is not bound yet does when a number of lanes is asked for. It records the number if
it was reached. -/
inductive Adjusts (pool : Pool P) (lanes : List (Nat × P)) (n : Nat) (metrics : Metrics.Store) :
    (result : Except PipelineError Unit) → (pool' : Pool P) → (metrics' : Metrics.Store) → Prop
  | missed {e : PipelineError} {pool' : Pool P} {metrics' : Metrics.Store} (fewer : lanes.length < n)
      (hg : pool.growIdle lanes metrics (n - lanes.length) = (.error e, pool', metrics')) :
      Adjusts pool lanes n metrics (.error e) pool' metrics'
  | reached {grown : Pool P} {metrics' : Metrics.Store} (fewer : lanes.length < n)
      (hg : pool.growIdle lanes metrics (n - lanes.length) = (.ok (), grown, metrics')) :
      Adjusts pool lanes n metrics (.ok ()) { grown with size := n }
        (metrics'.setGauge grown.lanesStat n)
  | shrunk (enough : n ≤ lanes.length) (metrics' : Metrics.Store) :
      Adjusts pool lanes n metrics (.ok ()) { pool with state := .idle (lanes.take n), size := n }
        (metrics'.setGauge pool.lanesStat n)

lemma Adjusts.of_resizeIdle {n : Nat} {result : Except PipelineError Unit}
    (h : pool.resizeIdle lanes n metrics = (result, pool', metrics')) :
    Adjusts pool lanes n metrics result pool' metrics' := by
  unfold resizeIdle at h
  split at h
  next fewer =>
    generalize hg : pool.growIdle lanes metrics (n - lanes.length) = grown at h
    obtain ⟨r, grown, metrics₁⟩ := grown
    cases r with
    | error e =>
      cases h
      exact .missed fewer hg
    | ok =>
      cases h
      exact .reached fewer hg
  next enough =>
    cases h
    exact .shrunk (Nat.le_of_not_lt enough) _

/-- What becomes of a pool that is not bound yet when another number of lanes is asked for. If a lane
fails, those before it stay, and the new number is not recorded. -/
lemma resizeIdle_cases {n : Nat} {result : Except PipelineError Unit}
    (h : pool.resizeIdle lanes n metrics = (result, pool', metrics')) :
    ∃ lanes' nextIndex attempt,
      (∀ l ∈ lanes', l ∈ lanes ∨ Builds pool.construct pool.attempt pool.nextIndex l.1 l.2) ∧
      (result = .ok () ∧ lanes'.length = n ∧
          pool' = { pool with state := .idle lanes', nextIndex, attempt, size := n } ∧
          (∃ metrics₁ : Metrics.Store, metrics' = metrics₁.setGauge pool.lanesStat n) ∨
        (∃ error, result = .error error) ∧ lanes.length ≤ lanes'.length ∧ lanes'.length < n ∧
          pool' = { pool with state := .idle lanes', nextIndex, attempt } ∧
          (Discreet pool.construct → metrics' = metrics)) := by
  cases Adjusts.of_resizeIdle h with
  | @missed e _ _ _ hg =>
    obtain ⟨more, attempt, hmore, rfl, hmetrics, ⟨nofail, -⟩ | ⟨-, hcount⟩⟩ := growIdle_cases hg
    · cases nofail
    · refine ⟨lanes ++ more, pool.nextIndex + more.length, attempt, fun l hl => ?_,
        .inr ⟨⟨e, rfl⟩, by simp, ?_, rfl, hmetrics⟩⟩
      · exact (List.mem_append.mp hl).imp_right (hmore.built l)
      · rw [List.length_append]
        omega
  | reached _ hg =>
    obtain ⟨more, attempt, hmore, rfl, -, ⟨-, hcount⟩ | ⟨⟨e, failed⟩, -⟩⟩ := growIdle_cases hg
    · refine ⟨lanes ++ more, pool.nextIndex + more.length, attempt, fun l hl => ?_,
        .inl ⟨rfl, ?_, rfl, _, rfl⟩⟩
      · exact (List.mem_append.mp hl).imp_right (hmore.built l)
      · rw [List.length_append]
        omega
    · cases failed
  | shrunk enough =>
    exact ⟨lanes.take n, pool.nextIndex, pool.attempt, fun l hl => .inl (List.mem_of_mem_take hl),
      .inl ⟨rfl, List.length_take_of_le enough, rfl, _, rfl⟩⟩

/-- What becomes of a pool of which a number of lanes is asked. -/
lemma setSize_cases {ticket n : Nat} {result : Option (Except PipelineError Unit)}
    (h : pool.setSize ticket n metrics = (result, pool', metrics')) :
    ((∃ error, result = some (.error error)) ∧ pool' = pool ∧ metrics' = metrics ∧
        (n = 0 ∨ (∃ d, pool.state = .running d ∧ d.phase = .ended) ∨
          ∃ d, pool.state = .closed d)) ∨
      (∃ d requests, pool.state = .running d ∧ result = none ∧
        pool' = { pool with state := .running { d with requests } } ∧ metrics' = metrics) ∨
      ∃ lanes answer, pool.state = .idle lanes ∧ n ≠ 0 ∧ result = some answer ∧
        pool.resizeIdle lanes n metrics = (answer, pool', metrics') := by
  unfold setSize at h
  split at h
  next hn =>
    cases h
    exact .inl ⟨⟨_, rfl⟩, rfl, rfl, .inl hn⟩
  next hn =>
    split at h
    next lanes hidle =>
      generalize hr : pool.resizeIdle lanes n metrics = resized at h
      obtain ⟨answer, resized, metrics₁⟩ := resized
      cases h
      exact .inr (.inr ⟨lanes, answer, hidle, hn, rfl, hr⟩)
    next d hrunning =>
      split at h
      next ended =>
        cases h
        exact .inl ⟨⟨_, rfl⟩, rfl, rfl, .inr (.inl ⟨d, hrunning, ended⟩)⟩
      next =>
        cases h
        exact .inr (.inl ⟨d, _, hrunning, rfl, rfl, rfl⟩)
    next hclosed =>
      cases h
      exact .inl ⟨⟨_, rfl⟩, rfl, rfl, .inr (.inr ⟨_, hclosed⟩)⟩

/-- A pool that is not bound yet stays so when another number of lanes is asked for, and keeps a lane
at least. -/
theorem Offers.setSize (h : pool.Offers Q) {ticket n : Nat}
    {result : Option (Except PipelineError Unit)}
    (hs : pool.setSize ticket n metrics = (result, pool', metrics')) : pool'.Offers Q := by
  have whole := h
  obtain ⟨⟨lanes, hidle, some, hlanes⟩, made, hdone⟩ := h
  obtain ⟨-, rfl, -⟩ | ⟨d, requests, hrunning, -⟩ | ⟨lanes', answer, hidle', hn, -, hr⟩ :=
    setSize_cases hs
  · exact whole
  · rw [hidle] at hrunning
    cases hrunning
  · obtain rfl := Pool.State.idle.inj (hidle.symm.trans hidle')
    obtain ⟨lanes', nextIndex, attempt, origin, reached⟩ := resizeIdle_cases hr
    have all : ∀ l ∈ lanes', Q l.2 := fun l hl =>
      (origin l hl).elim (hlanes l) (Builds.holds made)
    have kept : lanes'.length ≠ 0 := by
      have held := List.length_pos_iff.mpr some
      omega
    have left : lanes' ≠ [] := fun none => kept (by simp [none])
    obtain ⟨-, -, rfl, -⟩ | ⟨-, -, -, rfl, -⟩ := reached
    all_goals exact ⟨⟨lanes', rfl, left, all⟩, made, hdone⟩

lemma Vain.growIdle {count : Nat} {result : Except PipelineError Unit} (h : pool.Vain)
    (hg : pool.growIdle lanes metrics count = (result, pool', metrics')) : pool'.Vain := by
  induction count generalizing pool lanes metrics with
  | zero =>
    cases hg
    exact h
  | succ count ih =>
    simp only [Pool.growIdle] at hg
    split at hg
    next error here =>
      cases hg
      intro earlier lt
      rcases Nat.lt_succ_iff_lt_or_eq.mp lt with before | rfl
      · exact h earlier before
      · exact ⟨error, here⟩
    next => exact ih (vain_of_fresh rfl) hg

lemma Vain.resizeIdle {n : Nat} {result : Except PipelineError Unit} (h : pool.Vain)
    (hr : pool.resizeIdle lanes n metrics = (result, pool', metrics')) : pool'.Vain := by
  cases Adjusts.of_resizeIdle hr with
  | missed _ hg => exact h.growIdle hg
  | reached _ hg =>
    have vain := h.growIdle hg
    exact vain
  | shrunk => exact h

/-- Whatever numbers of lanes are asked for, all lanes come from the constructor. -/
theorem Genuine.setSize (h : pool.Genuine) {ticket n : Nat}
    {result : Option (Except PipelineError Unit)}
    (hs : pool.setSize ticket n metrics = (result, pool', metrics')) : pool'.Genuine := by
  obtain ⟨-, rfl, -⟩ | ⟨d, requests, -, -, rfl, -⟩ | ⟨lanes, answer, hidle, -, -, hr⟩ :=
    setSize_cases hs
  · exact h
  · exact ⟨nofun, h.vain⟩
  · refine ⟨?_, h.vain.resizeIdle hr⟩
    obtain ⟨lanes', nextIndex, attempt, origin, reached⟩ := resizeIdle_cases hr
    have all : ∀ l ∈ lanes', Yields pool.construct l.1 l.2 := fun l hl =>
      (origin l hl).elim (h.lanes lanes hidle l) fun builds => builds.yields h.vain
    obtain ⟨-, -, rfl, -⟩ | ⟨-, -, -, rfl, -⟩ := reached
    all_goals
      intro lanes'' hidle'
      obtain rfl := Pool.State.idle.inj hidle'
      exact all

/-! ### Bound pools -/

variable {d d' : Dispatcher P}

lemma Vain.grows {count : Nat} {result : Except PipelineError Unit} (h : pool.Vain)
    (grows : Grows pool d metrics count result pool' d' metrics') : pool'.Vain := by
  induction grows with
  | enough => exact h
  | failed => exact vain_of_fresh rfl
  | refused => exact vain_of_fresh rfl
  | joined _ _ _ _ ih => exact ih (vain_of_fresh rfl)

lemma Vain.resizeRunning {n : Nat} {result : Except PipelineError Unit} (h : pool.Vain)
    (hr : pool.resizeRunning d n metrics = (result, pool', d', metrics')) : pool'.Vain := by
  cases Resizes.of_resizeRunning hr with
  | invalid => exact h
  | grown _ _ grows =>
    have vain := h.grows grows
    exact vain
  | shrunk => exact h

/-- A bound pool goes on counting the calls that failed. -/
lemma Vain.turn {s s' : Surroundings} (h : pool.Vain) (turn : Turn pool d s pool' d' s') :
    pool'.Vain := by
  cases turn with
  | resize hp hs heard hr hg => exact h.resizeRunning hg
  | _ => exact h

/-! ### Binding -/

/-- Lanes are started in their order, up to the first one that cannot be started. -/
lemma startLanes_cases {laneBuffer : Nat} {d d' : Dispatcher P}
    {result : Except PipelineError Unit} (h : startLanes laneBuffer d lanes = (result, d')) :
    ∃ new strays, d' = { d with lanes := d.lanes ++ new, strays } ∧
      (∀ lane ∈ new, ∃ l ∈ lanes, lane.StartedFrom laneBuffer l.1 l.2) ∧
      (result = .ok () → new.length = lanes.length ∧ strays = d.strays) := by
  induction lanes generalizing d with
  | nil =>
    cases h
    exact ⟨[], d'.strays, by simp, nofun, fun _ => ⟨rfl, rfl⟩⟩
  | cons l lanes ih =>
    simp only [startLanes] at h
    split at h
    next hl =>
      cases h
      obtain ⟨e, strays, -, rfl⟩ | ⟨lane, hok, -⟩ := Dispatcher.startLane_cases hl
      · exact ⟨[], strays, by simp, nofun, nofun⟩
      · cases hok
    next hl =>
      obtain ⟨e, strays, herror, -⟩ | ⟨lane, -, started, rfl⟩ := Dispatcher.startLane_cases hl
      · cases herror
      · obtain ⟨new, strays, rfl, hnew, hall⟩ := ih h
        refine ⟨lane :: new, strays, by simp, List.forall_mem_cons.mpr ⟨?_, fun lane hlane => ?_⟩,
          fun hok => ⟨by simp [(hall hok).1], (hall hok).2⟩⟩
        · exact ⟨l, List.mem_cons_self .., started⟩
        · obtain ⟨l', hl', started'⟩ := hnew lane hlane
          exact ⟨l', List.mem_cons_of_mem _ hl', started'⟩

lemma exists_startedFrom {laneBuffer : Nat}
    (h : ∀ l ∈ lanes, ∃ lane : Lane P, lane.StartedFrom laneBuffer l.1 l.2) :
    ∃ new : List (Lane P),
      List.Forall₂ (fun l lane => lane.StartedFrom laneBuffer l.1 l.2) lanes new := by
  induction lanes with
  | nil => exact ⟨[], .nil⟩
  | cons l lanes ih =>
    obtain ⟨⟨lane, first⟩, later⟩ := List.forall_mem_cons.mp h
    obtain ⟨new, rest⟩ := ih later
    exact ⟨lane :: new, .cons first rest⟩

/-- The first lane that cannot be started decides: those before it were started, and those after it are
left alone. -/
lemma startLanes_of_refusal {laneBuffer : Nat} {d : Dispatcher P} {front back : List (Nat × P)}
    {new : List (Lane P)}
    (started : List.Forall₂ (fun l lane => lane.StartedFrom laneBuffer l.1 l.2) front new)
    {index : Nat} {pipeline : P} {e : PipelineError} {left : List P}
    (refusal : Lane.Refusal laneBuffer index pipeline e left) :
    startLanes laneBuffer d (front ++ (index, pipeline) :: back) =
      (.error e, { d with lanes := d.lanes ++ new, strays := d.strays ++ left }) := by
  induction started generalizing d with
  | nil => simp [startLanes, Dispatcher.startLane_of_refusal refusal]
  | @cons l lane front new first _ ih =>
    simp only [List.cons_append, startLanes, Dispatcher.startLane_of_startedFrom first, ih]
    simp

/-- A pool that was bound has started all its lanes, and no others. -/
lemma consume_cases (h : pool.consume = (.ok (), pool')) :
    ∃ lanes new strays, pool.state = .idle lanes ∧
      pool' = { pool with state := .running { lanes := new, strays } } ∧
      (∀ lane ∈ new, ∃ l ∈ lanes, lane.StartedFrom pool.laneBuffer l.1 l.2) ∧
      new.length = lanes.length := by
  unfold consume at h
  split at h
  next => cases h
  next => cases h
  next lanes hidle =>
    split at h
    next d hs =>
      cases h
      obtain ⟨new, strays, rfl, hnew, hall⟩ := startLanes_cases hs
      exact ⟨lanes, new, strays, hidle, by simp, hnew, (hall rfl).1⟩
    next => cases h

/-- Pipelines that can be started are started. -/
lemma startLanes_of_starts {laneBuffer : Nat} {d : Dispatcher P}
    (h : ∀ l ∈ lanes, Pipeline.Starts l.2) : (startLanes laneBuffer d lanes).1 = .ok () := by
  induction lanes generalizing d with
  | nil => rfl
  | cons l lanes ih =>
    obtain ⟨first, later⟩ := List.forall_mem_cons.mp h
    have started := Dispatcher.startLane_of_starts first (d := d) laneBuffer l.1
    simp only [startLanes]
    split
    next hl =>
      rw [hl] at started
      cases started
    next => exact ih later

/-- A pool whose lanes can be started can be bound. -/
lemma consume_of_starts (hstate : pool.state = .idle lanes)
    (h : ∀ l ∈ lanes, Pipeline.Starts l.2) : pool.consume.1 = .ok () := by
  have started : (startLanes pool.laneBuffer {} lanes).1 = .ok () := startLanes_of_starts h
  simp only [consume, hstate]
  split
  next => rfl
  next hs =>
    rw [hs] at started
    cases started

end Conveyor.Pool
