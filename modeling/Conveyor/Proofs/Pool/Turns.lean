import Conveyor.Proofs.Pool.Lanes

/-!
# The turns of a dispatcher

`Pool.Turn` lists what a dispatcher can do and under which conditions, for lanes of any kind, and
`Pool.Stuck` lists why it may be unable to do anything. `Pool.Resizes` and `Pool.Grows` list how the
number of lanes changes. A change touches nothing of a dispatcher but its lanes and what could not be
started, and always ends with a new record of the size (`Pool.resizeRunning_cases`).
-/

namespace Conveyor

variable {σ P : Type} [Pipeline σ P]

/-! ### Changes of the number of lanes -/

/-- Whether a lane is as it was when it was started from a pipeline. -/
def Lane.StartedFrom (lane : Lane P) (laneBuffer index : Nat) (pipeline : P) : Prop :=
  Pipeline.outputTaken pipeline = false ∧ ∃ bound queue,
    Pipeline.consume (Pipeline.takeOutput pipeline) (.new laneBuffer) = (.ok (), bound, queue) ∧
      lane = { index, queue, pipeline := bound, output := .new (Pipeline.outputCapacity bound) }

/-- Why a lane cannot be started, and what is left of its pipeline: the output was taken before, or the
pipeline refuses its input. -/
inductive Lane.Refusal (laneBuffer index : Nat) (pipeline : P) : PipelineError → List P → Prop where
  | taken (h : Pipeline.outputTaken pipeline = true) :
      Refusal laneBuffer index pipeline
        (.construction ("output of lane " ++ toString index ++ " was already taken")) []
  | refused {e : PipelineError} {stray : P} {queue : Channel}
      (untaken : Pipeline.outputTaken pipeline = false)
      (h : Pipeline.consume (Pipeline.takeOutput pipeline) (.new laneBuffer) =
        (.error e, stray, queue)) :
      Refusal laneBuffer index pipeline e [stray]

/-- Whether a pipeline can be started: its output is still there, and it accepts every input. -/
def Pipeline.Starts (pipeline : P) : Prop :=
  Pipeline.outputTaken pipeline = false ∧
    ∀ input, (Pipeline.consume (Pipeline.takeOutput pipeline) input).1 = .ok ()

/-- Whether pipelines of a kind leave all gauges alone. -/
structure Pipeline.GaugeFree (σ P : Type) [Pipeline σ P] : Prop where
  close : ∀ (pipeline : P) metrics,
    (Pipeline.close pipeline metrics).2.gauges = metrics.gauges
  step : ∀ (process : Behaviour σ) actor (pipeline pipeline' : P) s s',
    Pipeline.step process actor pipeline s = some (pipeline', s') →
      s'.metrics.gauges = s.metrics.gauges

/-- A relay touches neither the input of the pool nor the metrics. -/
lemma Lane.relay_frame {lane lane' : Lane P} {s s' : Surroundings}
    (h : lane.relay s = some (lane', s')) :
    lane'.retired = lane.retired ∧ s'.input = s.input ∧ s'.fed = s.fed ∧
      s'.metrics = s.metrics := by
  unfold relay at h
  split at h
  next => cases h
  next =>
    split at h
    next =>
      split at h
      next =>
        cases h
        exact ⟨rfl, rfl, rfl, rfl⟩
      next =>
        split at h
        next =>
          cases h
          exact ⟨rfl, rfl, rfl, rfl⟩
        next => cases h
    next =>
      split at h
      next =>
        cases h
        exact ⟨rfl, rfl, rfl, rfl⟩
      next =>
        split at h
        next => cases h
        next =>
          cases h
          exact ⟨rfl, rfl, rfl, rfl⟩

lemma Lane.StartedFrom.used {lane : Lane P} {laneBuffer index : Nat} {pipeline : P}
    (h : lane.StartedFrom laneBuffer index pipeline) : lane.retired = false := by
  obtain ⟨-, bound, queue, -, rfl⟩ := h
  rfl

lemma Lane.StartedFrom.index {lane : Lane P} {laneBuffer index : Nat} {pipeline : P}
    (h : lane.StartedFrom laneBuffer index pipeline) : lane.index = index := by
  obtain ⟨-, bound, queue, -, rfl⟩ := h
  rfl

namespace Dispatcher

/-- How many phases a dispatcher has before it. -/
def Phase.ahead : Phase → Nat
  | .serving  => 3
  | .leaving  => 2
  | .draining => 1
  | .ended    => 0

variable {d d' : Dispatcher P}

lemma retireAt_frame (d : Dispatcher P) (i : Nat) (metrics : Metrics.Store) :
    ∃ lanes, (d.retireAt i metrics).1 = { d with lanes } := by
  unfold retireAt
  split
  next => exact ⟨d.lanes, rfl⟩
  next => exact ⟨_, rfl⟩

lemma retireAll_frame (d : Dispatcher P) (metrics : Metrics.Store) (ls : List (Lane P × Nat)) :
    ∃ lanes, (ls.foldl (fun (d, metrics) l => d.retireAt l.2 metrics) (d, metrics)).1 =
      { d with lanes } := by
  induction ls generalizing d metrics with
  | nil => exact ⟨d.lanes, rfl⟩
  | cons l ls ih =>
    obtain ⟨first, hfirst⟩ := retireAt_frame d l.2 metrics
    simp only [List.foldl_cons]
    generalize d.retireAt l.2 metrics = given at hfirst ⊢
    obtain ⟨lanes, hlanes⟩ := ih given.1 given.2
    exact ⟨lanes, hlanes.trans (by rw [hfirst])⟩

lemma shrink_frame (d : Dispatcher P) (n : Nat) (metrics : Metrics.Store) :
    ∃ lanes, (d.shrink n metrics).1 = { d with lanes } := retireAll_frame d metrics _

/-- A lane is started and joins the others, or its pipeline may be put aside. -/
lemma startLane_cases {laneBuffer index : Nat} {pipeline : P}
    {result : Except PipelineError Unit}
    (h : d.startLane laneBuffer index pipeline = (result, d')) :
    (∃ e strays, result = .error e ∧ d' = { d with strays }) ∨
      ∃ lane : Lane P, result = .ok () ∧ lane.StartedFrom laneBuffer index pipeline ∧
        d' = { d with lanes := d.lanes ++ [lane] } := by
  unfold startLane at h
  split at h
  next =>
    cases h
    exact .inl ⟨_, d.strays, rfl, rfl⟩
  next untaken =>
    split at h
    next =>
      cases h
      exact .inl ⟨_, _, rfl, rfl⟩
    next bound queue hc =>
      cases h
      exact .inr ⟨_, rfl, ⟨by simpa using untaken, bound, queue, hc, rfl⟩, rfl⟩

lemma startLane_of_startedFrom {laneBuffer index : Nat} {pipeline : P} {lane : Lane P}
    (h : lane.StartedFrom laneBuffer index pipeline) :
    d.startLane laneBuffer index pipeline = (.ok (), { d with lanes := d.lanes ++ [lane] }) := by
  obtain ⟨untaken, bound, queue, hc, rfl⟩ := h
  simp [startLane, untaken, hc]

lemma startLane_of_refusal {laneBuffer index : Nat} {pipeline : P} {e : PipelineError}
    {left : List P} (h : Lane.Refusal laneBuffer index pipeline e left) :
    d.startLane laneBuffer index pipeline = (.error e, { d with strays := d.strays ++ left }) := by
  cases h with
  | taken taken => simp [startLane, taken]
  | refused untaken hc => simp [startLane, untaken, hc]

lemma startLane_of_starts {pipeline : P} (h : Pipeline.Starts pipeline) (laneBuffer index : Nat) :
    (d.startLane laneBuffer index pipeline).1 = .ok () := by
  obtain ⟨untaken, accepts⟩ := h
  have accepted := accepts (.new laneBuffer)
  unfold startLane
  split
  next taken => simp [untaken] at taken
  next =>
    split
    next hc =>
      rw [hc] at accepted
      cases accepted
    next => rfl

/-- What holds of all lanes in their places, and of what becomes of them when they are retired, holds
of all lanes in their places after the last ones were retired. -/
lemma forall_getElem_shrink {R : Nat → Lane P → Prop}
    (retire : ∀ i lane metrics, R i lane → R i (lane.retire metrics).1) (n : Nat)
    (metrics : Metrics.Store) (h : ∀ i lane, d.lanes[i]? = some lane → R i lane) :
    ∀ i lane, (d.shrink n metrics).1.lanes[i]? = some lane → R i lane := by
  unfold shrink
  generalize (d.inUse.drop n).reverse = ls
  induction ls generalizing d metrics with
  | nil => exact h
  | cons l ls ih =>
    rw [List.foldl_cons]
    refine ih _ ?_
    split
    next => exact h
    next given hl =>
      intro i lane hlane
      by_cases hi : l.2 = i
      · subst hi
        rw [List.getElem?_set_self (List.getElem?_eq_some_iff.mp hl).1] at hlane
        exact Option.some.inj hlane ▸ retire _ given metrics (h _ given hl)
      · rw [List.getElem?_set_ne hi] at hlane
        exact h i lane hlane

/-- What holds of all lanes and of what becomes of them when they are retired holds of all lanes after
the last ones were retired. -/
lemma forall_lanes_shrink {R : Lane P → Prop}
    (retire : ∀ lane metrics, R lane → R (lane.retire metrics).1) (n : Nat)
    (metrics : Metrics.Store) (h : ∀ lane ∈ d.lanes, R lane) :
    ∀ lane ∈ (d.shrink n metrics).1.lanes, R lane := by
  intro lane hlane
  obtain ⟨i, hi⟩ := List.mem_iff_getElem?.mp hlane
  exact forall_getElem_shrink (R := fun _ => R) (fun _ => retire) n metrics
    (fun _ lane hl => h lane (List.mem_of_getElem? hl)) i lane hi

end Dispatcher

namespace Pool

variable {pool pool' : Pool P} {d d' : Dispatcher P} {s s' : Surroundings}
  {metrics metrics' : Metrics.Store} {n count : Nat} {result : Except PipelineError Unit}

/-- How a bound pool grows by a number of lanes. It makes a lane, starts it and goes on with the next one,
up to the first one that fails. -/
inductive Grows : (pool : Pool P) → (d : Dispatcher P) → (metrics : Metrics.Store) → (count : Nat) →
    (result : Except PipelineError Unit) → (pool' : Pool P) → (d' : Dispatcher P) →
    (metrics' : Metrics.Store) → Prop
  | enough (pool : Pool P) (d : Dispatcher P) (metrics : Metrics.Store) :
      Grows pool d metrics 0 (.ok ()) pool d metrics
  | failed (pool : Pool P) (d : Dispatcher P) (metrics : Metrics.Store) {count : Nat} {e : PipelineError}
      (failed : (pool.construct pool.attempt pool.nextIndex).lane = .error e) :
      Grows pool d metrics (count + 1) (.error e)
        { pool with nextIndex := pool.nextIndex + 1, attempt := 0 } d
        (noteBuild (pool.construct pool.attempt pool.nextIndex) metrics)
  | refused {pool : Pool P} {d : Dispatcher P} {metrics : Metrics.Store} {count : Nat} {pipeline : P}
      {e : PipelineError} (strays : List P)
      (made : (pool.construct pool.attempt pool.nextIndex).lane = .ok pipeline)
      (hl : d.startLane pool.laneBuffer pool.nextIndex pipeline = (.error e, { d with strays })) :
      Grows pool d metrics (count + 1) (.error e)
        { pool with nextIndex := pool.nextIndex + 1, attempt := 0 } { d with strays }
        (noteBuild (pool.construct pool.attempt pool.nextIndex) metrics)
  | joined {pool pool' : Pool P} {d d' : Dispatcher P} {metrics metrics' : Metrics.Store} {count : Nat}
      {result : Except PipelineError Unit} {pipeline : P} (lane : Lane P)
      (made : (pool.construct pool.attempt pool.nextIndex).lane = .ok pipeline)
      (started : lane.StartedFrom pool.laneBuffer pool.nextIndex pipeline)
      (rest : Grows { pool with nextIndex := pool.nextIndex + 1, attempt := 0 }
        { d with lanes := d.lanes ++ [lane] }
        (noteBuild (pool.construct pool.attempt pool.nextIndex) metrics) count result pool' d' metrics') :
      Grows pool d metrics (count + 1) result pool' d' metrics'

/-- There is no other way to grow. -/
lemma Grows.of_growRunning
    (h : pool.growRunning d metrics count = (result, pool', d', metrics')) :
    Grows pool d metrics count result pool' d' metrics' := by
  induction count generalizing pool d metrics with
  | zero =>
    cases h
    exact .enough _ _ _
  | succ count ih =>
    simp only [growRunning] at h
    split at h
    next failed =>
      cases h
      exact .failed _ _ _ failed
    next made =>
      split at h
      next hl =>
        cases h
        obtain ⟨e, strays, -, rfl⟩ | ⟨lane, hok, -⟩ := Dispatcher.startLane_cases hl
        · exact .refused strays made hl
        · cases hok
      next hl =>
        obtain ⟨e, strays, herror, -⟩ | ⟨lane, -, started, rfl⟩ := Dispatcher.startLane_cases hl
        · cases herror
        · exact .joined lane made started (ih h)

/-- What a bound pool does when a number of lanes is asked for, after which it records the number that
was reached. -/
inductive Resizes (pool : Pool P) (d : Dispatcher P) (n : Nat) (metrics : Metrics.Store) :
    (result : Except PipelineError Unit) → (pool' : Pool P) → (d' : Dispatcher P) →
    (metrics' : Metrics.Store) → Prop
  | invalid (none : n = 0) :
      Resizes pool d n metrics (.error (.invalidSize 0)) { pool with size := d.size } d
        (metrics.setGauge pool.lanesStat d.size)
  | grown {result : Except PipelineError Unit} {grown : Pool P} {d' : Dispatcher P}
      {metrics' : Metrics.Store} (some : n ≠ 0) (fewer : d.size < n)
      (grows : Grows pool d metrics (n - d.size) result grown d' metrics') :
      Resizes pool d n metrics result { grown with size := d'.size } d'
        (metrics'.setGauge grown.lanesStat d'.size)
  | shrunk {d' : Dispatcher P} {metrics' : Metrics.Store} (some : n ≠ 0) (enough : n ≤ d.size)
      (hs : d.shrink n metrics = (d', metrics')) :
      Resizes pool d n metrics (.ok ()) { pool with size := d'.size } d'
        (metrics'.setGauge pool.lanesStat d'.size)

lemma Resizes.of_resizeRunning
    (h : pool.resizeRunning d n metrics = (result, pool', d', metrics')) :
    Resizes pool d n metrics result pool' d' metrics' := by
  unfold resizeRunning at h
  by_cases hn : n = 0
  · rw [if_pos hn] at h
    cases h
    exact .invalid hn
  · rw [if_neg hn] at h
    by_cases fewer : d.size < n
    · rw [if_pos fewer] at h
      generalize hg : pool.growRunning d metrics (n - d.size) = grown at h
      obtain ⟨r, grown, d₁, metrics₁⟩ := grown
      cases h
      exact .grown hn fewer (.of_growRunning hg)
    · rw [if_neg fewer] at h
      generalize hs : d.shrink n metrics = shrunk at h
      obtain ⟨d₁, metrics₁⟩ := shrunk
      cases h
      exact .shrunk hn (Nat.le_of_not_lt fewer) hs

/-- Whether a lane is what calls of the constructor can come to from the number `first` on, at which it
was called a number of times in vain. -/
inductive Builds (construct : Nat → Nat → LaneBuild P) :
    (attempt first index : Nat) → (lane : P) → Prop
  | first {attempt first : Nat} {lane : P} (h : (construct attempt first).lane = .ok lane) :
      Builds construct attempt first first lane
  | later {attempt first index : Nat} {lane : P} (h : Builds construct 0 (first + 1) index lane) :
      Builds construct attempt first index lane

/-- What holds of all that the constructor makes holds of these lanes. -/
lemma Builds.holds {construct : Nat → Nat → LaneBuild P} {Q : Nat → P → Prop}
    (made : ∀ attempt index lane, (construct attempt index).lane = .ok lane → Q index lane)
    {attempt first index : Nat} {lane : P} (h : Builds construct attempt first index lane) :
    Q index lane := by
  induction h with
  | first h => exact made _ _ _ h
  | later _ ih => exact ih

/-- The lanes that were made and started join the others. -/
lemma Grows.joins (h : Grows pool d metrics count result pool' d' metrics') :
    (∃ new strays, d' = { d with lanes := d.lanes ++ new, strays } ∧
      ∀ lane ∈ new, ∃ index pipeline,
        Builds pool.construct pool.attempt pool.nextIndex index pipeline ∧
          lane.StartedFrom pool.laneBuffer index pipeline) ∧
      ∃ nextIndex attempt, pool' = { pool with nextIndex, attempt } := by
  induction h with
  | enough pool d => exact ⟨⟨[], d.strays, by simp, by simp⟩, ⟨_, _, rfl⟩⟩
  | failed pool d => exact ⟨⟨[], d.strays, by simp, by simp⟩, ⟨_, _, rfl⟩⟩
  | refused strays => exact ⟨⟨[], strays, by simp, by simp⟩, ⟨_, _, rfl⟩⟩
  | joined lane made started _ ih =>
    obtain ⟨⟨new, strays, rfl, hnew⟩, ⟨n, attempt, rfl⟩⟩ := ih
    refine ⟨⟨lane :: new, strays, by simp, ?_⟩, ⟨n, attempt, rfl⟩⟩
    refine List.forall_mem_cons.mpr ⟨⟨_, _, .first made, started⟩, fun lane hlane => ?_⟩
    obtain ⟨index, pipeline, builds, started⟩ := hnew lane hlane
    exact ⟨index, pipeline, .later builds, started⟩

/-- What holds of all lanes in their places, and is kept when a lane is retired, and holds of all lanes
that the pool can start in new places, holds of all lanes after their number was changed. -/
lemma forall_getElem_resizeRunning {R : Nat → Lane P → Prop}
    (retire : ∀ i lane metrics, R i lane → R i (lane.retire metrics).1)
    (start : ∀ i, d.lanes.length ≤ i → ∀ index pipeline lane,
      Builds pool.construct pool.attempt pool.nextIndex index pipeline →
      lane.StartedFrom pool.laneBuffer index pipeline → R i lane)
    (h : pool.resizeRunning d n metrics = (result, pool', d', metrics'))
    (lanes : ∀ i lane, d.lanes[i]? = some lane → R i lane) :
    ∀ i lane, d'.lanes[i]? = some lane → R i lane := by
  cases Resizes.of_resizeRunning h with
  | invalid => exact lanes
  | grown _ _ grows =>
    obtain ⟨⟨new, strays, rfl, hnew⟩, -⟩ := grows.joins
    intro i lane hlane
    rcases Nat.lt_or_ge i d.lanes.length with old | added
    · exact lanes i lane ((List.getElem?_append_left old).symm.trans hlane)
    · have here := (List.getElem?_append_right added).symm.trans hlane
      obtain ⟨index, pipeline, builds, started⟩ := hnew lane (List.mem_of_getElem? here)
      exact start i added index pipeline lane builds started
  | shrunk _ _ hs =>
    have kept := Dispatcher.forall_getElem_shrink retire n metrics lanes
    rwa [hs] at kept

/-- What holds of all lanes, and is kept when a lane is retired, and holds of all lanes that the pool
can start, holds of all lanes after their number was changed. -/
lemma forall_lanes_resizeRunning {R : Lane P → Prop}
    (retire : ∀ lane metrics, R lane → R (lane.retire metrics).1)
    (start : ∀ index pipeline lane, Builds pool.construct pool.attempt pool.nextIndex index pipeline →
      lane.StartedFrom pool.laneBuffer index pipeline → R lane)
    (h : pool.resizeRunning d n metrics = (result, pool', d', metrics'))
    (lanes : ∀ lane ∈ d.lanes, R lane) : ∀ lane ∈ d'.lanes, R lane := by
  intro lane hlane
  obtain ⟨i, hi⟩ := List.mem_iff_getElem?.mp hlane
  exact forall_getElem_resizeRunning (R := fun _ => R) (fun _ => retire) (fun _ _ => start) h
    (fun _ lane hl => lanes lane (List.mem_of_getElem? hl)) i lane hi

/-- A change of the number of lanes keeps at least one lane if there was one, and records the number
that was reached. -/
lemma resizeRunning_cases
    (h : pool.resizeRunning d n metrics = (result, pool', d', metrics')) :
    (∃ lanes strays, d' = { d with lanes, strays }) ∧
      (∃ nextIndex attempt, pool' = { pool with nextIndex, attempt, size := d'.size }) ∧
      (∃ metrics₁ : Metrics.Store, metrics' = metrics₁.setGauge pool.lanesStat d'.size) ∧
      (1 ≤ d.size → 1 ≤ d'.size) := by
  cases Resizes.of_resizeRunning h with
  | invalid => exact ⟨⟨_, _, rfl⟩, ⟨_, _, rfl⟩, ⟨_, rfl⟩, id⟩
  | grown _ _ grows =>
    obtain ⟨⟨new, strays, rfl, hnew⟩, ⟨nextIndex, attempt, rfl⟩⟩ := grows.joins
    have used : ∀ lane ∈ new, lane.retired = false := fun lane hlane =>
      let ⟨_, _, _, started⟩ := hnew lane hlane
      started.used
    refine ⟨⟨_, _, rfl⟩, ⟨_, _, rfl⟩, ⟨_, rfl⟩, fun one => one.trans ?_⟩
    rw [Dispatcher.size_append d used]
    exact Nat.le_add_right _ _
  | shrunk some _ hs =>
    have hsize := d.size_shrink n metrics
    obtain ⟨lanes, frame⟩ := d.shrink_frame n metrics
    rw [hs] at hsize frame
    refine ⟨⟨lanes, d.strays, frame⟩, ⟨_, _, rfl⟩, ⟨_, rfl⟩, fun one => ?_⟩
    dsimp only at hsize
    omega

/-! ### Turns -/

/-- The turns of a dispatcher. A transaction for which a lane was chosen comes first: the lane gets it,
or, if it takes none any more, another one is looked for. Then comes a shutdown that was not heard of
yet, then the requests for a number of lanes, then the transaction that waits for a lane, and last
the input. -/
inductive Turn (pool : Pool P) (d : Dispatcher P) (s : Surroundings) :
    Pool P → Dispatcher P → Surroundings → Prop where
  | hand {t : Transaction} {position i : Nat} {lane : Lane P} (hp : d.phase = .serving)
      (hs : d.slot = .reserved t position) (hl : d.inUse[position]? = some (lane, i))
      (room : lane.queue.hasRoom = true) :
      Turn pool d s pool
        { d with
          lanes := d.lanes.set i { lane with queue := lane.queue.push t }
          cursor := position + 1
          slot := .empty }
        { s with metrics := s.metrics.count (pool.dispatchedStat lane.index) 1 }
  | keep {t : Transaction} {position : Nat} (hp : d.phase = .serving)
      (hs : d.slot = .reserved t position)
      (stale : ∀ l, d.inUse[position]? = some l → l.1.queue.hasRoom = false) :
      Turn pool d s pool { d with slot := .pending t } s
  | hear (hp : d.phase = .serving) (hs : ∀ t position, d.slot ≠ .reserved t position)
      (asked : pool.stopRequested = true) (hc : d.closing = false) :
      Turn pool d s pool { d with closing := true } { s with input := s.input.close }
  | resize {request : Dispatcher.Request} {later : List Dispatcher.Request}
      {result : Except PipelineError Unit} {pool' : Pool P} {d' : Dispatcher P}
      {metrics : Metrics.Store} (hp : d.phase = .serving)
      (hs : ∀ t position, d.slot ≠ .reserved t position)
      (heard : pool.stopRequested = true → d.closing = true) (hr : d.requests = request :: later)
      (h : pool.resizeRunning { d with requests := later } request.size s.metrics =
        (result, pool', d', metrics)) :
      Turn pool d s pool' { d' with replies := d'.replies ++ [(request.ticket, result)] }
        { s with metrics }
  | choose {t : Transaction} {position : Nat} (hp : d.phase = .serving)
      (hs : d.slot = .pending t)
      (h : reserveLane (d.inUse.map fun l => l.1.queue) d.cursor = .found position) :
      Turn pool d s pool { d with slot := .reserved t position } s
  | refuse {t : Transaction} (hp : d.phase = .serving) (hs : d.slot = .pending t)
      (h : reserveLane (d.inUse.map fun l => l.1.queue) d.cursor = .impossible) :
      Turn pool d s pool { d with slot := .empty }
        { s with
          ledger := (s.ledger.respond t.reply
            (.error (.delivery "no lane is accepting transactions"))).2
          metrics := s.metrics.count pool.undeliverableStat 1 }
  | read {t : Transaction} {rest : List Transaction} (hp : d.phase = .serving)
      (hs : d.slot = .empty) (heard : pool.stopRequested = true → d.closing = true)
      (hq : s.input.queue = t :: rest) :
      Turn pool d s pool { d with slot := .pending t }
        { s with input := { s.input with queue := rest } }
  | leave (hp : d.phase = .serving) (hs : d.slot = .empty)
      (heard : pool.stopRequested = true → d.closing = true) (hq : s.input.queue = [])
      (spent : s.input.closed = true ∨ s.fed = false) :
      Turn pool d s pool { d with phase := .leaving } s
  | retire (hp : d.phase = .leaving) :
      Turn pool d s pool { (d.shrink 0 s.metrics).1 with phase := .draining }
        { s with metrics := (d.shrink 0 s.metrics).2 }
  | finish (hp : d.phase = .draining) (all : ∀ lane ∈ d.lanes, lane.relayEnded = true) :
      Turn pool d s { pool with size := 0, done := true } { d with phase := .ended }
        { s with metrics := s.metrics.setGauge pool.lanesStat (0 : Nat), input := s.input.shut }

lemma Turn.of_handOff (hp : d.phase = .serving) {t : Transaction} {position : Nat}
    (hs : d.slot = .reserved t position) {metrics : Metrics.Store}
    (h : pool.handOff d t position s.metrics = (d', metrics)) :
    Turn pool d s pool d' { s with metrics } := by
  unfold handOff at h
  split at h
  next none =>
    cases h
    exact .keep hp hs (by simp [none])
  next lane i hl =>
    split at h
    next room =>
      cases h
      exact .hand hp hs hl room
    next noRoom =>
      cases h
      exact .keep hp hs (by simpa [hl] using noRoom)

lemma Turn.of_reserve (hp : d.phase = .serving) {t : Transaction} (hs : d.slot = .pending t)
    (h : pool.reserve d t s = some (d', s')) : Turn pool d s pool d' s' := by
  unfold reserve at h
  split at h
  next found =>
    cases h
    exact .choose hp hs found
  next => cases h
  next impossible =>
    cases h
    exact .refuse hp hs impossible

lemma Turn.of_readInput (hp : d.phase = .serving) (hs : d.slot = .empty)
    (heard : pool.stopRequested = true → d.closing = true)
    (h : readInput d s = some (d', s')) : Turn pool d s pool d' s' := by
  unfold readInput at h
  split at h
  next hq =>
    cases h
    exact .read hp hs heard hq
  next hq =>
    split at h
    next spent =>
      cases h
      exact .leave hp hs heard hq (by simpa using spent)
    next => cases h

lemma Turn.of_serve (hp : d.phase = .serving) {final : Pool P}
    (h : pool.serve d s = some (final, s')) :
    ∃ pool' d', Turn pool d s pool' d' s' ∧ final = pool'.withDispatcher d' := by
  unfold serve at h
  split at h
  next t position hs =>
    generalize ho : pool.handOff d t position s.metrics = handed at h
    obtain ⟨d₁, metrics⟩ := handed
    cases h
    exact ⟨pool, d₁, .of_handOff hp hs ho, rfl⟩
  next hs =>
    split at h
    next hstop =>
      cases h
      simp only [Bool.and_eq_true, Bool.not_eq_true'] at hstop
      exact ⟨pool, _, .hear hp hs hstop.1 hstop.2, rfl⟩
    next heard =>
      have heard : pool.stopRequested = true → d.closing = true := by simpa using heard
      split at h
      next request later hr =>
        generalize hg : pool.resizeRunning { d with requests := later } request.size s.metrics =
          resized at h
        obtain ⟨result, pool₁, d₁, metrics⟩ := resized
        cases h
        exact ⟨pool₁, _, .resize hp hs heard hr hg, rfl⟩
      next =>
        obtain ⟨⟨d₁, s₁⟩, hm, h⟩ := Option.map_eq_some_iff.mp h
        cases h
        refine ⟨pool, d₁, ?_, rfl⟩
        split at hm
        next t hs => exact .of_reserve hp hs hm
        next =>
          have hs : d.slot = .empty := by
            cases hslot : d.slot <;> simp_all
          exact .of_readInput hp hs heard hm

lemma withDispatcher_of_running (hstate : pool.state = .running d) (d' : Dispatcher P) :
    pool.withDispatcher d' = { pool with state := .running d' } := by
  simp [withDispatcher, hstate]

lemma recordSize_withDispatcher (pool : Pool P) (d : Dispatcher P) (n : Nat)
    (metrics : Metrics.Store) :
    ({ pool.withDispatcher d with done := true } : Pool P).recordSize n metrics =
      (({ pool with size := n, done := true } : Pool P).withDispatcher d,
        metrics.setGauge pool.lanesStat n) := by
  cases hstate : pool.state <;> simp [withDispatcher, recordSize, lanesStat, hstate]

/-- There are no other turns. -/
theorem Turn.of_dispatch {final : Pool P} (h : pool.dispatch d s = some (final, s')) :
    ∃ pool' d', Turn pool d s pool' d' s' ∧ final = pool'.withDispatcher d' := by
  unfold dispatch at h
  split at h
  next hp => exact Turn.of_serve hp h
  next hp =>
    cases h
    exact ⟨pool, _, .retire hp, rfl⟩
  next hp =>
    split at h
    next all =>
      simp only [recordSize_withDispatcher] at h
      cases h
      exact ⟨_, _, .finish hp (by simpa using all), rfl⟩
    next => cases h
  next => cases h

/-- A dispatcher hears of a shutdown before anything else, unless it is about to hand a transaction
over. -/
lemma dispatch_of_asked (hp : d.phase = .serving) (hs : ∀ t position, d.slot ≠ .reserved t position)
    (asked : pool.stopRequested = true) (hc : d.closing = false) (s : Surroundings) :
    pool.dispatch d s =
      some (pool.withDispatcher { d with closing := true }, { s with input := s.input.close }) := by
  cases hslot : d.slot with
  | reserved t position => exact absurd hslot (hs t position)
  | _ => simp [dispatch, serve, hp, hslot, asked, hc]

/-- A turn changes nothing of the pool but its three numbers and, at its end, the note that it is done. -/
lemma Turn.frame (h : Turn pool d s pool' d' s') :
    ∃ nextIndex attempt size done, pool' = { pool with nextIndex, attempt, size, done } := by
  cases h with
  | resize hp hs heard hr h =>
    obtain ⟨-, ⟨nextIndex, attempt, rfl⟩, -⟩ := resizeRunning_cases h
    exact ⟨_, _, _, _, rfl⟩
  | _ => exact ⟨_, _, _, _, rfl⟩

lemma Turn.state (h : Turn pool d s pool' d' s') : pool'.state = pool.state := by
  obtain ⟨nextIndex, attempt, size, done, rfl⟩ := h.frame
  rfl

/-! ### Calls of the owner -/

lemma with_running (hstate : pool.state = .running d) :
    ({ pool with state := .running d } : Pool P) = pool := by
  rw [← hstate]

/-- The owner of a bound pool only leaves requests for the dispatcher. -/
lemma setSize_of_running (hstate : pool.state = .running d) (ticket n : Nat)
    (metrics : Metrics.Store) :
    ∃ result requests, pool.setSize ticket n metrics =
      (result, { pool with state := .running { d with requests } }, metrics) := by
  unfold setSize
  split
  next => exact ⟨_, d.requests, by rw [with_running hstate]⟩
  next =>
    rw [hstate]
    dsimp only
    split
    next => exact ⟨_, d.requests, by rw [with_running hstate]⟩
    next => exact ⟨none, _, rfl⟩

lemma close_of_running (hstate : pool.state = .running d) (metrics : Metrics.Store) :
    pool.close metrics = ({ pool with stopRequested := true }, metrics) := by
  unfold close
  split
  next asked => rw [← asked]
  next => simp [requestStop, closeIfIdle, hstate]

/-! ### Other moves -/

/-- What the moves beside those of the dispatcher change: some lane, or some pipeline that could not be
started. They neither touch the input of the pool nor which lanes are in use. -/
lemma step_cases {process : Behaviour σ} {actor : Actor} (hstate : pool.state = .running d)
    (h : pool.step process actor s = some (pool', s')) :
    (actor = .dispatcher ∧ pool.dispatch d s = some (pool', s')) ∨
      ∃ lanes strays, pool' = { pool with state := .running { d with lanes, strays } } ∧
        ({ d with lanes, strays } : Dispatcher P).places = d.places ∧
        s'.input = s.input ∧ s'.fed = s.fed ∧
        (Pipeline.GaugeFree σ P → s'.metrics.gauges = s.metrics.gauges) := by
  have hd : pool.dispatcher? = some d := by simp [dispatcher?, hstate]
  simp only [step, hd] at h
  split at h
  next => cases h
  next => exact .inl ⟨rfl, h⟩
  next i =>
    obtain ⟨lane, hl, h⟩ := Option.bind_eq_some_iff.mp h
    obtain ⟨⟨lane', around⟩, hr, h⟩ := Option.map_eq_some_iff.mp h
    rw [withDispatcher_of_running hstate] at h
    cases h
    refine .inr ⟨_, d.strays, rfl, ?_⟩
    obtain ⟨retired, input, fed, metrics⟩ := Lane.relay_frame hr
    exact ⟨Dispatcher.places_set hl retired, input, fed, fun _ => by rw [metrics]⟩
  next i actor =>
    obtain ⟨lane, hl, h⟩ := Option.bind_eq_some_iff.mp h
    obtain ⟨⟨lane', around⟩, hr, h⟩ := Option.map_eq_some_iff.mp h
    rw [withDispatcher_of_running hstate] at h
    cases h
    obtain ⟨⟨p, inner⟩, hp, hr⟩ := Option.map_eq_some_iff.mp hr
    cases hr
    refine .inr ⟨_, d.strays, rfl, Dispatcher.places_set hl rfl, rfl, rfl, fun free => ?_⟩
    have same := free.step process actor _ _ _ _ hp
    exact same
  next i actor =>
    obtain ⟨stray, hl, h⟩ := Option.bind_eq_some_iff.mp h
    obtain ⟨⟨p, inner⟩, hp, h⟩ := Option.map_eq_some_iff.mp h
    rw [withDispatcher_of_running hstate] at h
    cases h
    refine .inr ⟨d.lanes, _, rfl, rfl, rfl, rfl, fun free => ?_⟩
    have same := free.step process actor _ _ _ _ hp
    exact same

/-- A bound pool stays so. -/
lemma step_frame {process : Behaviour σ} {actor : Actor} (hstate : pool.state = .running d)
    (h : pool.step process actor s = some (pool', s')) :
    ∃ nextIndex attempt size done d',
      pool' = { pool with nextIndex, attempt, size, done, state := .running d' } := by
  obtain ⟨-, hm⟩ | ⟨lanes, strays, rfl, -⟩ := step_cases hstate h
  · obtain ⟨pool₁, d', turn, rfl⟩ := Turn.of_dispatch hm
    obtain ⟨nextIndex, attempt, size, done, rfl⟩ := turn.frame
    refine ⟨nextIndex, attempt, size, done, d', ?_⟩
    rw [withDispatcher_of_running (by exact hstate)]
  · exact ⟨_, _, _, _, _, rfl⟩

/-- Only a pool that was bound has actors. -/
lemma running_of_step {process : Behaviour σ} {actor : Actor}
    (lost : ∀ d, pool.state ≠ .closed (some d))
    (h : pool.step process actor s = some (pool', s')) : ∃ d, pool.state = .running d := by
  cases hstate : pool.state with
  | running d => exact ⟨d, rfl⟩
  | idle lanes => simp [step, dispatcher?, hstate] at h
  | closed d =>
    cases d with
    | none => simp [step, dispatcher?, hstate] at h
    | some d => exact absurd hstate (lost d)

/-! ### Standstill -/

/-- Why a dispatcher cannot move: all lanes are full, the input is empty, some relay has not ended yet,
or it has ended itself. -/
inductive Stuck (pool : Pool P) (d : Dispatcher P) (s : Surroundings) : Prop where
  | full {t : Transaction} (hp : d.phase = .serving) (hs : d.slot = .pending t)
      (h : reserveLane (d.inUse.map fun l => l.1.queue) d.cursor = .wait)
  | starving (hp : d.phase = .serving) (hs : d.slot = .empty)
      (heard : pool.stopRequested = true → d.closing = true) (hq : s.input.queue = [])
      (hc : s.input.closed = false) (fed : s.fed = true)
  | draining (hp : d.phase = .draining) (some : ∃ lane ∈ d.lanes, lane.relayEnded = false)
  | ended (hp : d.phase = .ended)

/-- There is no other reason. -/
lemma Stuck.of_dispatch (h : pool.dispatch d s = none) : pool.Stuck d s := by
  unfold dispatch at h
  split at h
  next hp =>
    unfold serve at h
    split at h
    next => cases h
    next unreserved =>
      split at h
      next => cases h
      next heard =>
        have heard : pool.stopRequested = true → d.closing = true := by simpa using heard
        split at h
        next => cases h
        next =>
          have h := Option.map_eq_none_iff.mp h
          split at h
          next t hs =>
            unfold reserve at h
            split at h
            next => cases h
            next wait => exact .full hp hs wait
            next => cases h
          next notPending =>
            have hs : d.slot = .empty := by
              cases hs : d.slot with
              | empty => rfl
              | pending t => exact absurd hs (notPending t)
              | reserved t position => exact absurd hs (unreserved t position)
            unfold readInput at h
            split at h
            next => cases h
            next hq =>
              split at h
              next => cases h
              next spent =>
                simp only [Bool.or_eq_true, not_or, Bool.not_eq_true, Bool.not_eq_false'] at spent
                exact .starving hp hs heard hq spent.1 spent.2
  next => cases h
  next hp =>
    split at h
    next => cases h
    next all => exact .draining hp (by simpa using all)
  next hp => exact .ended hp

end Pool

end Conveyor
