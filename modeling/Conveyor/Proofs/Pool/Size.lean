import Conveyor.Processor
import Conveyor.Proofs.Pool.Making

/-!
# The recorded number of lanes

A pool records its number of lanes on the side, for those who ask for it and as a gauge. `Pool.Sized`
says how the record agrees with the lanes as long as the pool is not shutting down: both the calls of
the owner and the moves of the actors keep it.
-/

namespace Conveyor

/-! ### Gauges -/

namespace Metrics.Store

@[simp] lemma gauges_count (s : Store) (stat : Stat) (n : Int) : (s.count stat n).gauges = s.gauges := by
  cases stat <;> rfl

@[simp] lemma gauges_time (s : Store) (stat : Stat) (delta : Duration) :
    (s.time stat delta).2.gauges = s.gauges := by
  cases stat with
  | discarded => rfl
  | recorded key =>
    simp only [time]
    split <;> rfl

end Metrics.Store

namespace Processor

variable {σ : Type} {process : Behaviour σ} {p p' : Processor σ} {s s' : Surroundings}

lemma gauges_listen (h : p.listen s = some (p', s')) : s'.metrics.gauges = s.metrics.gauges := by
  unfold listen at h
  split at h
  next =>
    cases h
    rfl
  next =>
    split at h
    next =>
      cases h
      simp
    next =>
      split at h <;> cases h
      rfl

lemma gauges_runStages (process : Behaviour σ) (p : Processor σ) (t : Transaction)
    (s : Surroundings) : (p.runStages process t s).2.metrics.gauges = s.metrics.gauges := by
  unfold runStages
  dsimp only
  split
  next =>
    dsimp only
    split <;> simp
  next => simp

lemma gauges_emit {origin : Nat} {results : List Message} {sent : List Nat}
    (h : p.emit origin results sent s = some (p', s')) :
    s'.metrics.gauges = s.metrics.gauges := by
  unfold emit at h
  split at h
  next =>
    cases h
    simp
  next =>
    dsimp only at h
    split at h
    next =>
      cases h
      rfl
    next =>
      split at h <;> cases h
      rfl

lemma gauges_join {origin : Nat} {unread watched : List Nat} {failure : Option Failure}
    (h : p.join origin unread watched failure s = some (p', s')) :
    s'.metrics.gauges = s.metrics.gauges := by
  unfold join at h
  split at h
  next => split at h <;> cases h <;> rfl
  next =>
    split at h
    next =>
      cases h
      dsimp only
      split <;> simp
    next =>
      obtain ⟨id, -, h⟩ := Option.map_eq_some_iff.mp h
      cases h
      rfl

/-- Processors leave all gauges alone. -/
lemma gaugeFree (σ : Type) : Pipeline.GaugeFree σ (Processor σ) where
  close _ _ := rfl
  step process actor p p' s s' h := by
    cases actor with
    | worker =>
      have h : p.step process s = some (p', s') := h
      unfold step at h
      split at h
      next => exact gauges_listen h
      next t hp =>
        have same := gauges_runStages process p t s
        rwa [Option.some.inj h] at same
      next => exact gauges_emit h
      next => exact gauges_join h
      all_goals cases h
    | _ => cases h

end Processor

namespace Pool

variable {σ P : Type} [Pipeline σ P] {pool pool' : Pool P} {d : Dispatcher P}
  {metrics metrics' : Metrics.Store} {drifting : Bool}

/-! ### What is held and what is recorded -/

/-- The number of lanes of a pool that is not shutting down: those that are ready to be started, or
those in use. -/
def held? (pool : Pool P) : Option Nat :=
  match pool.state with
  | .idle lanes => some lanes.length
  | .running d  => if d.phase = .serving then some d.size else none
  | .closed _   => none

/-- Whether a request for a number of lanes was handled since the pool was bound. -/
def resized (pool : Pool P) : Bool := pool.dispatcher?.any fun d => !d.replies.isEmpty

/-- Whether only the pool itself sets the gauge of its lanes. -/
structure Gauged (σ : Type) {P : Type} [Pipeline σ P] (pool : Pool P) : Prop where
  discreet : Discreet pool.construct
  free : Pipeline.GaugeFree σ P
  metered : pool.metered = true

/-- How the record of a pool agrees with the number of lanes that it holds. It may be behind as long as
it is known to drift. -/
structure Records (σ : Type) {P : Type} [Pipeline σ P] (pool : Pool P) (metrics : Metrics.Store)
    (drifting : Bool) (held : Nat) : Prop where
  pos : 1 ≤ pool.size
  le : pool.size ≤ held
  exact : drifting = false ∨ pool.resized = true → pool.size = held
  gauge : pool.Gauged σ → metrics.gauges.get? "pipeline.pool.lanes" = some (pool.size : Int)

/-- Whether the record agrees with the lanes of a pool unless it is shutting down. -/
def Sized (σ : Type) {P : Type} [Pipeline σ P] (pool : Pool P) (metrics : Metrics.Store)
    (drifting : Bool) : Prop :=
  ∀ held, pool.held? = some held → pool.Records σ metrics drifting held

/-- Whether the record drifts after an answer to a request for `n` lanes. -/
def drifts (drifting : Bool) (n : Nat) : Except PipelineError Unit → Bool
  | .ok ()   => false
  | .error _ => drifting || n ≠ 0

lemma get?_setGauge_lanesStat (metered : pool.metered = true) (metrics : Metrics.Store) (n : Int) :
    (metrics.setGauge pool.lanesStat n).gauges.get? "pipeline.pool.lanes" = some n := by
  have key : pool.lanesStat = .recorded "pipeline.pool.lanes" := by
    simp [lanesStat, metered, Metrics.Stat.plain, Metrics.renderKey]
  simp [key, Metrics.Store.setGauge]

lemma Sized.of_none (none : pool.held? = none) : pool.Sized σ metrics drifting := fun held h => by
  simp [none] at h

/-- A change that the record does not depend on. -/
lemma Sized.of_same (h : pool.Sized σ metrics drifting) (held : pool'.held? = pool.held?)
    (resized : pool'.resized = pool.resized) (size : pool'.size = pool.size)
    (construct : pool'.construct = pool.construct) (metered : pool'.metered = pool.metered)
    (gauges : pool.Gauged σ → metrics'.gauges = metrics.gauges) :
    pool'.Sized σ metrics' drifting := by
  intro n hn
  obtain ⟨pos, le, exact, gauge⟩ := h n (held ▸ hn)
  refine ⟨size ▸ pos, size ▸ le, by simpa [size, resized] using exact, fun own => ?_⟩
  have own : pool.Gauged σ := ⟨construct ▸ own.discreet, own.free, metered ▸ own.metered⟩
  rw [gauges own, gauge own, size]

/-- A new record is right. -/
lemma Sized.of_record {n : Nat} (pos : 1 ≤ n) (held : pool.held? = some n) (size : pool.size = n)
    (gauge : ∃ metrics₁ : Metrics.Store, metrics = metrics₁.setGauge pool.lanesStat n) :
    pool.Sized σ metrics drifting := by
  intro n' hn
  obtain rfl := Option.some.inj (held.symm.trans hn)
  obtain ⟨metrics₁, rfl⟩ := gauge
  refine ⟨size ▸ pos, size.le, fun _ => size, fun own => ?_⟩
  rw [get?_setGauge_lanesStat own.metered, size]

/-! ### It is kept -/

/-- A new pool has recorded its lanes. -/
lemma sized_of_create {construct : Nat → Nat → LaneBuild P}
    {threads laneBuffer outputCapacity : Nat} {metered : Bool}
    (h : create construct threads laneBuffer outputCapacity metered metrics = (.ok pool, metrics')) :
    pool.Sized σ metrics' drifting := by
  unfold create at h
  split at h
  next => cases h
  next some =>
    generalize hbuilt : constructFrom construct metrics threads 0 = built at h
    obtain ⟨result, metrics₁⟩ := built
    cases result with
    | error e => cases h
    | ok lanes =>
      obtain ⟨-, hcount, -⟩ := made_of_constructFrom hbuilt
      cases h
      exact .of_record (Nat.pos_of_ne_zero some) (congrArg Option.some hcount) rfl ⟨metrics₁, rfl⟩

/-- An answer to a request for a number of lanes comes with a record of this number. A lane that fails
leaves the record behind. -/
lemma Sized.setSize (h : pool.Sized σ metrics drifting) {ticket n : Nat}
    {result : Option (Except PipelineError Unit)}
    (hs : pool.setSize ticket n metrics = (result, pool', metrics')) :
    pool'.Sized σ metrics' (result.elim drifting (drifts drifting n)) := by
  obtain ⟨⟨error, rfl⟩, rfl, rfl, refused⟩ | ⟨d, requests, hrunning, rfl, rfl, rfl⟩ |
    ⟨lanes, answer, hidle, some, rfl, hr⟩ := setSize_cases hs
  · rcases refused with rfl | ⟨d, hrunning, ended⟩ | ⟨d, hclosed⟩
    · simpa [drifts] using h
    · exact .of_none (by simp [held?, hrunning, ended])
    · exact .of_none (by simp [held?, hclosed])
  · refine h.of_same ?_ ?_ rfl rfl rfl fun _ => rfl
    · simp only [held?, hrunning]
      rfl
    · simp [resized, dispatcher?, hrunning]
  · obtain ⟨lanes', nextIndex, attempt, -,
      ⟨rfl, hcount, rfl, gauge⟩ | ⟨⟨error, rfl⟩, more, -, rfl, same⟩⟩ := resizeIdle_cases hr
    · exact .of_record (Nat.pos_of_ne_zero some) (congrArg Option.some hcount) rfl gauge
    · -- the lanes before the one that failed were added, and nothing was recorded
      intro held hheld
      obtain rfl : lanes'.length = held := Option.some.inj hheld
      obtain ⟨pos, le, -, gauge⟩ := h lanes.length (by simp [held?, hidle])
      refine ⟨pos, le.trans more, by simp [drifts, some, resized, dispatcher?], fun own => ?_⟩
      have own : pool.Gauged σ := ⟨own.discreet, own.free, own.metered⟩
      rw [same own.discreet, gauge own]

/-- Binding starts the lanes that were there, or closes the pool. -/
lemma Sized.consume (h : pool.Sized σ metrics drifting) :
    pool.consume.2.Sized σ metrics drifting := by
  cases hc : pool.consume with
  | mk result pool' =>
    cases result with
    | ok =>
      obtain ⟨lanes, new, strays, hidle, rfl, hnew, hcount⟩ := consume_cases hc
      have used : ∀ lane ∈ new, lane.retired = false := fun lane hlane =>
        let ⟨_, _, started⟩ := hnew lane hlane
        started.used
      -- the lanes that were ready become the lanes in use
      have started : ({ lanes := new, strays } : Dispatcher P).size = lanes.length := by
        have added : ({ lanes := [] ++ new, strays } : Dispatcher P).size = 0 + new.length :=
          Dispatcher.size_append {} used
        simpa [hcount] using added
      refine h.of_same ?_ ?_ rfl rfl rfl fun _ => rfl
      · simp [held?, hidle, started]
      · simp [resized, dispatcher?, hidle]
    | error e =>
      unfold Pool.consume at hc
      split at hc
      next =>
        cases hc
        exact h
      next =>
        cases hc
        exact h
      next =>
        split at hc <;> cases hc
        exact .of_none rfl

lemma Sized.closeIfIdle (h : pool.Sized σ metrics drifting) :
    (pool.closeIfIdle metrics).1.Sized σ (pool.closeIfIdle metrics).2 drifting := by
  unfold Pool.closeIfIdle
  split
  next => exact .of_none rfl
  next => exact h

variable {s s' : Surroundings}

/-- A turn of a dispatcher that goes on serving changes the lanes in use only when it handles a
request, and records their number then. -/
lemma Sized.turn (h : pool.Sized σ s.metrics drifting) (hstate : pool.state = .running d)
    {d' : Dispatcher P} (turn : pool.Turn d s pool' d' s') :
    Sized σ { pool' with state := .running d' } s'.metrics drifting := by
  have held {d₁ : Dispatcher P} (hp : d.phase = .serving) (hp₁ : d₁.phase = .serving)
      (size : d₁.size = d.size) :
      ({ pool with state := .running d₁ } : Pool P).held? = pool.held? := by
    simp [held?, hstate, hp, hp₁, size]
  have resized {d₁ : Dispatcher P} (replies : d₁.replies = d.replies) :
      ({ pool with state := .running d₁ } : Pool P).resized = pool.resized := by
    simp [resized, dispatcher?, hstate, replies]
  cases turn with
  | @hand t position i lane hp hs hl room =>
    have member := Dispatcher.mem_inUse.mp (List.mem_of_getElem? hl)
    have size : Dispatcher.size
        { d with lanes := d.lanes.set i { lane with queue := lane.queue.push t } } = d.size :=
      Dispatcher.size_set member.1 rfl
    exact h.of_same (held hp hp size) (resized rfl) rfl rfl rfl fun _ => by simp
  | keep hp | hear hp | choose hp | read hp =>
    exact h.of_same (held hp hp rfl) (resized rfl) rfl rfl rfl fun _ => rfl
  | refuse hp => exact h.of_same (held hp hp rfl) (resized rfl) rfl rfl rfl fun _ => by simp
  | resize hp hs heard hr hg =>
    obtain ⟨⟨lanes, strays, rfl⟩, ⟨nextIndex, attempt, rfl⟩, gauge, kept⟩ := resizeRunning_cases hg
    obtain ⟨pos, le, -⟩ := h d.size (by simp [held?, hstate, hp])
    exact .of_record (kept (pos.trans le)) (by simp [held?, hp]; rfl) rfl gauge
  | leave hp => exact .of_none rfl
  | retire hp => exact .of_none rfl
  | finish hp => exact .of_none rfl

/-- A pool that was closed stays so. -/
lemma closed_of_step {process : Behaviour σ} {actor : Actor} {lost : Option (Dispatcher P)}
    (hstate : pool.state = .closed lost) (h : pool.step process actor s = some (pool', s')) :
    ∃ lost', pool'.state = .closed lost' := by
  have keep (d : Dispatcher P) : (pool.withDispatcher d).state = .closed (some d) := by
    simp [withDispatcher, hstate]
  cases lost with
  | none => simp [step, dispatcher?, hstate] at h
  | some d =>
    simp only [step, dispatcher?, hstate] at h
    split at h
    next => cases h
    next =>
      obtain ⟨pool₁, d', turn, rfl⟩ := Turn.of_dispatch h
      exact ⟨some d', by simp [withDispatcher, turn.state, hstate]⟩
    next i =>
      obtain ⟨lane, -, h⟩ := Option.bind_eq_some_iff.mp h
      obtain ⟨_, -, h⟩ := Option.map_eq_some_iff.mp h
      cases h
      exact ⟨_, keep _⟩
    next i actor =>
      obtain ⟨lane, -, h⟩ := Option.bind_eq_some_iff.mp h
      obtain ⟨_, -, h⟩ := Option.map_eq_some_iff.mp h
      cases h
      exact ⟨_, keep _⟩
    next i actor =>
      obtain ⟨stray, -, h⟩ := Option.bind_eq_some_iff.mp h
      obtain ⟨_, -, h⟩ := Option.map_eq_some_iff.mp h
      cases h
      exact ⟨_, keep _⟩

/-- No move of an actor leaves the record behind. -/
lemma Sized.step (h : pool.Sized σ s.metrics drifting) {process : Behaviour σ} {actor : Actor}
    (hm : pool.step process actor s = some (pool', s')) :
    pool'.Sized σ s'.metrics drifting := by
  cases hstate : pool.state with
  | idle lanes => simp [Pool.step, dispatcher?, hstate] at hm
  | closed lost =>
    obtain ⟨lost', closed⟩ := closed_of_step hstate hm
    exact .of_none (by simp [held?, closed])
  | running d =>
    obtain ⟨-, hm⟩ | ⟨lanes, strays, rfl, places, -, -, gauges⟩ := step_cases hstate hm
    · obtain ⟨pool₁, d', turn, rfl⟩ := Turn.of_dispatch hm
      rw [withDispatcher_of_running (turn.state.trans hstate)]
      exact h.turn hstate turn
    · refine h.of_same ?_ ?_ rfl rfl rfl fun own => gauges own.free
      · simp [held?, hstate, Dispatcher.size_eq, places]
      · simp [resized, dispatcher?, hstate]

end Pool

end Conveyor
