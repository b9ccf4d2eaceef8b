import Conveyor.Processor
import Conveyor.Proofs.Pool.Making
import Mathlib.Logic.Relation
import Mathlib.Tactic.Common

/-!
# The moves inside a pool of processors

`Lane.Carry` lists what the relay of a lane can do, and `Pool.Move` what the dispatcher can do, with
the hand-over that an observer gets to know. A change of the number of lanes is a sequence of
elementary changes (`Dispatcher.Refit`): a lane is retired, a lane is started, or a pipeline that
could not be started is put aside.
-/

namespace Conveyor

variable {σ : Type}

/-! ### Processors as lanes -/

namespace Processor

/-- Whether no worker is at work. -/
def Rests (p : Processor σ) : Prop := p.phase = .idle ∨ p.phase = .ended ∨ p.phase = .closed

lemma step_of_rests (process : Behaviour σ) {p : Processor σ} (h : p.Rests) (s : Surroundings) :
    p.step process s = none := by
  rcases h with h | h | h <;> simp [step, h]

/-- A processor takes one input, and refuses all others. -/
lemma consume_cases {p : Processor σ} (hp : p.Rests) (queue : Channel) :
    (p.phase = .idle ∧ Pipeline.consume (Pipeline.takeOutput p) queue =
      (.ok (), { p with outputTaken := true, phase := .waiting }, queue)) ∨
    ∃ e, Pipeline.consume (Pipeline.takeOutput p) queue =
      (.error e, { p with outputTaken := true }, queue) := by
  rcases hp with hp | hp | hp
  · exact .inl ⟨hp, by simp [Pipeline.consume, Pipeline.takeOutput, consume, hp]⟩
  · exact .inr ⟨_, by simp [Pipeline.consume, Pipeline.takeOutput, consume, hp]; rfl⟩
  · exact .inr ⟨_, by simp [Pipeline.consume, Pipeline.takeOutput, consume, hp]; rfl⟩

end Processor

/-! ### Relays -/

namespace Lane

/-- The moves of the relay of a lane. It takes a result of the lane and delivers it to the output of
the pool, or loses it because nobody takes it, and finishes when no result is left and none can
come. -/
inductive Carry (lane : Lane (Processor σ)) (s : Surroundings) :
    Lane (Processor σ) → Surroundings → Prop where
  | take {t : Transaction} {rest : List Transaction} (active : lane.relayEnded = false)
      (hc : lane.carried = none) (hq : lane.output.queue = t :: rest) :
      Carry lane s { lane with carried := some t, output := { lane.output with queue := rest } } s
  | deliver {t : Transaction} (active : lane.relayEnded = false) (hc : lane.carried = some t)
      (room : s.output.hasRoom = true) :
      Carry lane s { lane with carried := none } { s with output := s.output.push t }
  | lose {t : Transaction} (active : lane.relayEnded = false) (hc : lane.carried = some t)
      (closed : s.output.closed = true) :
      Carry lane s { lane with carried := none } { s with ledger := s.ledger.abandon t.reply }
  | finish (active : lane.relayEnded = false) (hc : lane.carried = none)
      (hq : lane.output.queue = []) (spent : lane.pipeline.holdsOutput = false) :
      Carry lane s { lane with relayEnded := true, output := lane.output.shut } s

variable {lane lane' : Lane (Processor σ)} {s s' : Surroundings}

lemma Carry.of_relay (h : lane.relay s = some (lane', s')) : Carry lane s lane' s' := by
  unfold relay at h
  split at h
  next => cases h
  next active =>
    rw [Bool.not_eq_true] at active
    split at h
    next t hc =>
      split at h
      next closed =>
        cases h
        exact .lose active hc closed
      next =>
        split at h
        next room =>
          cases h
          exact .deliver active hc room
        next => cases h
    next hc =>
      split at h
      next hq =>
        cases h
        exact .take active hc hq
      next hq =>
        split at h
        next => cases h
        next spent =>
          cases h
          exact .finish active hc hq (Bool.eq_false_iff.mpr spent)

/-- A relay touches neither the queue nor the pipeline of its lane, nor the input of the pool. -/
lemma Carry.frame (h : Carry lane s lane' s') :
    lane'.queue = lane.queue ∧ lane'.pipeline = lane.pipeline ∧ lane'.retired = lane.retired ∧
      s'.input = s.input ∧ s'.fed = s.fed := by
  cases h <;> exact ⟨rfl, rfl, rfl, rfl, rfl⟩

lemma Carry.active (h : Carry lane s lane' s') : lane.relayEnded = false := by
  cases h <;> assumption

/-- A lane that has just been started. -/
def started (laneBuffer index : Nat) (p : Processor σ) : Lane (Processor σ) where
  index := index
  queue := .new laneBuffer
  pipeline := { p with outputTaken := true, phase := .waiting }
  output := .new p.outputCapacity

/-- A lane that was given up. -/
def givenUp (lane : Lane (Processor σ)) : Lane (Processor σ) :=
  { lane with pipeline := lane.pipeline.close, retired := true }

end Lane

/-! ### Changes of the number of lanes -/

namespace Dispatcher

/-- The elementary changes. -/
inductive Refit (d : Dispatcher (Processor σ)) : Dispatcher (Processor σ) → Prop where
  | retire {i : Nat} {lane : Lane (Processor σ)} (h : d.lanes[i]? = some lane) :
      Refit d { d with lanes := d.lanes.set i lane.givenUp }
  | start {p : Processor σ} (hp : p.phase = .idle) (laneBuffer index : Nat) :
      Refit d { d with lanes := d.lanes ++ [.started laneBuffer index p] }
  | stray {p : Processor σ} (hp : p.Rests) : Refit d { d with strays := d.strays ++ [p] }

/-- Any number of elementary changes. -/
abbrev Refits : Dispatcher (Processor σ) → Dispatcher (Processor σ) → Prop :=
  Relation.ReflTransGen Refit

variable {d d' : Dispatcher (Processor σ)}

lemma refits_retireAt (d : Dispatcher (Processor σ)) (i : Nat) (metrics : Metrics.Store) :
    Refits d (d.retireAt i metrics).1 := by
  unfold retireAt
  split
  next => exact .refl
  next lane h => exact .single (.retire h)

lemma refits_retireAll (d : Dispatcher (Processor σ)) (metrics : Metrics.Store)
    (ls : List (Lane (Processor σ) × Nat)) :
    Refits d (ls.foldl (fun (d, metrics) l => d.retireAt l.2 metrics) (d, metrics)).1 := by
  induction ls generalizing d metrics with
  | nil => exact .refl
  | cons l ls ih => exact (refits_retireAt d l.2 metrics).trans (ih _ _)

lemma refits_shrink (d : Dispatcher (Processor σ)) (n : Nat) (metrics : Metrics.Store) :
    Refits d (d.shrink n metrics).1 := refits_retireAll d metrics _

lemma refits_startLane {laneBuffer index : Nat} {p : Processor σ} (hp : p.Rests)
    {result : Except PipelineError Unit} (h : d.startLane laneBuffer index p = (result, d')) :
    Refits d d' := by
  unfold startLane at h
  split at h
  next =>
    cases h
    exact .refl
  next =>
    rcases Processor.consume_cases hp (.new laneBuffer) with ⟨hidle, hc⟩ | ⟨e, hc⟩
    · rw [hc] at h
      cases h
      exact .single (.start hidle laneBuffer index)
    · rw [hc] at h
      cases h
      exact .single (.stray hp)

lemma refits_startLanes {laneBuffer : Nat} {lanes : List (Nat × Processor σ)}
    (hp : ∀ l ∈ lanes, l.2.Rests) {result : Except PipelineError Unit}
    (h : Pool.startLanes laneBuffer d lanes = (result, d')) : Refits d d' := by
  induction lanes generalizing d with
  | nil =>
    cases h
    exact .refl
  | cons l lanes ih =>
    have first := hp l (List.mem_cons_self ..)
    simp only [Pool.startLanes] at h
    split at h
    next e grown hl =>
      cases h
      exact refits_startLane first hl
    next grown hl =>
      exact (refits_startLane first hl).trans (ih (fun l hl => hp l (List.mem_cons_of_mem _ hl)) h)

end Dispatcher

/-! ### Dispatchers -/

/-- What the next step of the dispatcher, if it can make one, lets an observer know: that it hands a
transaction to a lane. -/
def Dispatcher.report (d : Dispatcher (Processor σ)) : List (Nat × Transaction) :=
  match d.phase, d.slot with
  | .serving, .reserved t position =>
    match d.inUse[position]? with
    | some (lane, i) => if lane.queue.hasRoom then [(i, t)] else []
    | none           => []
  | _, _ => []

namespace Pool

/-- Whether the lanes that the pool makes are processors without a worker. -/
def MakesRested (pool : Pool (Processor σ)) : Prop :=
  ∀ attempt index p, (pool.construct attempt index).lane = .ok p → p.Rests

/-- Whether the pool is not bound yet, and none of its lanes has a worker. -/
def Ready (pool : Pool (Processor σ)) : Prop :=
  (∃ lanes, pool.state = .idle lanes ∧ ∀ l ∈ lanes, l.2.Rests) ∧ pool.MakesRested ∧
    pool.done = false

variable {pool pool' : Pool (Processor σ)} {d d' : Dispatcher (Processor σ)} {s s' : Surroundings}

/-! ### Pools that are not bound yet -/

lemma Offers.ready (h : pool.Offers Processor.Rests) : pool.Ready := by
  obtain ⟨⟨lanes, hidle, -, rests⟩, made, hdone⟩ := h
  exact ⟨⟨lanes, hidle, rests⟩, made, hdone⟩

/-- A new pool can be bound. -/
theorem ready_of_create {construct : Nat → Nat → LaneBuild (Processor σ)}
    (made : ∀ attempt index p, (construct attempt index).lane = .ok p → p.Rests)
    {threads laneBuffer outputCapacity : Nat} {metered : Bool} {metrics metrics' : Metrics.Store}
    (h : create construct threads laneBuffer outputCapacity metered metrics = (.ok pool, metrics')) :
    pool.Ready := (offers_of_create made h).ready

/-- A pool that is not bound yet stays so when its number of lanes is changed. -/
theorem Ready.setSize (h : pool.Ready) {ticket n : Nat} {metrics metrics' : Metrics.Store}
    {result : Option (Except PipelineError Unit)}
    (hs : pool.setSize ticket n metrics = (result, pool', metrics')) : pool'.Ready := by
  have whole := h
  obtain ⟨⟨lanes, hidle, rests⟩, made, hdone⟩ := h
  obtain ⟨-, rfl, -⟩ | ⟨d, requests, hrunning, -⟩ | ⟨lanes', answer, hidle', -, -, hr⟩ :=
    setSize_cases hs
  · exact whole
  · rw [hidle] at hrunning
    cases hrunning
  · obtain rfl := Pool.State.idle.inj (hidle.symm.trans hidle')
    obtain ⟨lanes', nextIndex, attempt, origin, reached⟩ := resizeIdle_cases hr
    have all : ∀ l ∈ lanes', l.2.Rests := fun l hl => (origin l hl).elim (rests l) (Builds.holds made)
    obtain ⟨-, -, rfl, -⟩ | ⟨-, -, -, rfl, -⟩ := reached
    all_goals exact ⟨⟨lanes', rfl, all⟩, made, hdone⟩

/-! ### Changes of the number of lanes of a bound pool -/

lemma Grows.refits {metrics metrics' : Metrics.Store} {count : Nat} {result : Except PipelineError Unit}
    (h : Grows pool d metrics count result pool' d' metrics') (made : pool.MakesRested) :
    Dispatcher.Refits d d' ∧ ∃ nextIndex attempt, pool' = { pool with nextIndex, attempt } := by
  induction h with
  | enough => exact ⟨.refl, _, _, rfl⟩
  | failed => exact ⟨.refl, _, _, rfl⟩
  | refused _ hlane hl =>
    exact ⟨Dispatcher.refits_startLane (made _ _ _ hlane) hl, _, _, rfl⟩
  | joined _ hlane started _ ih =>
    obtain ⟨refits, nextIndex, attempt, rfl⟩ := ih made
    refine ⟨.trans ?_ refits, nextIndex, attempt, rfl⟩
    exact Dispatcher.refits_startLane (made _ _ _ hlane) (Dispatcher.startLane_of_startedFrom started)

lemma refits_resizeRunning (made : pool.MakesRested) {metrics metrics' : Metrics.Store} {n : Nat}
    {result : Except PipelineError Unit}
    (h : pool.resizeRunning d n metrics = (result, pool', d', metrics')) :
    Dispatcher.Refits d d' ∧
      ∃ nextIndex attempt size, pool' = { pool with nextIndex, attempt, size } := by
  cases Resizes.of_resizeRunning h with
  | invalid => exact ⟨.refl, _, _, _, rfl⟩
  | grown _ _ grows =>
    obtain ⟨refits, nextIndex, attempt, rfl⟩ := grows.refits made
    exact ⟨refits, _, _, _, rfl⟩
  | shrunk _ _ hs =>
    have refits := Dispatcher.refits_shrink d n metrics
    rw [hs] at refits
    exact ⟨refits, _, _, _, rfl⟩

/-- The moves of the dispatcher. It hears of a shutdown and closes its input, and resizes when it was
asked to. It reads a transaction, chooses a lane for it or refuses it, and hands it to the lane that
was chosen, or keeps it when that lane takes none any more. It leaves its input when no transaction is
left and none can come, retires all lanes, and finishes when all relays have ended. -/
inductive Move (pool : Pool (Processor σ)) (d : Dispatcher (Processor σ)) (s : Surroundings) :
    List (Nat × Transaction) → Pool (Processor σ) → Dispatcher (Processor σ) → Surroundings → Prop where
  | hear (hp : d.phase = .serving) (asked : pool.stopRequested = true) (hc : d.closing = false) :
      Move pool d s [] pool { d with closing := true } { s with input := s.input.close }
  | resize {requests : List Dispatcher.Request} {d' : Dispatcher (Processor σ)}
      (hp : d.phase = .serving) (refits : Dispatcher.Refits { d with requests } d')
      (replies : List (Nat × Except PipelineError Unit)) (nextIndex attempt size : Nat)
      (metrics : Metrics.Store) :
      Move pool d s [] { pool with nextIndex, attempt, size } { d' with replies } { s with metrics }
  | choose {t : Transaction} (hp : d.phase = .serving) (hs : d.slot = .pending t)
      (position : Nat) : Move pool d s [] pool { d with slot := .reserved t position } s
  | refuse {t : Transaction} (hp : d.phase = .serving) (hs : d.slot = .pending t)
      (metrics : Metrics.Store) :
      Move pool d s [] pool { d with slot := .empty }
        { s with
          ledger := (s.ledger.respond t.reply
            (.error (.delivery "no lane is accepting transactions"))).2
          metrics }
  | hand {t : Transaction} {position i : Nat} {lane : Lane (Processor σ)} (hp : d.phase = .serving)
      (hs : d.slot = .reserved t position) (hl : d.lanes[i]? = some lane)
      (used : lane.retired = false) (room : lane.queue.hasRoom = true) (cursor : Nat)
      (metrics : Metrics.Store) :
      Move pool d s [(i, t)] pool
        { d with
          lanes := d.lanes.set i { lane with queue := lane.queue.push t }
          cursor, slot := .empty }
        { s with metrics }
  | keep {t : Transaction} {position : Nat} (hp : d.phase = .serving)
      (hs : d.slot = .reserved t position) : Move pool d s [] pool { d with slot := .pending t } s
  | read {t : Transaction} {rest : List Transaction} (hp : d.phase = .serving)
      (hs : d.slot = .empty) (hq : s.input.queue = t :: rest) :
      Move pool d s [] pool { d with slot := .pending t }
        { s with input := { s.input with queue := rest } }
  | leave (hp : d.phase = .serving) (hs : d.slot = .empty) (hq : s.input.queue = [])
      (spent : s.input.closed = true ∨ s.fed = false) :
      Move pool d s [] pool { d with phase := .leaving } s
  | retire {d' : Dispatcher (Processor σ)} (hp : d.phase = .leaving)
      (refits : Dispatcher.Refits d d') (all : ∀ lane ∈ d'.lanes, lane.retired = true)
      (metrics : Metrics.Store) :
      Move pool d s [] pool { d' with phase := .draining } { s with metrics }
  | finish (hp : d.phase = .draining) (all : ∀ lane ∈ d.lanes, lane.relayEnded = true)
      (metrics : Metrics.Store) :
      Move pool d s [] { pool with size := 0, done := true } { d with phase := .ended }
        { s with metrics, input := s.input.shut }

/-- What `d.report` is when no reservation is used. -/
lemma report_of_ne (hs : ∀ t position, d.slot ≠ .reserved t position) : d.report = [] := by
  unfold Dispatcher.report
  split
  next hslot => exact absurd hslot (hs _ _)
  next => rfl

lemma report_of_phase (hp : d.phase ≠ .serving) : d.report = [] := by
  unfold Dispatcher.report
  split
  next hserving _ => exact absurd hserving hp
  next => rfl

lemma report_of_stale {t : Transaction} {position : Nat} (hs : d.slot = .reserved t position)
    (stale : ∀ l, d.inUse[position]? = some l → l.1.queue.hasRoom = false) : d.report = [] := by
  cases hl : d.inUse[position]? with
  | none => cases hp : d.phase <;> simp [Dispatcher.report, hp, hs, hl]
  | some l => cases hp : d.phase <;> simp [Dispatcher.report, hp, hs, hl, stale l hl]

/-- Every turn is a move, with the report that an observer gets. -/
lemma Move.of_turn (made : pool.MakesRested) (turn : Turn pool d s pool' d' s') :
    Move pool d s d.report pool' d' s' := by
  cases turn with
  | @hand t position i lane hp hs hl room =>
    have report : d.report = [(i, t)] := by simp [Dispatcher.report, hp, hs, hl, room]
    obtain ⟨hlane, used⟩ := Dispatcher.mem_inUse.mp (List.mem_of_getElem? hl)
    rw [report]
    exact .hand hp hs hlane used room _ _
  | @keep t position hp hs stale =>
    rw [report_of_stale hs stale]
    exact .keep hp hs
  | hear hp hs asked hc =>
    rw [report_of_ne hs]
    exact .hear hp asked hc
  | resize hp hs heard hr h =>
    rw [report_of_ne hs]
    obtain ⟨refits, nextIndex, attempt, size, rfl⟩ := refits_resizeRunning made h
    exact .resize hp refits _ nextIndex attempt size _
  | choose hp hs =>
    rw [report_of_ne (by simp [hs])]
    exact .choose hp hs _
  | refuse hp hs =>
    rw [report_of_ne (by simp [hs])]
    exact .refuse hp hs _
  | read hp hs heard hq =>
    rw [report_of_ne (by simp [hs])]
    exact .read hp hs hq
  | leave hp hs heard hq spent =>
    rw [report_of_ne (by simp [hs])]
    exact .leave hp hs hq spent
  | retire hp =>
    rw [report_of_phase (by simp [hp])]
    exact .retire hp (Dispatcher.refits_shrink d 0 s.metrics) (d.retired_of_shrink s.metrics) _
  | finish hp all =>
    rw [report_of_phase (by simp [hp])]
    exact .finish hp all _

end Pool

end Conveyor
