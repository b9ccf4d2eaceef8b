import Conveyor.Pool.Blueprint
import Conveyor.Proofs.Pool.Renumbering
import Mathlib.Algebra.Order.Ring.Int

/-!
# Winding up

A pipeline that was bound and never got a transaction has nothing left to do but to end. What a pool
relies on when it gives such a lane up is a contract (`Pipeline.Winding`): the lane answers nothing and
emits nothing, and it drops its output after finitely many moves. If the lanes of a pool keep the
contract the pool winds up likewise (`Pool.winds_of_step`, `Pool.progress_of_calm`), so that it keeps
the contract as a lane of another pool (`Pool.winding`), whatever the depth (`Nested.winding`).
-/

namespace Conveyor

/-- How pipelines of a kind wind up: a pipeline that holds no transaction, and whose input is empty,
answers nothing and emits nothing, and it has finitely many moves left. Once it was asked to shut down
and nobody can send to it any more, it can move until it drops its output. -/
structure Pipeline.Winding {σ : Type} (process : Behaviour σ) (P : Type) [Pipeline σ P] where
  /-- Whether a pipeline is bound and holds no transaction. -/
  calm : P → Prop
  /-- How many moves are left at most. -/
  left : P → ℕ
  start : ∀ {pipeline bound : P} {capacity : Nat} {queue : Channel},
    Pipeline.outputTaken pipeline = false →
      Pipeline.consume (Pipeline.takeOutput pipeline) (.new capacity) = (.ok (), bound, queue) →
        calm bound ∧ queue.queue = []
  close : ∀ {pipeline : P} (metrics : Metrics.Store), calm pipeline →
    calm (Pipeline.close pipeline metrics).1 ∧
      left (Pipeline.close pipeline metrics).1 ≤ left pipeline
  step : ∀ {pipeline pipeline' : P} {actor : Actor} {s s' : Surroundings}, calm pipeline →
    s.input.queue = [] → Pipeline.step process actor pipeline s = some (pipeline', s') →
      calm pipeline' ∧ left pipeline' < left pipeline ∧ s'.input.queue = [] ∧
        s'.output.queue = s.output.queue ∧ s'.ledger = s.ledger
  progress : ∀ {pipeline : P} {s : Surroundings}, calm pipeline → s.input.queue = [] →
    s.fed = false → Pipeline.holdsOutput pipeline = true →
      ∃ actor, (Pipeline.step process actor pipeline s).isSome

variable {σ P : Type} [Pipeline σ P] {process : Behaviour σ} {contract : Pipeline.Winding process P}

/-! ### Lanes -/

namespace Lane

/-- Whether no transaction is inside a lane. -/
structure Calm (contract : Pipeline.Winding process P) (lane : Lane P) : Prop where
  queue : lane.queue.queue = []
  output : lane.output.queue = []
  carried : lane.carried = none
  pipeline : contract.calm lane.pipeline

/-- How many moves the pipeline and the relay of a lane have left at most. -/
def left (contract : Pipeline.Winding process P) (lane : Lane P) : ℕ :=
  contract.left lane.pipeline + (!lane.relayEnded).toNat

variable {lane lane' : Lane P} {s s' : Surroundings}

lemma StartedFrom.calm {laneBuffer index : Nat} {pipeline : P}
    (h : lane.StartedFrom laneBuffer index pipeline) : lane.Calm contract := by
  obtain ⟨untaken, bound, queue, hc, rfl⟩ := h
  obtain ⟨calm, empty⟩ := contract.start untaken hc
  exact ⟨empty, rfl, rfl, calm⟩

lemma Calm.retire (h : lane.Calm contract) (metrics : Metrics.Store) :
    (lane.retire metrics).1.Calm contract ∧
      (lane.retire metrics).1.left contract ≤ lane.left contract := by
  obtain ⟨calm, less⟩ := contract.close metrics h.pipeline
  exact ⟨⟨h.queue, h.output, h.carried, calm⟩, Nat.add_le_add_right less _⟩

/-- What a move inside a lane that holds no transaction does: there is less left to be done, and
nothing changes outside but the metrics. -/
structure Winds (contract : Pipeline.Winding process P) (lane lane' : Lane P) (s s' : Surroundings) :
    Prop where
  calm : lane'.Calm contract
  left : lane'.left contract < lane.left contract
  index : lane'.index = lane.index
  retired : lane'.retired = lane.retired
  relay : lane.relayEnded = true → lane'.relayEnded = true
  around : s' = { s with metrics := s'.metrics }

/-- The relay of a lane that holds no transaction can only end. -/
lemma Calm.relay (h : lane.Calm contract) (hr : lane.relay s = some (lane', s')) :
    Winds contract lane lane' s s' := by
  simp only [Lane.relay, h.carried, h.output] at hr
  split at hr
  next => cases hr
  next active =>
    split at hr <;> cases hr
    refine ⟨⟨h.queue, rfl, rfl, h.pipeline⟩, ?_, rfl, rfl, fun _ => rfl, rfl⟩
    simp [Lane.left, Bool.eq_false_iff.mpr active]

lemma Calm.step (h : lane.Calm contract) {actor : Actor}
    (hs : lane.step process actor s = some (lane', s')) : Winds contract lane lane' s s' := by
  obtain ⟨⟨pipeline, inner⟩, hp, hs⟩ := Option.map_eq_some_iff.mp hs
  obtain ⟨calm, less, input, output, ledger⟩ := contract.step h.pipeline h.queue hp
  cases hs
  refine ⟨⟨input, output.trans h.output, h.carried, calm⟩, Nat.add_lt_add_right less _, rfl, rfl, id,
    ?_⟩
  rw [ledger]
  rfl

/-- The lane of a pool that shuts it down can move until its relay has ended. -/
lemma Calm.progress (h : lane.Calm contract) (retired : lane.retired = true)
    (active : lane.relayEnded = false) (s : Surroundings) :
    (lane.relay s).isSome ∨ ∃ actor, (lane.step process actor s).isSome := by
  cases holds : Pipeline.holdsOutput lane.pipeline with
  | true =>
    have unfed : (lane.surroundings s).fed = false := by simp [surroundings, retired]
    obtain ⟨actor, moves⟩ := contract.progress h.pipeline (s := lane.surroundings s) h.queue unfed holds
    exact .inr ⟨actor, Option.isSome_map.trans moves⟩
  | false => exact .inl (by simp [Lane.relay, active, h.carried, h.output, holds])

end Lane

/-! ### Dispatchers -/

namespace Dispatcher

variable {d d' : Dispatcher P}

/-- Lanes of which there is less when they are retired are less in sum after one was retired. -/
lemma sum_retireAt_le {Q : Lane P → Prop} {weight : Lane P → ℕ}
    (retire : ∀ lane metrics, Q lane →
      Q (lane.retire metrics).1 ∧ weight (lane.retire metrics).1 ≤ weight lane)
    (i : Nat) (metrics : Metrics.Store) (h : ∀ lane ∈ d.lanes, Q lane) :
    (∀ lane ∈ (d.retireAt i metrics).1.lanes, Q lane) ∧
      ((d.retireAt i metrics).1.lanes.map weight).sum ≤ (d.lanes.map weight).sum := by
  unfold retireAt
  split
  next => exact ⟨h, Nat.le_refl _⟩
  next lane hl =>
    obtain ⟨keep, less⟩ := retire lane metrics (h lane (List.mem_of_getElem? hl))
    obtain ⟨rest, before, after⟩ := sum_map_set hl weight
    refine ⟨forall_mem_set h keep, ?_⟩
    rw [after, before]
    exact Nat.add_le_add_right less _

lemma sum_shrink_le {Q : Lane P → Prop} {weight : Lane P → ℕ}
    (retire : ∀ lane metrics, Q lane →
      Q (lane.retire metrics).1 ∧ weight (lane.retire metrics).1 ≤ weight lane)
    (n : Nat) (metrics : Metrics.Store) (h : ∀ lane ∈ d.lanes, Q lane) :
    (∀ lane ∈ (d.shrink n metrics).1.lanes, Q lane) ∧
      ((d.shrink n metrics).1.lanes.map weight).sum ≤ (d.lanes.map weight).sum := by
  unfold shrink
  generalize (d.inUse.drop n).reverse = ls
  induction ls generalizing d metrics with
  | nil => exact ⟨h, Nat.le_refl _⟩
  | cons l ls ih =>
    rw [List.foldl_cons]
    obtain ⟨keep, less⟩ := sum_retireAt_le retire l.2 metrics h
    obtain ⟨all, later⟩ := ih (d.retireAt l.2 metrics).2 keep
    exact ⟨all, later.trans less⟩

/-- Whether a dispatcher holds no transaction, in its lanes neither, and has no request to answer. -/
structure Calm (contract : Pipeline.Winding process P) (d : Dispatcher P) : Prop where
  slot : d.slot = .empty
  requests : d.requests = []
  lanes : ∀ lane ∈ d.lanes, lane.Calm contract
  retired : d.phase = .draining ∨ d.phase = .ended → ∀ lane ∈ d.lanes, lane.retired = true
  ended : d.phase = .ended → ∀ lane ∈ d.lanes, lane.relayEnded = true

/-- How many moves a dispatcher has left at most, together with its lanes. -/
def left (contract : Pipeline.Winding process P) (d : Dispatcher P) : ℕ :=
  d.phase.ahead + (!d.closing).toNat + (d.lanes.map (Lane.left contract)).sum

/-- What a move of a dispatcher or inside its lanes does when no transaction is there: there is less
left to be done, and no lane is added. -/
structure Winds (contract : Pipeline.Winding process P) (d d' : Dispatcher P) : Prop where
  calm : d'.Calm contract
  left : d'.left contract < d.left contract
  numbers : d'.tags.map Prod.fst = d.tags.map Prod.fst
  strays : d'.strays = d.strays
  phase : d'.phase = .serving → d.phase = .serving

lemma Calm.set (h : d.Calm contract) {i : Nat} {lane lane' : Lane P} {s s' : Surroundings}
    (hl : d.lanes[i]? = some lane) (hw : Lane.Winds contract lane lane' s s') :
    d.Winds contract { d with lanes := d.lanes.set i lane' } := by
  have mem := List.mem_of_getElem? hl
  refine ⟨⟨h.slot, h.requests, forall_mem_set h.lanes hw.calm, fun hp => ?_, fun hp => ?_⟩, ?_, ?_,
    rfl, id⟩
  · exact forall_mem_set (h.retired hp) (hw.retired.trans (h.retired hp lane mem))
  · exact forall_mem_set (h.ended hp) (hw.relay (h.ended hp lane mem))
  · obtain ⟨rest, before, after⟩ := sum_map_set hl (Lane.left contract)
    have less := hw.left
    simp only [left, before, after]
    omega
  · rw [tags_set hl hw.index hw.retired]

/-- What a turn of a dispatcher that holds no transaction does. It leaves its input, which is empty,
and the pool is done when it ends. -/
lemma Calm.turn (h : d.Calm contract) {pool pool' : Pool P} {s s' : Surroundings}
    (turn : Pool.Turn pool d s pool' d' s')
    (empty : d.phase = .serving → s.input.queue = []) :
    d.Winds contract d' ∧ (s.input.queue = [] → s'.input.queue = []) ∧
      s' = { s with input := s'.input, metrics := s'.metrics } ∧
      (d'.phase = .ended ∧ pool' = { pool with size := 0, done := true } ∨
        (d'.phase = .ended ↔ d.phase = .ended) ∧ pool' = pool) := by
  cases turn with
  | hand hp hs | keep hp hs | choose hp hs | refuse hp hs => simp [h.slot] at hs
  | resize hp hs heard hr => simp [h.requests] at hr
  | read hp hs heard hq => simp [empty hp] at hq
  | hear hp hs asked hc =>
    refine ⟨⟨⟨h.slot, h.requests, h.lanes, h.retired, h.ended⟩, ?_, rfl, rfl, id⟩, id, rfl,
      .inr ⟨.rfl, rfl⟩⟩
    simp [left, hc]
  | leave hp hs heard hq spent =>
    refine ⟨⟨⟨h.slot, h.requests, h.lanes, nofun, nofun⟩, ?_, rfl, rfl, nofun⟩, id, rfl,
      .inr ⟨by simp [hp], rfl⟩⟩
    simp [left, hp, Phase.ahead]
  | retire hp =>
    obtain ⟨lanes, frame⟩ := d.shrink_frame 0 s.metrics
    have slot : (d.shrink 0 s.metrics).1.slot = d.slot := by rw [frame]
    have requests : (d.shrink 0 s.metrics).1.requests = d.requests := by rw [frame]
    have strays : (d.shrink 0 s.metrics).1.strays = d.strays := by rw [frame]
    have closing : (d.shrink 0 s.metrics).1.closing = d.closing := by rw [frame]
    have retire (lane : Lane P) (metrics : Metrics.Store) (hc : lane.Calm contract) :=
      hc.retire metrics
    obtain ⟨calm, less⟩ := sum_shrink_le retire 0 s.metrics h.lanes
    refine ⟨⟨⟨slot.trans h.slot, requests.trans h.requests, calm, fun _ => ?_, nofun⟩, ?_, ?_, strays,
      nofun⟩, id, rfl, .inr ⟨by simp [hp], rfl⟩⟩
    · exact d.retired_of_shrink s.metrics
    · simp only [left, closing, hp, Phase.ahead]
      omega
    · exact started_shrink d 0 s.metrics
  | finish hp all =>
    refine ⟨⟨⟨h.slot, h.requests, h.lanes, fun _ => h.retired (.inl hp), fun _ => all⟩, ?_, rfl, rfl,
      nofun⟩, fun _ => rfl, rfl, .inl ⟨rfl, rfl⟩⟩
    simp [left, hp, Phase.ahead]

end Dispatcher

/-! ### Pools -/

/-- Whether an actor belongs to a pipeline that a pool could not start. -/
def Actor.isAside : Actor → Bool
  | .inStray .. => true
  | _           => false

namespace Pool

variable {pool pool' : Pool P} {d d' : Dispatcher P} {s s' : Surroundings} {actor : Actor}

/-- What a move does at a pool whose dispatcher holds no transaction. The pipelines that could not be
started go on by themselves. -/
lemma winds_of_step (hd : pool.dispatcher? = some d) (h : d.Calm contract)
    (empty : d.phase = .serving → s.input.queue = [])
    (hs : pool.step process actor s = some (pool', s')) :
    (actor.isAside = false ∧ ∃ d', d.Winds contract d' ∧ (s.input.queue = [] → s'.input.queue = []) ∧
        s' = { s with input := s'.input, metrics := s'.metrics } ∧
        (d'.phase = .ended ∧
            pool' = ({ pool with size := 0, done := true } : Pool P).withDispatcher d' ∨
          (d'.phase = .ended ↔ d.phase = .ended) ∧ pool' = pool.withDispatcher d')) ∨
      ∃ i inner stray stray' s₁, actor = .inStray i inner ∧ d.strays[i]? = some stray ∧
        Pipeline.step process inner stray (strayed s) = some (stray', s₁) ∧
        pool' = pool.withDispatcher { d with strays := d.strays.set i stray' } ∧
        s' = { s with ledger := s₁.ledger, metrics := s₁.metrics } := by
  simp only [step, hd] at hs
  split at hs
  next => cases hs
  next =>
    obtain ⟨pool₁, d', turn, rfl⟩ := Turn.of_dispatch hs
    obtain ⟨winds, input, around, ⟨ended, rfl⟩ | ⟨same, rfl⟩⟩ := h.turn turn empty
    · exact .inl ⟨rfl, d', winds, input, around, .inl ⟨ended, rfl⟩⟩
    · exact .inl ⟨rfl, d', winds, input, around, .inr ⟨same, rfl⟩⟩
  next i =>
    obtain ⟨lane, hl, hs⟩ := Option.bind_eq_some_iff.mp hs
    obtain ⟨⟨lane', around⟩, hr, hs⟩ := Option.map_eq_some_iff.mp hs
    cases hs
    have winds := (h.lanes lane (List.mem_of_getElem? hl)).relay hr
    have same := winds.around
    refine .inl ⟨rfl, _, h.set hl winds, fun hq => ?_, ?_, .inr ⟨.rfl, rfl⟩⟩
    · rw [same]
      exact hq
    · rw [same]
  next i inner =>
    obtain ⟨lane, hl, hs⟩ := Option.bind_eq_some_iff.mp hs
    obtain ⟨⟨lane', around⟩, hr, hs⟩ := Option.map_eq_some_iff.mp hs
    cases hs
    have winds := (h.lanes lane (List.mem_of_getElem? hl)).step hr
    have same := winds.around
    refine .inl ⟨rfl, _, h.set hl winds, fun hq => ?_, ?_, .inr ⟨.rfl, rfl⟩⟩
    · rw [same]
      exact hq
    · rw [same]
  next i inner =>
    obtain ⟨stray, hl, hs⟩ := Option.bind_eq_some_iff.mp hs
    obtain ⟨⟨stray', around⟩, hr, hs⟩ := Option.map_eq_some_iff.mp hs
    cases hs
    exact .inr ⟨i, inner, stray, stray', around, rfl, hl, hr, rfl, rfl⟩

/-- A dispatcher that holds no transaction, and that nobody can send to, can move, or one of its lanes
can, until it has ended. -/
lemma progress_of_calm (hd : pool.dispatcher? = some d) (h : d.Calm contract)
    (spent : d.phase = .serving → s.fed = false) (active : d.phase ≠ .ended) :
    ∃ actor : Actor, actor.isAside = false ∧ (pool.step process actor s).isSome := by
  cases hm : pool.dispatch d s with
  | some next => exact ⟨.dispatcher, rfl, by simp [step, hd, hm]⟩
  | none =>
    cases Stuck.of_dispatch hm with
    | full hp hs => simp [h.slot] at hs
    | starving hp hs heard hq hc fed => simp [spent hp] at fed
    | ended hp => exact absurd hp active
    | draining hp some =>
      obtain ⟨lane, hlane, active⟩ := some
      obtain ⟨i, hi⟩ := List.mem_iff_getElem?.mp hlane
      rcases (h.lanes lane hlane).progress (h.retired (.inl hp) lane hlane) active s with
        relay | ⟨actor, inner⟩
      · exact ⟨.relay i, rfl, by simpa [step, hd, hi] using relay⟩
      · exact ⟨.inLane i actor, rfl, by simpa [step, hd, hi] using inner⟩

/-- A pool that has started all its lanes holds no transaction. -/
lemma calm_of_consume (h : pool.consume = (.ok (), pool')) :
    ∃ d, pool'.state = .running d ∧ d.Calm contract ∧ d.strays = [] := by
  unfold consume at h
  split at h
  next => cases h
  next => cases h
  next lanes hidle =>
    split at h
    next hs =>
      cases h
      obtain ⟨new, strays, rfl, started, all⟩ := startLanes_cases hs
      refine ⟨_, rfl, ⟨rfl, rfl, fun lane hlane => ?_, nofun, nofun⟩, (all rfl).2⟩
      obtain ⟨l, -, hl⟩ := started lane (by simpa using hlane)
      exact hl.calm
    next => cases h

/-- Pools wind up if their lanes do. -/
def winding (lanes : Pipeline.Winding process P) : Pipeline.Winding process (Pool P) where
  calm pool := ∃ d, pool.state = .running d ∧ d.Calm lanes ∧ d.strays = []
  left pool := (pool.dispatcher?.map (Dispatcher.left lanes)).getD 0
  start {pipeline bound capacity queue} _ h := by
    simp only [Pipeline.consume, Pipeline.takeOutput, Prod.mk.injEq] at h
    obtain ⟨ok, rfl, rfl⟩ := h
    exact ⟨calm_of_consume (Prod.ext ok rfl), rfl⟩
  close {pool} metrics h := by
    obtain ⟨d, hstate, calm, strays⟩ := h
    simp only [Pipeline.close, close_of_running hstate]
    exact ⟨⟨d, hstate, calm, strays⟩, Nat.le_refl _⟩
  step {pool pool' actor s s'} h empty hs := by
    obtain ⟨d, hstate, calm, strays⟩ := h
    have hd : pool.dispatcher? = some d := by simp [dispatcher?, hstate]
    obtain ⟨-, d', winds, input, around, pool_⟩ | ⟨i, inner, stray, -, -, -, hstray, -⟩ :=
      winds_of_step hd calm (fun _ => empty) hs
    · have state : pool'.state = .running d' := by
        obtain ⟨-, rfl⟩ | ⟨-, rfl⟩ := pool_ <;> simp [withDispatcher, hstate]
      have hd' : pool'.dispatcher? = some d' := by simp [dispatcher?, state]
      refine ⟨⟨d', state, winds.calm, winds.strays.trans strays⟩, ?_, input empty, ?_, ?_⟩
      · simpa [hd, hd'] using winds.left
      · rw [around]
      · rw [around]
    · simp [strays] at hstray
  progress {pool s} h empty unfed holds := by
    obtain ⟨d, hstate, calm, -⟩ := h
    have hd : pool.dispatcher? = some d := by simp [dispatcher?, hstate]
    have active : d.phase ≠ .ended := by
      simpa [Pipeline.holdsOutput, holdsOutput, hstate, hd] using holds
    obtain ⟨actor, -, moves⟩ := progress_of_calm hd calm (s := s) (fun _ => unfed) active
    exact ⟨actor, moves⟩

end Pool

/-! ### Processors, and pipelines of several kinds -/

/-- A processor that waits hears of the shutdown and ends. -/
def Processor.winding (process : Behaviour σ) : Pipeline.Winding process (Processor σ) where
  calm p := p.phase = .waiting ∨ p.phase = .ended
  left p := if p.phase = .waiting then (!p.closing).toNat + 1 else 0
  start {p bound capacity queue} _ h := by
    simp only [Pipeline.consume, Pipeline.takeOutput, Prod.mk.injEq] at h
    obtain ⟨ok, rfl, rfl⟩ := h
    refine ⟨.inl ?_, rfl⟩
    unfold consume at ok ⊢
    split at ok <;> simp_all
  close {p} metrics h := by
    have open_ : p.phase ≠ .idle := by
      rintro idle
      simp [idle] at h
    have same : p.close = { p with stopRequested := true } := by
      unfold close
      split
      next asked => rw [← asked]
      next =>
        unfold closeIfIdle
        split
        next idle => exact absurd idle open_
        next => rfl
    simp only [Pipeline.close, same]
    exact ⟨h, Nat.le_refl _⟩
  step {p p' actor s s'} h empty hs := by
    cases actor with
    | worker =>
      simp only [Pipeline.step, Processor.step] at hs
      rcases h with h | h
      · simp only [h, listen, empty] at hs
        split at hs
        next unheard =>
          cases hs
          simp only [Bool.and_eq_true, Bool.not_eq_true'] at unheard
          exact ⟨.inl rfl, by simp [h, unheard.2], empty, rfl, rfl⟩
        next =>
          split at hs <;> cases hs
          exact ⟨.inr rfl, by simp [h], rfl, rfl, rfl⟩
      · simp [h] at hs
    | _ => cases hs
  progress {p s} h empty unfed holds := by
    refine ⟨.worker, ?_⟩
    rcases h with h | h
    · simp only [Pipeline.step, Processor.step, h, listen, empty, unfed]
      split <;> simp
    · simp [Pipeline.holdsOutput, holdsOutput, h] at holds

namespace Pipeline.Winding

/-- Pipelines of one kind or of another wind up if those of both kinds do. -/
def sum {A B : Type} [Pipeline σ A] [Pipeline σ B] (a : Pipeline.Winding process A)
    (b : Pipeline.Winding process B) : Pipeline.Winding process (A ⊕ B) where
  calm := Sum.elim a.calm b.calm
  left := Sum.elim a.left b.left
  start {pipeline bound capacity queue} untaken h := by
    cases pipeline with
    | inl pipeline =>
      simp only [Pipeline.consume, Pipeline.takeOutput, Prod.mk.injEq] at h
      obtain ⟨ok, rfl, rfl⟩ := h
      exact a.start untaken (Prod.ext ok rfl)
    | inr pipeline =>
      simp only [Pipeline.consume, Pipeline.takeOutput, Prod.mk.injEq] at h
      obtain ⟨ok, rfl, rfl⟩ := h
      exact b.start untaken (Prod.ext ok rfl)
  close {pipeline} metrics h := by
    cases pipeline with
    | inl pipeline => exact a.close metrics h
    | inr pipeline => exact b.close metrics h
  step {pipeline pipeline' actor s s'} h empty hs := by
    cases pipeline with
    | inl pipeline =>
      obtain ⟨⟨p, inner⟩, hp, hs⟩ := Option.map_eq_some_iff.mp hs
      cases hs
      exact a.step h empty hp
    | inr pipeline =>
      obtain ⟨⟨p, inner⟩, hp, hs⟩ := Option.map_eq_some_iff.mp hs
      cases hs
      exact b.step h empty hp
  progress {pipeline s} h empty unfed holds := by
    cases pipeline with
    | inl pipeline =>
      obtain ⟨actor, moves⟩ := a.progress h empty unfed holds
      exact ⟨actor, Option.isSome_map.trans moves⟩
    | inr pipeline =>
      obtain ⟨actor, moves⟩ := b.progress h empty unfed holds
      exact ⟨actor, Option.isSome_map.trans moves⟩

end Pipeline.Winding

/-- A deaf pipeline has no moves, and one that refuses its input is never bound. -/
def SimplePipeline.winding (process : Behaviour Stage) : Pipeline.Winding process SimplePipeline where
  calm
    | .processor p  => (Processor.winding process).calm p
    | .refusing _ _ => False
    | .deaf _       => True
  left
    | .processor p => (Processor.winding process).left p
    | _            => 0
  start {pipeline bound capacity queue} untaken h := by
    cases pipeline with
    | processor p =>
      simp only [Pipeline.consume, Pipeline.takeOutput, Prod.mk.injEq] at h
      obtain ⟨ok, rfl, rfl⟩ := h
      exact (Processor.winding process).start untaken (Prod.ext ok rfl)
    | refusing error taken => cases h
    | deaf taken =>
      cases h
      exact ⟨trivial, rfl⟩
  close {pipeline} metrics h := by
    cases pipeline with
    | processor p => exact (Processor.winding process).close metrics h
    | refusing | deaf => exact ⟨h, Nat.le_refl _⟩
  step {pipeline pipeline' actor s s'} h empty hs := by
    cases pipeline with
    | processor p =>
      obtain ⟨⟨p', inner⟩, hp, hs⟩ := Option.map_eq_some_iff.mp hs
      cases hs
      exact (Processor.winding process).step h empty hp
    | refusing | deaf => cases hs
  progress {pipeline s} h empty unfed holds := by
    cases pipeline with
    | processor p =>
      obtain ⟨actor, moves⟩ := (Processor.winding process).progress h empty unfed holds
      exact ⟨actor, Option.isSome_map.trans moves⟩
    | refusing => exact h.elim
    | deaf => cases holds

/-- All pipelines of the catalogue wind up, however deep pools stand in pools. -/
def Nested.winding (process : Behaviour Stage) : (n : Nat) → Pipeline.Winding process (Nested n)
  | 0     => SimplePipeline.winding process
  | n + 1 => (SimplePipeline.winding process).sum (Pool.winding (Nested.winding process n))

end Conveyor
