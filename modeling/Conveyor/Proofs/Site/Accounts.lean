import Conveyor.Proofs.Pool.Renumbering
import Conveyor.Proofs.Processor.Turnover
import Conveyor.Proofs.Site.Independence
import Conveyor.Proofs.Site.Sequences

/-!
# What the counters of a pool account for

A pool counts what it hands to each lane, and its lanes count what becomes of it. As the lanes have
numbers of their own, what is recorded for one of them does not show in the readings for the others.
So the counters agree with the journal and with the queues at any time
(`Site.counters_account`): no transaction is left out by them, and none is counted twice.
-/

namespace Conveyor

open Metrics (LaneCounter LaneReadings)

variable {σ : Type} {process : Behaviour σ}

/-! ### Pools over chains of stages -/

namespace Pool

variable {stages : Nat → List σ} {pool pool' : Pool (Processor σ)}
  {metrics metrics' : Metrics.Store}

/-- The lane with a number of a pool over chains of stages. -/
def stagedLane (stages : Nat → List σ) (outputCapacity index : Nat) : LaneBuild (Processor σ) where
  lane := .ok { lane := index, chain := stages index, outputCapacity }

/-- The pools over chains of stages before they are bound. -/
inductive Staged (stages : Nat → List σ) : Pool (Processor σ) → Prop where
  | create {threads laneBuffer outputCapacity : Nat} {metrics metrics' : Metrics.Store}
      {pool : Pool (Processor σ)}
      (h : create (fun _ => stagedLane stages outputCapacity) threads laneBuffer outputCapacity true
        metrics = (.ok pool, metrics')) : Staged stages pool
  | setSize {pool pool' : Pool (Processor σ)} {ticket n : Nat} {metrics metrics' : Metrics.Store}
      {result : Option (Except PipelineError Unit)} (h : Staged stages pool)
      (hs : pool.setSize ticket n metrics = (result, pool', metrics')) : Staged stages pool'

/-- What holds of a pool over chains of stages before it is bound. -/
structure Prepared (stages : Nat → List σ) (pool : Pool (Processor σ)) : Prop where
  metered : pool.metered = true
  construct : ∃ outputCapacity, pool.construct = fun _ => stagedLane stages outputCapacity
  offers : pool.Offers Processor.New
  genuine : pool.Genuine
  numbered : ∃ ever, pool.Numbered ever

lemma Staged.prepared (h : pool.Staged stages) : pool.Prepared stages := by
  induction h with
  | @create threads laneBuffer outputCapacity _ _ pool h =>
    have made : ∀ (attempt index : Nat) (p : Processor σ),
        (stagedLane stages outputCapacity index).lane = .ok p → p.New := by
      rintro attempt index p hp
      cases hp
      exact ⟨rfl, rfl, rfl, rfl, rfl⟩
    obtain ⟨construct, metered⟩ := frame_of_create h
    exact ⟨metered, ⟨_, construct⟩, offers_of_create made h, genuine_of_create h, _, .of_create h⟩
  | setSize h hs ih =>
    obtain ⟨metered, ⟨outputCapacity, construct⟩, offers, genuine, ever, numbered⟩ := ih
    obtain ⟨construct', metered'⟩ := frame_of_setSize hs
    exact ⟨metered'.trans metered, ⟨outputCapacity, construct'.trans construct⟩, offers.setSize hs,
      genuine.setSize hs, _, numbered.step (renumbers_setSize hs).1⟩

/-! ### Changes of the number of lanes -/

variable {d d' : Dispatcher (Processor σ)}

lemma readings_noteBuild (build : LaneBuild (Processor σ)) (metrics : Metrics.Store) :
    (noteBuild build metrics).counters = metrics.counters ∧
      (noteBuild build metrics).timings = metrics.timings := by
  unfold noteBuild
  split <;> exact ⟨rfl, rfl⟩

/-- Processors record nothing when they are retired. -/
lemma metrics_shrink (d : Dispatcher (Processor σ)) (n : Nat) (metrics : Metrics.Store) :
    (d.shrink n metrics).2 = metrics := by
  unfold Dispatcher.shrink
  generalize (d.inUse.drop n).reverse = ls
  induction ls generalizing d with
  | nil => rfl
  | cons l ls ih =>
    simp only [List.foldl_cons]
    have same : (d.retireAt l.2 metrics).2 = metrics := by
      unfold Dispatcher.retireAt
      split <;> rfl
    generalize d.retireAt l.2 metrics = given at same ⊢
    obtain ⟨d', metrics'⟩ := given
    obtain rfl : metrics' = metrics := same
    exact ih d'

lemma Grows.counters {count : Nat} {result : Except PipelineError Unit}
    (h : Grows pool d metrics count result pool' d' metrics') :
    metrics'.counters = metrics.counters ∧ metrics'.timings = metrics.timings := by
  induction h with
  | enough => exact ⟨rfl, rfl⟩
  | failed => exact readings_noteBuild _ _
  | refused => exact readings_noteBuild _ _
  | joined _ _ _ _ ih =>
    obtain ⟨counters, timings⟩ := readings_noteBuild _ _
    exact ⟨ih.1.trans counters, ih.2.trans timings⟩

/-- A change of the number of lanes leaves all counters as they are. -/
lemma counters_resizeRunning {n : Nat} {result : Except PipelineError Unit}
    (h : pool.resizeRunning d n metrics = (result, pool', d', metrics')) :
    metrics'.counters = metrics.counters ∧ metrics'.timings = metrics.timings := by
  cases Resizes.of_resizeRunning h with
  | invalid => exact ⟨Metrics.Store.counters_setGauge _ _, Metrics.Store.timings_setGauge _ _⟩
  | grown _ _ grows =>
    obtain ⟨counters, timings⟩ := grows.counters
    exact ⟨(Metrics.Store.counters_setGauge _ _).trans counters,
      (Metrics.Store.timings_setGauge _ _).trans timings⟩
  | shrunk _ _ hs =>
    have same := metrics_shrink d n metrics
    rw [hs] at same
    subst same
    exact ⟨Metrics.Store.counters_setGauge _ _, Metrics.Store.timings_setGauge _ _⟩

end Pool

/-- A processor that is asked for a shutdown keeps its name and what it has to count. -/
lemma Processor.close_frame (p : Processor σ) :
    p.close.lane = p.lane ∧ p.close.metered = p.metered ∧ p.close.uncounted = p.uncounted := by
  unfold close closeIfIdle requestStop
  split
  · exact ⟨rfl, rfl, rfl⟩
  · split
    next hp =>
      have hp : p.phase = .idle := hp
      exact ⟨rfl, rfl, by simp [uncounted, hp]⟩
    next => exact ⟨rfl, rfl, rfl⟩

lemma Dispatcher.indices_eq (d : Dispatcher (Processor σ)) :
    d.tags.map Prod.fst = d.lanes.map Lane.index := by
  rw [tags, List.map_map]
  rfl

namespace Site

variable {site site' start : Site σ} {d d' : Dispatcher (Processor σ)}

/-! ### The accounts of one lane -/

/-- What the metrics read for a lane agrees with what the journal tells of it. -/
structure LaneAccounts (site : Site σ) (i : Nat) (lane : Lane (Processor σ)) : Prop where
  name : lane.pipeline.lane = lane.index
  metered : lane.pipeline.metered = true
  dispatched : (site.dock.around.metrics.readings lane.index).counter .dispatched =
    (site.handed i).length
  received : (site.dock.around.metrics.readings lane.index).counter .received +
    lane.queue.queue.length = (site.handed i).length
  recorded : lane.pipeline.Recorded (site.dock.around.metrics.readings lane.index) (site.reports i)

/-- Nothing was recorded for the lane, and nothing happened in it that is recorded. -/
lemma LaneAccounts.keep {i : Nat} {lane lane' : Lane (Processor σ)} (h : site.LaneAccounts i lane)
    (readings : site'.dock.around.metrics.readings lane.index =
      site.dock.around.metrics.readings lane.index)
    (handed : site'.handed i = site.handed i) (reports : site'.reports i = site.reports i)
    (index : lane'.index = lane.index) (queue : lane'.queue.queue = lane.queue.queue)
    (name : lane'.pipeline.lane = lane.pipeline.lane)
    (metered : lane'.pipeline.metered = lane.pipeline.metered)
    (uncounted : lane'.pipeline.uncounted = lane.pipeline.uncounted) : site'.LaneAccounts i lane' where
  name := by rw [name, index, h.name]
  metered := metered.trans h.metered
  dispatched := by rw [index, readings, handed, h.dispatched]
  received := by rw [index, readings, queue, handed, h.received]
  recorded := by
    obtain ⟨latency, dropped, failed, sent⟩ := h.recorded
    rw [index, readings, reports]
    exact ⟨latency, dropped, failed, uncounted ▸ sent⟩

/-- A lane that was just started under a number that was not used before. -/
lemma LaneAccounts.started {i laneBuffer index : Nat} {p : Processor σ}
    (blank : site.dock.around.metrics.readings index = .blank) (handed : site.handed i = [])
    (reports : site.reports i = []) (name : p.lane = index) (metered : p.metered = true) :
    site.LaneAccounts i (.started laneBuffer index p) where
  name := name
  metered := metered
  dispatched := by simp [Lane.started, blank, handed, LaneReadings.blank]
  received := by simp [Lane.started, blank, handed, LaneReadings.blank, Channel.new]
  recorded := by
    rw [show (Lane.started laneBuffer index p).index = index from rfl, blank, reports]
    exact ⟨rfl, rfl, rfl, rfl⟩

/-! ### The accounts of all lanes -/

/-- All lanes have their accounts, and nothing was recorded under any other number. -/
structure LanesAccounts (site : Site σ) (lanes : List (Lane (Processor σ))) : Prop where
  lane : ∀ i lane, lanes[i]? = some lane → site.LaneAccounts i lane
  blank : ∀ n, n ∉ lanes.map Lane.index → site.dock.around.metrics.readings n = .blank

/-- Nothing is recorded, and nothing happens in any lane. -/
lemma LanesAccounts.keep {lanes : List (Lane (Processor σ))} (h : site.LanesAccounts lanes)
    (readings : ∀ n, site'.dock.around.metrics.readings n = site.dock.around.metrics.readings n)
    (handed : ∀ i, site'.handed i = site.handed i)
    (reports : ∀ i, site'.reports i = site.reports i) : site'.LanesAccounts lanes where
  lane := fun i lane hl =>
    (h.lane i lane hl).keep (readings _) (handed i) (reports i) rfl rfl rfl rfl rfl
  blank := fun n hn => (readings n).trans (h.blank n hn)

/-- A lane goes on, and what is recorded of it does not show in the readings for the others. -/
lemma LanesAccounts.set {lanes : List (Lane (Processor σ))} (h : site.LanesAccounts lanes)
    (distinct : (lanes.map Lane.index).Nodup) {i : Nat} {lane lane' : Lane (Processor σ)}
    (hl : lanes[i]? = some lane) (index : lane'.index = lane.index)
    (readings : ∀ n, n ≠ lane.index →
      site'.dock.around.metrics.readings n = site.dock.around.metrics.readings n)
    (told : ∀ j, j ≠ i → site'.handed j = site.handed j ∧ site'.reports j = site.reports j)
    (self : site'.LaneAccounts i lane') : site'.LanesAccounts (lanes.set i lane') := by
  have same : (lanes.set i lane').map Lane.index = lanes.map Lane.index := map_set_of_eq hl index
  constructor
  · intro j other hj
    by_cases hji : i = j
    · subst hji
      rw [List.getElem?_set_self (List.getElem?_eq_some_iff.mp hl).1] at hj
      exact Option.some.inj hj ▸ self
    · rw [List.getElem?_set_ne hji] at hj
      have apart : other.index ≠ lane.index := by
        intro heq
        have inside : j < (lanes.map Lane.index).length := by
          simpa using (List.getElem?_eq_some_iff.mp hj).1
        exact hji ((List.getElem?_inj inside distinct).mp (by simp [hj, hl, heq])).symm
      obtain ⟨handed, reports⟩ := told j (Ne.symm hji)
      exact (h.lane j other hj).keep (readings _ apart) handed reports rfl rfl rfl rfl rfl
  · intro n hn
    rw [same] at hn
    rw [readings n, h.blank n hn]
    rintro rfl
    exact hn (List.mem_map_of_mem (List.mem_of_getElem? hl))

lemma LaneAccounts.retire {i : Nat} {lane : Lane (Processor σ)} {metrics : Metrics.Store}
    (h : site.LaneAccounts i lane) : site.LaneAccounts i (lane.retire metrics).1 :=
  have ⟨name, metered, uncounted⟩ := lane.pipeline.close_frame
  h.keep rfl rfl rfl rfl rfl name metered uncounted

/-- The accounts of lanes that are retired go on, and new lanes have new ones. -/
lemma LanesAccounts.resize {pool pool' : Pool (Processor σ)} {metrics metrics' : Metrics.Store}
    {n : Nat} {result : Except PipelineError Unit} (h : site.LanesAccounts d.lanes)
    (made : ∀ attempt index p, (pool.construct attempt index).lane = .ok p →
      p.lane = index ∧ p.metered = true)
    (nothing : ∀ i, d.lanes.length ≤ i → site.handed i = [] ∧ site.reports i = [])
    (hg : pool.resizeRunning d n metrics = (result, pool', d', metrics'))
    (distinct : (d'.lanes.map Lane.index).Nodup) : site.LanesAccounts d'.lanes := by
  obtain ⟨k, added, -, started, -⟩ := Pool.resizeRunning_numbers hg
  rw [Dispatcher.indices_eq, Dispatcher.indices_eq] at started
  -- a lane in a new place has a number that was not used before
  have lanes := Pool.forall_getElem_resizeRunning
    (R := fun i lane => i < d.lanes.length ∨ lane.index ∉ d.lanes.map Lane.index →
      site.LaneAccounts i lane)
    (fun i lane metrics accounts old => (accounts old).retire)
    (fun i hi index p lane builds started new => by
      obtain ⟨-, rfl⟩ := started.eq_started
      obtain ⟨name, metered⟩ := builds.holds made
      obtain ⟨handed, reports⟩ := nothing i hi
      have unused := h.blank index (new.resolve_left (by omega))
      exact .started unused handed reports name metered)
    hg (fun i lane hl _ => h.lane i lane hl)
  constructor
  · intro i lane hl
    refine lanes i lane hl ?_
    rcases Nat.lt_or_ge i d.lanes.length with old | new
    · exact .inl old
    · refine .inr fun hold => ?_
      rw [started] at distinct
      obtain ⟨-, -, apart⟩ := List.nodup_append.mp distinct
      have here : (d'.lanes.map Lane.index)[i]? = some lane.index := by simp [hl]
      rw [started, List.getElem?_append_right (by simpa using new)] at here
      exact apart _ hold _ (List.mem_of_getElem? here) rfl
  · intro n hn
    refine h.blank n fun hold => hn ?_
    rw [started]
    exact List.mem_append_left _ hold

/-- What holds of the metrics of a pool at any time. -/
structure Accounts (site : Site σ) (d : Dispatcher (Processor σ)) : Prop where
  metered : site.pool.metered = true
  made : ∀ attempt index p, (site.pool.construct attempt index).lane = .ok p →
    p.lane = index ∧ p.metered = true
  numbered : ∃ ever, site.pool.Numbered ever
  lanes : site.LanesAccounts d.lanes

/-- The lanes have different numbers. -/
lemma nodup_indices (numbered : ∃ ever, site.pool.Numbered ever)
    (hstate : site.pool.state = .running d) : (d.lanes.map Lane.index).Nodup := by
  obtain ⟨ever, numbered⟩ := numbered
  have distinct : ever.Nodup := numbered.increasing.imp fun h => h.ne
  have started : site.pool.started = d.lanes.map Lane.index := by
    simp [Pool.started, Pool.dispatcher?, hstate, Dispatcher.tags]
  exact started ▸ distinct.sublist numbered.started

lemma numbered_of_step (hstate : site.pool.state = .running d)
    (numbered : ∃ ever, site.pool.Numbered ever) {e : Event}
    (he : site.step process e = some site') : ∃ ever, site'.pool.Numbered ever := by
  obtain ⟨ever, numbered⟩ := numbered
  cases e with
  | user e =>
    obtain ⟨dock, -, rfl⟩ := Option.map_eq_some_iff.mp he
    exact ⟨ever, numbered⟩
  | move actor =>
    obtain ⟨⟨pool, around⟩, hm, rfl⟩ := Option.map_eq_some_iff.mp he
    exact ⟨_, numbered.step (Pool.renumbers_step hm)⟩
  | setSize ticket n =>
    cases he
    exact ⟨_, numbered.step (Pool.renumbers_setSize rfl).1⟩
  | close =>
    simp only [step, Pool.close_of_running hstate, Option.some.injEq] at he
    subst he
    exact ⟨_, numbered.step (.of_same rfl rfl rfl)⟩
  | closeLane i =>
    have hd : site.pool.dispatcher? = some d := by simp [Pool.dispatcher?, hstate]
    simp only [step, hd, Option.bind_some] at he
    obtain ⟨lane, hl, rfl⟩ := Option.map_eq_some_iff.mp he
    have tags : ({ d with lanes := d.lanes.set i { lane with pipeline := lane.pipeline.close } } :
        Dispatcher (Processor σ)).tags = d.tags := Dispatcher.tags_set hl rfl rfl
    obtain ⟨held, known⟩ := Pool.roster_of_dispatcher hd
    obtain ⟨held', known'⟩ := Pool.roster_withDispatcher hd
      { d with lanes := d.lanes.set i { lane with pipeline := lane.pipeline.close } }
    refine ⟨_, numbered.step (.of_same ?_ ?_ ?_)⟩
    · simp [Pool.withDispatcher, hstate]
    · rw [Pool.numbers, Pool.numbers, held, held', Dispatcher.numbers_roster,
        Dispatcher.numbers_roster, tags]
    · rw [known, known', tags]

/-- The accounts are kept by the turns of the dispatcher. -/
lemma Accounts.turn (h : site.Accounts d) (inv : Invariant process site d)
    {pool : Pool (Processor σ)} {around : Surroundings}
    (turn : site.pool.Turn d site.dock.around pool d' around)
    (hmetrics : site'.dock.around.metrics = around.metrics)
    (handed : ∀ i, site'.handed i =
      site.handed i ++ d.report.filterMap fun (j, t) => if j = i then some t else none)
    (reports : ∀ i, site'.reports i = site.reports i)
    (distinct : (d'.lanes.map Lane.index).Nodup) : site'.LanesAccounts d'.lanes := by
  have distinct₀ := nodup_indices h.numbered inv.orderly.state
  -- what does not hand anything over and does not count leaves the accounts alone
  have keep (none : d.report = [])
      (counters : around.metrics.counters = site.dock.around.metrics.counters)
      (timings : around.metrics.timings = site.dock.around.metrics.timings) :
      site'.LanesAccounts d.lanes :=
    h.lanes.keep (fun n => hmetrics ▸ Metrics.Store.readings_congr counters timings n)
      (fun i => by rw [handed, none, List.filterMap_nil, List.append_nil]) reports
  cases turn with
  | @hand t position i lane hp hs hl room =>
    have report : d.report = [(i, t)] := by simp [Dispatcher.report, hp, hs, hl, room]
    have hlane := (Dispatcher.mem_inUse.mp (List.mem_of_getElem? hl)).1
    have stat := Pool.dispatchedStat_eq h.metered lane.index
    obtain ⟨name, metered, dispatched, received, recorded⟩ := h.lanes.lane i lane hlane
    obtain ⟨latency, dropped, failed, sent⟩ := recorded
    refine h.lanes.set distinct₀ hlane rfl (fun n hn => ?_) (fun j hj => ?_) ?_
    · rw [hmetrics, stat]
      exact Metrics.Store.readings_count_of_ne hn 1
    · exact ⟨by simp [handed, report, hj.symm], reports j⟩
    · have more : site'.handed i = site.handed i ++ [t] := by simp [handed, report]
      constructor
      · exact name
      · exact metered
      · simp [hmetrics, stat, dispatched, more]
      · simp [hmetrics, stat, more, ← received]
        omega
      · constructor <;> simp [hmetrics, stat, reports, latency, dropped, failed, sent]
  | keep hp hs stale => exact keep (Pool.report_of_stale hs stale) rfl rfl
  | hear hp hs => exact keep (Pool.report_of_ne hs) rfl rfl
  | @resize request later _ _ _ _ hp hs heard hr hg =>
    obtain ⟨counters, timings⟩ := Pool.counters_resizeRunning hg
    have kept := keep (Pool.report_of_ne hs) counters timings
    have nothing : ∀ i, d.lanes.length ≤ i → site'.handed i = [] ∧ site'.reports i = [] := by
      intro i hi
      obtain ⟨noReports, noneHanded⟩ := inv.transcribed.none i hi
      exact ⟨by simp [handed, Pool.report_of_ne hs, noneHanded], (reports i).trans noReports⟩
    have resized := LanesAccounts.resize (d := { d with requests := later }) kept h.made nothing hg
      distinct
    exact resized
  | choose hp hs => exact keep (Pool.report_of_ne (by simp [hs])) rfl rfl
  | refuse hp hs =>
    refine h.lanes.keep (fun n => ?_) (fun i => ?_) reports
    · rw [hmetrics, Pool.undeliverableStat_eq h.metered]
      exact Metrics.Store.readings_count_undeliverable _ 1 n
    · rw [handed, Pool.report_of_ne (by simp [hs]), List.filterMap_nil, List.append_nil]
  | read hp hs => exact keep (Pool.report_of_ne (by simp [hs])) rfl rfl
  | leave hp hs => exact keep (Pool.report_of_ne (by simp [hs])) rfl rfl
  | retire hp =>
    have same := Pool.metrics_shrink d 0 site.dock.around.metrics
    have kept := keep (Pool.report_of_phase (by simp [hp])) (by rw [same]) (by rw [same])
    refine ⟨?_, fun n hn => kept.blank n ?_⟩
    · exact Dispatcher.forall_getElem_shrink (R := site'.LaneAccounts)
        (fun i lane metrics accounts => accounts.retire) 0 _ kept.lane
    · have started := d.started_shrink 0 site.dock.around.metrics
      rw [Dispatcher.indices_eq, Dispatcher.indices_eq] at started
      exact started ▸ hn
  | finish hp =>
    exact keep (Pool.report_of_phase (by simp [hp])) (Metrics.Store.counters_setGauge _ _)
      (Metrics.Store.timings_setGauge _ _)

/-- The accounts are kept by the steps of the workers. -/
lemma Accounts.work (h : site.Accounts d) (inv : Invariant process site d) {i : Nat}
    (he : site.step process (.move (.inLane i .worker)) = some site')
    (hstate' : site'.pool.state = .running d') :
    site'.LanesAccounts d'.lanes ∧
      site'.dock.around.metrics.counter Metrics.undeliverable =
        site.dock.around.metrics.counter Metrics.undeliverable := by
  have distinct := nodup_indices h.numbered inv.orderly.state
  obtain ⟨lane, p, inner, hl, hp, rfl⟩ := work_of_step inv.orderly.state he
  obtain rfl := Pool.State.running.inj hstate'
  obtain ⟨name, metered, dispatched, received, recorded⟩ := h.lanes.lane i lane hl
  obtain ⟨start, taken, transcript, -⟩ := inv.transcribed.lane i lane hl
  obtain ⟨sameName, sameMetered⟩ := (Processor.Move.of_step hp).name
  obtain ⟨queue, sameDispatched⟩ := Processor.received_of_step metered hp
  have records := Processor.metrics_of_step hp
  refine ⟨h.lanes.set distinct hl rfl (fun n hn => ?_) (fun j hj => ?_) ?_, ?_⟩
  · dsimp only
    rw [records]
    exact Processor.readings_recorded_of_ne metered (name ▸ hn) _
  · simp [hj.symm]
  · rw [name] at queue sameDispatched
    constructor
    · exact sameName.trans name
    · exact sameMetered.trans metered
    · rw [handed_work, ← dispatched]
      exact sameDispatched
    · rw [handed_work, ← received]
      exact queue
    · have next := (name ▸ recorded : lane.pipeline.Recorded
        (site.dock.around.metrics.readings lane.pipeline.lane) (site.reports i)).step
        (s := lane.surroundings site.dock.around) metered
        (fun _ _ _ _ hp => transcript.current_ne_zero hp) hp
      rw [reports_work, if_pos rfl, ← name]
      exact next
  · dsimp only
    rw [records]
    exact Processor.counter_recorded_of_ne metered
      (fun c => (c.stat_ne_undeliverable _).symm) _

/-- The accounts are kept by all events. -/
lemma Accounts.step (h : site.Accounts d) (inv : Invariant process site d) {e : Event}
    (he : site.step process e = some site') (hstate' : site'.pool.state = .running d') :
    site'.Accounts d' := by
  obtain ⟨hstate, -, strays, -⟩ := inv.orderly
  have numbered := numbered_of_step hstate h.numbered he
  have distinct := nodup_indices numbered hstate'
  obtain ⟨d₁, act, hstate₁⟩ := Act.of_step hstate strays he
  obtain rfl := Pool.State.running.inj (hstate₁.symm.trans hstate')
  cases act with
  | user hdock =>
    have same := Dock.metrics_of_step hdock
    exact ⟨h.metered, h.made, numbered,
      h.lanes.keep (fun n => by rw [same]) (fun _ => rfl) fun _ => rfl⟩
  | dispatch turn =>
    obtain ⟨nextIndex, attempt, size, done, rfl⟩ := turn.frame
    exact ⟨h.metered, h.made, numbered,
      h.turn inv turn rfl (handed_dispatch site _) (reports_dispatch site _) distinct⟩
  | @relay i lane lane' around hl c =>
    obtain ⟨queue, pipeline, -⟩ := c.frame
    obtain ⟨index, metrics⟩ : lane'.index = lane.index ∧
        around.metrics = site.dock.around.metrics := by
      cases c <;> exact ⟨rfl, rfl⟩
    refine ⟨h.metered, h.made, numbered, h.lanes.set (nodup_indices h.numbered hstate) hl index
      (fun n _ => by rw [metrics]) (fun _ _ => ⟨rfl, rfl⟩) ?_⟩
    exact (h.lanes.lane i lane hl).keep (by rw [metrics]) rfl rfl index (by rw [queue])
      (by rw [pipeline]) (by rw [pipeline]) (by rw [pipeline])
  | work => exact ⟨h.metered, h.made, numbered, (h.work inv he hstate').1⟩
  | ask | stop =>
    exact ⟨h.metered, h.made, numbered, h.lanes.keep (fun _ => rfl) (fun _ => rfl) fun _ => rfl⟩
  | @closeLane i lane hl =>
    obtain ⟨name, metered, uncounted⟩ := lane.pipeline.close_frame
    refine ⟨h.metered, h.made, numbered, h.lanes.set (nodup_indices h.numbered hstate) hl rfl
      (fun _ _ => rfl) (fun _ _ => ⟨rfl, rfl⟩) ?_⟩
    exact (h.lanes.lane i lane hl).keep rfl rfl rfl rfl rfl name metered uncounted

/-! ### What the dispatcher reads -/

/-- How many transactions an event takes from the input to the dispatcher. -/
def readAt (site site' : Site σ) : Event → Nat
  | .move .dispatcher =>
    site.dock.around.input.queue.length - site'.dock.around.input.queue.length
  | _                 => 0

/-- How many transactions the dispatcher reads in a run. -/
def read (process : Behaviour σ) (site : Site σ) : List Event → Nat
  | []          => 0
  | e :: events =>
    match site.step process e with
    | none       => 0
    | some site' => site.readAt site' e + read process site' events

/-- The transactions that were read were handed to a lane or refused, or are held. They were accepted,
and all others wait in the input. -/
structure Reads (site : Site σ) (d : Dispatcher (Processor σ)) (n : Nat) : Prop where
  handled : (n : Int) = site.dispatched.length +
    site.dock.around.metrics.counter Metrics.undeliverable + d.slot.waiting.length
  accepted : site.dock.accepted.length = n + site.dock.around.input.queue.length

/-- The dispatcher only takes from the input. -/
lemma length_input_of_turn {s s' : Surroundings} {pool pool' : Pool (Processor σ)}
    (turn : pool.Turn d s pool' d' s') : s'.input.queue.length ≤ s.input.queue.length := by
  cases turn with
  | read hp hs heard hq => simp [hq]
  | finish => exact Nat.zero_le _
  | _ => exact le_rfl

lemma Reads.turn {n : Nat} (h : site.Reads d n) (metered : site.pool.metered = true)
    (orderly : site.Orderly d) {pool : Pool (Processor σ)} {around : Surroundings}
    (turn : site.pool.Turn d site.dock.around pool d' around) :
    ((n + (site.dock.around.input.queue.length - around.input.queue.length) : Nat) : Int) =
      (site.dispatched ++ d.report.map Prod.snd).length +
        around.metrics.counter Metrics.undeliverable + d'.slot.waiting.length := by
  have h := h.handled
  cases turn with
  | @hand t position i lane hp hs hl room =>
    have report : d.report = [(i, t)] := by simp [Dispatcher.report, hp, hs, hl, room]
    have other := (LaneCounter.dispatched.stat_ne_undeliverable lane.index).symm
    have counted (m : Metrics.Store) := Metrics.Store.counter_count (s := m)
      (LaneCounter.dispatched.stat_ne_discarded lane.index) 1 Metrics.undeliverable
    simp [report, Pool.dispatchedStat_eq metered, counted, other, h, hs, Dispatcher.Slot.waiting]
    omega
  | keep hp hs stale =>
    simp [Pool.report_of_stale hs stale, h, hs, Dispatcher.Slot.waiting]
  | hear hp hs => simp [Pool.report_of_ne hs, h]
  | resize hp hs heard hr hg =>
    obtain ⟨⟨lanes, strays, rfl⟩, -⟩ := Pool.resizeRunning_cases hg
    obtain ⟨counters, -⟩ := Pool.counters_resizeRunning hg
    simp [Pool.report_of_ne hs, h, Metrics.Store.counter_congr counters]
  | choose hp hs => simp [Pool.report_of_ne, h, hs, Dispatcher.Slot.waiting]
  | refuse hp hs =>
    have counted (m : Metrics.Store) := Metrics.Store.counter_count (s := m)
      Metrics.undeliverable_ne_discarded 1 Metrics.undeliverable
    simp [Pool.report_of_ne, Pool.undeliverableStat_eq metered, counted, h, hs,
      Dispatcher.Slot.waiting, add_assoc]
  | read hp hs heard hq => simp [Pool.report_of_ne, h, hs, hq, Dispatcher.Slot.waiting]
  | leave hp hs => simp [Pool.report_of_ne, h, hs]
  | retire hp =>
    obtain ⟨lanes, frame⟩ := d.shrink_frame 0 site.dock.around.metrics
    simp [Pool.report_of_phase, hp, h, frame, Pool.metrics_shrink]
  | finish hp =>
    obtain ⟨hs, hq, -⟩ := orderly.left (by simp [hp])
    simp [Pool.report_of_phase, hp, h, hq,
      Metrics.Store.counter_congr (Metrics.Store.counters_setGauge _ _)]

lemma Reads.step {n : Nat} (h : site.Reads d n) (accounts : site.Accounts d)
    (inv : Invariant process site d) {e : Event} (he : site.step process e = some site')
    (hstate' : site'.pool.state = .running d') : site'.Reads d' (n + site.readAt site' e) := by
  obtain ⟨hstate, -, strays, -⟩ := inv.orderly
  obtain ⟨d₁, act, hstate₁⟩ := Act.of_step hstate strays he
  obtain rfl := Pool.State.running.inj (hstate₁.symm.trans hstate')
  obtain ⟨handled, accepted⟩ := h
  cases act with
  | user hdock =>
    obtain ⟨-, new, haccepted, hinput, -⟩ := Dock.input_of_step hdock
    refine ⟨?_, ?_⟩
    · rw [Dock.metrics_of_step hdock]
      exact handled
    · simp [readAt, haccepted, hinput, accepted, Nat.add_assoc]
  | @dispatch _ _ around turn =>
    refine ⟨?_, ?_⟩
    · rw [dispatched_dispatch]
      exact Reads.turn ⟨handled, accepted⟩ accounts.metered inv.orderly turn
    · have takes := length_input_of_turn turn
      have count : site.dock.accepted.length = n +
          (site.dock.around.input.queue.length - around.input.queue.length) +
          around.input.queue.length := by omega
      exact count
  | relay hl c =>
    cases c <;> exact ⟨handled, accepted⟩
  | work =>
    refine ⟨?_, accepted⟩
    rw [(accounts.work inv he hstate').2, dispatched_work]
    exact handled
  | ask | stop | closeLane => exact ⟨handled, accepted⟩

end Site

end Conveyor
