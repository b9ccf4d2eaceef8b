import Conveyor.Proofs.Dock
import Conveyor.Proofs.Pool.Moves
import Conveyor.Proofs.Processor.Moves
import Conveyor.Proofs.Runs
import Conveyor.Proofs.Stage

/-!
# Sites

A site is a bound pool of processors at its dock, together with a journal of what went on inside.
Its events are the moves of all parties, in any order: the users at the dock, the actors inside the
pool, the owner of the pool who changes the number of lanes or asks for a shutdown, and whoever may
shut down a single lane. `Site.Move` lists what an event can do, and a property of all sites that
can be reached is proved by cases on it.
-/

namespace Conveyor

/-- What the journal of a site tells: the dispatcher handed a transaction to a lane, or the worker of
a lane reported. -/
inductive Site.Entry (σ : Type) where
  | handed (lane : Nat) (t : Transaction)
  | worked (lane : Nat) (report : Report σ)

/-- What can go on at a site: a user at the dock does something, an actor inside the pool moves, the
owner asks for a number of lanes or for a shutdown, or somebody shuts down a single lane. -/
inductive Site.Event where
  | user (e : Dock.Event)
  | move (actor : Actor)
  | setSize (ticket n : Nat)
  | close
  | closeLane (i : Nat)
deriving DecidableEq

/-- A pool of processors at its dock. -/
structure Site (σ : Type) where
  pool : Pool (Processor σ)
  dock : Dock
  /-- What went on inside the pool, the oldest entry first. -/
  journal : List (Site.Entry σ) := []

namespace Site

variable {σ : Type}

/-! ### Events -/

/-- The entries that the next move of an actor adds to the journal. -/
def entries (process : Behaviour σ) (actor : Actor) (site : Site σ) : List (Entry σ) :=
  match site.pool.dispatcher?, actor with
  | some d, .dispatcher       => d.report.map fun (i, t) => .handed i t
  | some d, .inLane i .worker =>
    match d.lanes[i]? with
    | some lane =>
      (lane.pipeline.report process (lane.surroundings site.dock.around)).map (.worked i)
    | none      => []
  | _, _ => []

/-- The site after an event, if the event can take place. -/
def step (process : Behaviour σ) (site : Site σ) : Event → Option (Site σ)
  | .user e => (site.dock.step e).map fun dock => { site with dock }
  | .move actor =>
    (site.pool.step process actor site.dock.around).map fun (pool, around) =>
      { pool, dock := { site.dock with around }
        journal := site.journal ++ site.entries process actor }
  | .setSize ticket n =>
    let (_, pool, metrics) := site.pool.setSize ticket n site.dock.around.metrics
    some { site with pool, dock := { site.dock with around := { site.dock.around with metrics } } }
  | .close =>
    let (pool, metrics) := site.pool.close site.dock.around.metrics
    some { site with pool, dock := { site.dock with around := { site.dock.around with metrics } } }
  | .closeLane i =>
    site.pool.dispatcher?.bind fun d =>
      d.lanes[i]?.map fun lane =>
        let lane := { lane with pipeline := lane.pipeline.close }
        { site with pool := site.pool.withDispatcher { d with lanes := d.lanes.set i lane } }

/-- The site after a sequence of events, if each of them can take place. -/
def run (process : Behaviour σ) (site : Site σ) (events : List Event) : Option (Site σ) :=
  runFrom (step process) site events

/-- A site whose pool has just bound the input. -/
structure Opening (site : Site σ) : Prop where
  bound : ∃ pool : Pool (Processor σ), pool.Ready ∧ pool.consume = (.ok (), site.pool)
  dock : site.dock.Opening
  journal : site.journal = []

/-! ### The journal -/

/-- The transactions that were handed to a lane, the oldest first. -/
def handed (site : Site σ) (i : Nat) : List Transaction :=
  site.journal.filterMap fun
    | .handed j t => if j = i then some t else none
    | .worked _ _ => none

/-- The reports of the worker of a lane, the oldest first. -/
def reports (site : Site σ) (i : Nat) : List (Report σ) :=
  site.journal.filterMap fun
    | .handed _ _      => none
    | .worked j report => if j = i then some report else none

/-- All transactions that were handed to lanes, the oldest first. -/
def dispatched (site : Site σ) : List Transaction :=
  site.journal.filterMap fun
    | .handed _ t => some t
    | .worked _ _ => none

/-- All results that workers made, the oldest first. -/
def results (site : Site σ) : List Transaction :=
  site.journal.filterMap fun
    | .handed _ _      => none
    | .worked _ report => report.result?

section Journal

variable (site : Site σ) {pool : Pool (Processor σ)} {dock : Dock}

@[simp] lemma handed_dispatch (report : List (Nat × Transaction)) (i : Nat) :
    handed ⟨pool, dock, site.journal ++ report.map fun (j, t) => .handed j t⟩ i =
      site.handed i ++ report.filterMap fun (j, t) => if j = i then some t else none := by
  simp [handed]

@[simp] lemma handed_work (j : Nat) (new : List (Report σ)) (i : Nat) :
    handed ⟨pool, dock, site.journal ++ new.map (.worked j)⟩ i = site.handed i := by
  simp [handed]

@[simp] lemma reports_dispatch (report : List (Nat × Transaction)) (i : Nat) :
    reports ⟨pool, dock, site.journal ++ report.map fun (j, t) => .handed j t⟩ i =
      site.reports i := by
  simp [reports]

@[simp] lemma reports_work (j : Nat) (new : List (Report σ)) (i : Nat) :
    reports ⟨pool, dock, site.journal ++ new.map (.worked j)⟩ i =
      site.reports i ++ if j = i then new else [] := by
  split <;> simp [reports, *]

@[simp] lemma dispatched_dispatch (report : List (Nat × Transaction)) :
    dispatched ⟨pool, dock, site.journal ++ report.map fun (j, t) => .handed j t⟩ =
      site.dispatched ++ report.map Prod.snd := by
  simp [dispatched]

@[simp] lemma dispatched_work (j : Nat) (new : List (Report σ)) :
    dispatched ⟨pool, dock, site.journal ++ new.map (.worked j)⟩ = site.dispatched := by
  simp [dispatched]

@[simp] lemma results_dispatch (report : List (Nat × Transaction)) :
    results ⟨pool, dock, site.journal ++ report.map fun (j, t) => .handed j t⟩ = site.results := by
  simp [results]

@[simp] lemma results_work (j : Nat) (new : List (Report σ)) :
    results ⟨pool, dock, site.journal ++ new.map (.worked j)⟩ =
      site.results ++ Report.results new := by
  simp [results, Report.results]

end Journal

/-! ### Moves -/

/-- What an event can do to a site with a running dispatcher. -/
inductive Move (process : Behaviour σ) (site : Site σ) (d : Dispatcher (Processor σ)) :
    Site σ → Dispatcher (Processor σ) → Prop where
  | user {e : Dock.Event} {dock : Dock} (h : site.dock.step e = some dock) :
      Move process site d { site with dock } d
  | dispatch {report : List (Nat × Transaction)} {pool : Pool (Processor σ)}
      {d' : Dispatcher (Processor σ)} {around : Surroundings}
      (h : Pool.Move site.pool d site.dock.around report pool d' around) :
      Move process site d
        { pool := { pool with state := .running d' }
          dock := { site.dock with around }
          journal := site.journal ++ report.map fun (i, t) => .handed i t } d'
  | relay {i : Nat} {lane lane' : Lane (Processor σ)} {around : Surroundings}
      (hl : d.lanes[i]? = some lane) (h : Lane.Carry lane site.dock.around lane' around) :
      Move process site d
        { site with
          pool := { site.pool with state := .running { d with lanes := d.lanes.set i lane' } }
          dock := { site.dock with around } } { d with lanes := d.lanes.set i lane' }
  | work {i : Nat} {lane : Lane (Processor σ)} {reports : List (Report σ)} {p : Processor σ}
      {inner : Surroundings} (hl : d.lanes[i]? = some lane)
      (h : Processor.Move process lane.pipeline (lane.surroundings site.dock.around) reports p
        inner) :
      Move process site d
        { pool := { site.pool with
            state := .running { d with
              lanes := d.lanes.set i
                { lane with pipeline := p, queue := inner.input, output := inner.output } } }
          dock := { site.dock with
            around := { site.dock.around with ledger := inner.ledger, metrics := inner.metrics } }
          journal := site.journal ++ reports.map (.worked i) }
        { d with
          lanes := d.lanes.set i
            { lane with pipeline := p, queue := inner.input, output := inner.output } }
  | ask (requests : List Dispatcher.Request) :
      Move process site d
        { site with pool := { site.pool with state := .running { d with requests } } }
        { d with requests }
  | stop : Move process site d { site with pool := { site.pool with stopRequested := true } } d
  | closeLane {i : Nat} {lane : Lane (Processor σ)} (hl : d.lanes[i]? = some lane) :
      Move process site d
        { site with
          pool := { site.pool with
            state := .running { d with
              lanes := d.lanes.set i { lane with pipeline := lane.pipeline.close } } } }
        { d with lanes := d.lanes.set i { lane with pipeline := lane.pipeline.close } }

/-- What each event does to a site with a running dispatcher, with all that is known then. -/
inductive Act (process : Behaviour σ) (site : Site σ) (d : Dispatcher (Processor σ)) :
    Event → Site σ → Dispatcher (Processor σ) → Prop where
  | user {e : Dock.Event} {dock : Dock} (h : site.dock.step e = some dock) :
      Act process site d (.user e) { site with dock } d
  | dispatch {pool : Pool (Processor σ)} {d' : Dispatcher (Processor σ)} {around : Surroundings}
      (turn : site.pool.Turn d site.dock.around pool d' around) :
      Act process site d (.move .dispatcher)
        { pool := { pool with state := .running d' }
          dock := { site.dock with around }
          journal := site.journal ++ d.report.map fun (i, t) => .handed i t } d'
  | relay {i : Nat} {lane lane' : Lane (Processor σ)} {around : Surroundings}
      (hl : d.lanes[i]? = some lane) (h : Lane.Carry lane site.dock.around lane' around) :
      Act process site d (.move (.relay i))
        { site with
          pool := { site.pool with state := .running { d with lanes := d.lanes.set i lane' } }
          dock := { site.dock with around } } { d with lanes := d.lanes.set i lane' }
  | work {i : Nat} {lane : Lane (Processor σ)} {reports : List (Report σ)} {p : Processor σ}
      {inner : Surroundings} (hl : d.lanes[i]? = some lane)
      (h : Processor.Move process lane.pipeline (lane.surroundings site.dock.around) reports p
        inner) :
      Act process site d (.move (.inLane i .worker))
        { pool := { site.pool with
            state := .running { d with
              lanes := d.lanes.set i
                { lane with pipeline := p, queue := inner.input, output := inner.output } } }
          dock := { site.dock with
            around := { site.dock.around with ledger := inner.ledger, metrics := inner.metrics } }
          journal := site.journal ++ reports.map (.worked i) }
        { d with
          lanes := d.lanes.set i
            { lane with pipeline := p, queue := inner.input, output := inner.output } }
  | ask (ticket n : Nat) (requests : List Dispatcher.Request) :
      Act process site d (.setSize ticket n)
        { site with pool := { site.pool with state := .running { d with requests } } }
        { d with requests }
  | stop :
      Act process site d .close { site with pool := { site.pool with stopRequested := true } } d
  | closeLane {i : Nat} {lane : Lane (Processor σ)} (hl : d.lanes[i]? = some lane) :
      Act process site d (.closeLane i)
        { site with
          pool := { site.pool with
            state := .running { d with
              lanes := d.lanes.set i { lane with pipeline := lane.pipeline.close } } } }
        { d with lanes := d.lanes.set i { lane with pipeline := lane.pipeline.close } }

variable {process : Behaviour σ} {site site' : Site σ} {d d' : Dispatcher (Processor σ)}

/-- What a step of a worker does to the site. -/
lemma work_of_step (hstate : site.pool.state = .running d) {i : Nat}
    (h : site.step process (.move (.inLane i .worker)) = some site') :
    ∃ lane p inner, d.lanes[i]? = some lane ∧
      lane.pipeline.step process (lane.surroundings site.dock.around) = some (p, inner) ∧
      site' =
        { pool := { site.pool with
            state := .running { d with
              lanes := d.lanes.set i
                { lane with pipeline := p, queue := inner.input, output := inner.output } } }
          dock := { site.dock with
            around := { site.dock.around with ledger := inner.ledger, metrics := inner.metrics } }
          journal := site.journal ++
            (lane.pipeline.report process (lane.surroundings site.dock.around)).map
              (.worked i) } := by
  have hd : site.pool.dispatcher? = some d := by simp [Pool.dispatcher?, hstate]
  obtain ⟨⟨pool, around⟩, hm, h⟩ := Option.map_eq_some_iff.mp h
  simp only [Pool.step, hd] at hm
  obtain ⟨lane, hl, hm⟩ := Option.bind_eq_some_iff.mp hm
  obtain ⟨⟨lane', around'⟩, hr, hm⟩ := Option.map_eq_some_iff.mp hm
  obtain ⟨⟨p, inner⟩, hp, hr⟩ := Option.map_eq_some_iff.mp hr
  rw [Pool.withDispatcher_of_running hstate] at hm
  cases hr
  cases hm
  exact ⟨lane, p, inner, hl, hp, by simpa [entries, hd, hl] using h.symm⟩

/-- No other actor can move. -/
lemma Act.of_actor (hstate : site.pool.state = .running d) (strays : ∀ p ∈ d.strays, p.Rests)
    {actor : Actor} (h : site.step process (.move actor) = some site') :
    ∃ d', Act process site d (.move actor) site' d' ∧ site'.pool.state = .running d' := by
  have hd : site.pool.dispatcher? = some d := by simp [Pool.dispatcher?, hstate]
  obtain ⟨⟨pool, around⟩, hm, hsite⟩ := Option.map_eq_some_iff.mp h
  simp only [Pool.step, hd] at hm
  split at hm
  next => cases hm
  next =>
    obtain ⟨pool, d', turn, rfl⟩ := Pool.Turn.of_dispatch hm
    rw [Pool.withDispatcher_of_running (turn.state.trans hstate)] at hsite
    cases hsite
    refine ⟨d', ?_, rfl⟩
    have act : Act process site d _ _ _ := .dispatch turn
    simpa [entries, hd] using act
  next i =>
    obtain ⟨lane, hl, hm⟩ := Option.bind_eq_some_iff.mp hm
    obtain ⟨⟨lane', around'⟩, hr, hm⟩ := Option.map_eq_some_iff.mp hm
    rw [Pool.withDispatcher_of_running hstate] at hm
    cases hm
    cases hsite
    refine ⟨_, ?_, rfl⟩
    have act : Act process site d _ _ _ := .relay hl (.of_relay hr)
    simpa [entries, hd] using act
  next i actor =>
    cases actor with
    | worker =>
      obtain ⟨lane, p, inner, hl, hp, rfl⟩ := work_of_step hstate h
      exact ⟨_, .work hl (.of_step hp), rfl⟩
    | _ =>
      obtain ⟨lane, hl, hm⟩ := Option.bind_eq_some_iff.mp hm
      obtain ⟨⟨lane', around'⟩, hr, hm⟩ := Option.map_eq_some_iff.mp hm
      obtain ⟨⟨p, inner⟩, hp, hr⟩ := Option.map_eq_some_iff.mp hr
      cases hp
  next i actor =>
    obtain ⟨stray, hl, hm⟩ := Option.bind_eq_some_iff.mp hm
    obtain ⟨⟨p, inner⟩, hp, hm⟩ := Option.map_eq_some_iff.mp hm
    cases actor with
    | worker =>
      have rests := strays stray (List.mem_of_getElem? hl)
      exact absurd (hp.symm.trans (Processor.step_of_rests process rests _)) (by simp)
    | _ => cases hp

/-- Nothing else can happen. -/
theorem Act.of_step (hstate : site.pool.state = .running d) (strays : ∀ p ∈ d.strays, p.Rests)
    {e : Event} (h : site.step process e = some site') :
    ∃ d', Act process site d e site' d' ∧ site'.pool.state = .running d' := by
  cases e with
  | user e =>
    obtain ⟨dock, hdock, rfl⟩ := Option.map_eq_some_iff.mp h
    exact ⟨d, .user hdock, hstate⟩
  | move actor => exact of_actor hstate strays h
  | setSize ticket n =>
    obtain ⟨result, requests, hr⟩ :=
      Pool.setSize_of_running hstate ticket n site.dock.around.metrics
    simp only [step, hr, Option.some.injEq] at h
    subst h
    exact ⟨_, .ask ticket n requests, rfl⟩
  | close =>
    simp only [step, Pool.close_of_running hstate, Option.some.injEq] at h
    subst h
    exact ⟨d, .stop, hstate⟩
  | closeLane i =>
    have hd : site.pool.dispatcher? = some d := by simp [Pool.dispatcher?, hstate]
    simp only [step, hd, Option.bind_some, Pool.withDispatcher_of_running hstate] at h
    obtain ⟨lane, hl, rfl⟩ := Option.map_eq_some_iff.mp h
    exact ⟨_, .closeLane hl, rfl⟩

lemma Move.of_act (made : site.pool.MakesRested) {e : Event} (act : Act process site d e site' d') :
    Move process site d site' d' := by
  cases act with
  | user h => exact .user h
  | dispatch turn => exact .dispatch (.of_turn made turn)
  | relay hl c => exact .relay hl c
  | work hl m => exact .work hl m
  | ask ticket n requests => exact .ask requests
  | stop => exact .stop
  | closeLane hl => exact .closeLane hl

/-- There are no other moves. -/
theorem Move.of_step (hstate : site.pool.state = .running d) (made : site.pool.MakesRested)
    (strays : ∀ p ∈ d.strays, p.Rests) {e : Event} (h : site.step process e = some site') :
    ∃ d', Move process site d site' d' ∧ site'.pool.state = .running d' := by
  obtain ⟨d', act, hstate'⟩ := Act.of_step hstate strays h
  exact ⟨d', .of_act made act, hstate'⟩

/-! ### A small site -/

/-- A new pool of two lanes with a fickle stage each. -/
def smallPool : Pool (Processor Nat) :=
  let lane (index : Nat) : Processor Nat := { lane := index, chain := [0], metered := false }
  { construct := fun _ index => { lane := .ok (lane index) }
    laneBuffer := 1
    outputCapacity := 1
    metered := false
    nextIndex := 2
    state := .idle [(0, lane 0), (1, lane 1)] }

/-- The pool after it has bound the input of an empty dock. -/
def small : Site Nat where
  pool := smallPool.consume.2
  dock :=
    { around := { input := .new 2, fed := true, output := .new 1, ledger := {}, metrics := {} } }

lemma ready_smallPool : smallPool.Ready := by
  refine ⟨⟨_, rfl, by simp [Processor.Rests]⟩, ?_, rfl⟩
  rintro attempt index p hp
  cases hp
  exact .inl rfl

lemma opening_small : small.Opening where
  bound := ⟨smallPool, ready_smallPool, rfl⟩
  dock := by constructor <;> simp [small, Channel.new]
  journal := rfl

/-- Two transactions go through the small pool. While the first one is in progress a lane is
retired; one of its results is answered, and the other one is lost when the consumer leaves. -/
def course : List Event :=
  [.user (.send .empty), .user (.send .empty), .move .dispatcher, .move .dispatcher,
    .move .dispatcher, .move (.inLane 0 .worker), .move .dispatcher, .setSize 0 1,
    .move .dispatcher, .move (.inLane 0 .worker), .move (.inLane 0 .worker), .move (.relay 0),
    .move (.relay 0), .move (.inLane 0 .worker), .user .receive, .user (.answer ⟨.empty, 2⟩ .ack),
    .move (.relay 0), .move (.relay 0), .user .hangUp, .move (.inLane 0 .worker),
    .move (.inLane 0 .worker), .move (.inLane 0 .worker), .move (.inLane 0 .worker),
    .move .dispatcher, .move .dispatcher, .move (.inLane 0 .worker), .move (.inLane 0 .worker),
    .close, .move .dispatcher, .move .dispatcher, .move .dispatcher, .move (.inLane 0 .worker),
    .move (.inLane 0 .worker), .move (.inLane 1 .worker), .move (.inLane 1 .worker),
    .move (.relay 0), .move (.relay 1), .move .dispatcher]

end Site

end Conveyor
