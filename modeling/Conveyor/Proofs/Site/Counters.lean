import Conveyor.Proofs.Site.Accounts
import Conveyor.Proofs.Site.Closing
import Mathlib.Algebra.BigOperators.Ring.Finset

/-!
# The counters of a pool

The accounts of a pool over chains of stages hold from the moment in which it binds its input. Every
transaction that its dispatcher reads is counted for the lane that gets it, or as undeliverable, or
is held by the dispatcher, and every lane counts what it takes from its queue. When the pool is done,
each lane has counted what became of its transactions (`Site.counters_account`).
-/

namespace Conveyor.Site

open Metrics (LaneCounter LaneReadings)

variable {σ : Type} {process : Behaviour σ} {stages : Nat → List σ}
  {site site' start : Site σ} {d d' : Dispatcher (Processor σ)}

/-! ### The beginning -/

/-- A site whose pool is over chains of stages and has just bound the input. Nothing was recorded for
any lane yet. -/
structure StagedOpening (stages : Nat → List σ) (site : Site σ) : Prop where
  bound : ∃ pool : Pool (Processor σ), pool.Staged stages ∧ pool.consume = (.ok (), site.pool)
  dock : site.dock.Opening
  journal : site.journal = []
  unwritten : ∀ n, site.dock.around.metrics.readings n = .blank
  deliverable : site.dock.around.metrics.counter Metrics.undeliverable = 0

lemma StagedOpening.genuine (h : start.StagedOpening stages) : start.GenuineOpening where
  bound :=
    let ⟨pool, staged, hc⟩ := h.bound
    ⟨pool, (staged.prepared.offers.mono fun _ new => new.rests).ready, staged.prepared.genuine, hc⟩
  dock := h.dock
  journal := h.journal

lemma StagedOpening.accounts (h : start.StagedOpening stages)
    (hstate : start.pool.state = .running d) : start.Accounts d := by
  obtain ⟨pool, staged, hc⟩ := h.bound
  obtain ⟨metered, ⟨outputCapacity, construct⟩, -, genuine, ever, numbered⟩ := staged.prepared
  obtain ⟨lanes, new, strays, hidle, hpool, hnew, -⟩ := Pool.consume_cases hc
  have running := hstate
  rw [hpool] at running
  obtain rfl := Pool.State.running.inj running
  have made : ∀ attempt index p, (pool.construct attempt index).lane = .ok p →
      p.lane = index ∧ p.metered = true := by
    intro attempt index p hp
    rw [construct] at hp
    cases hp
    exact ⟨rfl, rfl⟩
  have nothing : ∀ i, start.handed i = [] ∧ start.reports i = [] := fun i => by
    simp [handed, reports, h.journal]
  constructor
  · rw [hpool]
    exact metered
  · rw [hpool]
    exact made
  · have step := pool.renumbers_consume
    rw [hc] at step
    exact ⟨_, numbered.step step⟩
  · refine ⟨fun i lane hl => ?_, fun n _ => h.unwritten n⟩
    obtain ⟨l, hmem, started⟩ := hnew lane (List.mem_of_getElem? hl)
    obtain ⟨-, rfl⟩ := started.eq_started
    obtain ⟨attempt, built, -⟩ := genuine.lanes lanes hidle l hmem
    obtain ⟨name, counts⟩ := made attempt l.1 l.2 built
    obtain ⟨handed, reports⟩ := nothing i
    exact .started (h.unwritten l.1) handed reports name counts

lemma StagedOpening.reads (h : start.StagedOpening stages) (inv : Invariant process start d) :
    start.Reads d 0 := by
  obtain ⟨d', hstate, refits, -⟩ := h.genuine.opening.started
  obtain rfl := Pool.State.running.inj (inv.orderly.state.symm.trans hstate)
  have slot : d.slot = .empty := refits.frame.1
  constructor
  · simp [dispatched, h.journal, h.deliverable, slot, Dispatcher.Slot.waiting]
  · simp [h.dock.accepted]

/-! ### Runs -/

/-- The accounts are kept by a run, and so is the number of transactions that were read. -/
lemma accounts_of_run {n : Nat} (streamed : Streamed process site d) (accounts : site.Accounts d)
    (reads : site.Reads d n) {events : List Event} (hr : site.run process events = some site') :
    ∃ d', Streamed process site' d' ∧ site'.Accounts d' ∧
      site'.Reads d' (n + site.read process events) := by
  induction events generalizing site d n with
  | nil =>
    obtain rfl := Option.some.inj hr
    exact ⟨d, streamed, accounts, reads⟩
  | cons e events ih =>
    obtain ⟨next, he, hr⟩ := Option.bind_eq_some_iff.mp hr
    obtain ⟨hstate, -, strays, -⟩ := streamed.invariant.orderly
    obtain ⟨d', act, hstate'⟩ := Act.of_step hstate strays he
    obtain ⟨last, streamed', accounts', reads'⟩ := ih (streamed.act act)
      (accounts.step streamed.invariant he hstate')
      (reads.step accounts streamed.invariant he hstate') hr
    refine ⟨last, streamed', accounts', ?_⟩
    rw [read, he, ← Nat.add_assoc]
    exact reads'

/-- What was handed out was handed to the lanes. -/
lemma Invariant.length_dispatched (h : Invariant process site d) :
    site.dispatched.length =
      ((List.range d.lanes.length).map fun i => (site.handed i).length).sum := by
  have known : ∀ x ∈ site.handovers, x.1 ∈ List.range d.lanes.length := by
    intro x hx
    rw [List.mem_range]
    by_contra unknown
    have none := (h.transcribed.none x.1 (Nat.le_of_not_lt unknown)).2
    exact List.not_mem_nil (none ▸ mem_handed.mpr hx)
  have sorted := perm_flatMap_filter List.nodup_range known
  rw [dispatched_eq, List.length_map, sorted.length_eq, List.length_flatMap]
  simp only [handed_eq, List.length_map]

/-- The counters of all lanes add up to what was handed out. -/
lemma Accounts.sum_dispatched (h : site.Accounts d) (inv : Invariant process site d) :
    (d.lanes.map fun lane =>
      site.dock.around.metrics.counter (LaneCounter.dispatched.stat lane.index)).sum =
      (site.dispatched.length : Int) := by
  have counted : (d.lanes.map fun lane =>
      site.dock.around.metrics.counter (LaneCounter.dispatched.stat lane.index)) =
      (List.range d.lanes.length).map fun i => ((site.handed i).length : Int) := by
    refine List.ext_getElem (by simp) fun i hi _ => ?_
    have here := h.lanes.lane i _ (List.getElem?_eq_getElem (by simpa using hi))
    rw [List.getElem_map, List.getElem_map, List.getElem_range]
    exact here.dispatched
  rw [counted, inv.length_dispatched, Nat.cast_list_sum, List.map_map]
  rfl

/-! ### Lanes that have ended -/

/-- Whether a transaction was answered with an ack. -/
def acked (site : Site σ) (t : Transaction) : Bool :=
  (site.dock.around.ledger.responses t.reply).any Response.isAck

/-- Whether a transaction was answered with a failure. -/
def failed (site : Site σ) (t : Transaction) : Bool :=
  (site.dock.around.ledger.responses t.reply).any fun response => !response.isAck

/-- The transactions of a lane are counted by what became of them. -/
structure LaneSettled (site : Site σ) (i : Nat) (x : LaneReadings) : Prop where
  received : x.counter .received = x.counter .dropped +
    (site.handed i).countP (fun t => (site.resultsOf t.reply).isEmpty && site.acked t) +
    (site.handed i).countP fun t => !(site.resultsOf t.reply).isEmpty
  dropped : x.counter .dropped =
    (site.handed i).countP fun t => (site.resultsOf t.reply).isEmpty && site.failed t
  sent : x.counter .sent = ((site.handed i).map fun t => (site.resultsOf t.reply).length).sum
  failed : x.counter .failed =
    (site.handed i).countP fun t => !(site.resultsOf t.reply).isEmpty && site.failed t
  latency : (x.timed : Int) = x.counter .received

/-- What the journal and the log tell of a transaction in a lane that has ended. -/
lemma Streamed.told_of_ended (h : Streamed process site d) {i : Nat} {xs : List (Treatment σ)}
    (handed : site.handed i = xs.map Treatment.transaction)
    (reports : site.reports i = xs.flatMap Treatment.reports)
    (sound : ∀ x ∈ xs, x.Sound process site.dock.around.ledger.settled)
    {x : Treatment σ} (hx : x ∈ xs) :
    site.resultsOf x.transaction.reply = x.results ∧
      site.acked x.transaction = x.response.isAck ∧
      site.failed x.transaction = !x.response.isAck := by
  have ht : x.transaction ∈ site.handed i := handed ▸ List.mem_map_of_mem hx
  have distinct := h.invariant.nodup_dispatched.sublist
    ((site.handed_sublist i).map Transaction.reply)
  rw [handed, List.map_map] at distinct
  have given := (sound x hx).given
  have answer : ∀ response ∈ site.dock.around.ledger.responses x.transaction.reply,
      response = x.response := fun response hresponse =>
    Ending.answered.inj (h.invariant.balanced.ending_unique (Ledger.mem_responses.mp hresponse) given)
  have some := Ledger.mem_responses.mpr given
  have any (f : Response → Bool) :
      (site.dock.around.ledger.responses x.transaction.reply).any f = f x.response := by
    rw [Bool.eq_iff_iff, List.any_eq_true]
    constructor
    · rintro ⟨response, hresponse, hf⟩
      exact answer response hresponse ▸ hf
    · exact fun hf => ⟨_, some, hf⟩
  refine ⟨?_, any _, any _⟩
  rw [h.resultsOf_eq ht, reports, Treatment.filter_flatMap distinct hx, Treatment.results_reports]

/-- A lane whose worker has ended has counted what became of each of its transactions. -/
lemma Accounts.settled (h : site.Accounts d) (streamed : Streamed process site d) {i : Nat}
    {lane : Lane (Processor σ)} (hl : d.lanes[i]? = some lane)
    (ended : lane.pipeline.phase = .ended) :
    site.LaneSettled i (site.dock.around.metrics.readings lane.index) := by
  obtain ⟨-, -, -, received, latency, dropped, failed, sent⟩ := h.lanes.lane i lane hl
  have orderly := streamed.invariant.orderly.lanes lane (List.mem_of_getElem? hl)
  rw [(orderly.ended ended).1] at received
  obtain ⟨taken, transcript, handed⟩ := streamed.transcript hl
  obtain ⟨xs, chain, treated, rfl, reports⟩ := transcript.treatments_of_idle (.inr ended)
  rw [(orderly.ended ended).1, List.append_nil] at handed
  -- what is counted over the transactions is counted over the treatments
  have told : ∀ x ∈ xs, _ := fun x hx =>
    streamed.told_of_ended handed reports (fun x hx => treated.sound hx) hx
  have count (f : List Transaction → Bool → Bool → Bool) :
      (site.handed i).countP (fun t => f (site.resultsOf t.reply) (site.acked t) (site.failed t)) =
        xs.countP fun x => f x.results x.response.isAck !x.response.isAck := by
    rw [handed, List.countP_map]
    refine List.countP_congr fun x hx => ?_
    obtain ⟨results, acked, failed⟩ := told x hx
    rw [Function.comp_apply, results, acked, failed]
  have rejected := count fun results _ failed => results.isEmpty && failed
  have quiet := count fun results acked _ => results.isEmpty && acked
  have emitted := count fun results _ _ => !results.isEmpty
  have refused := count fun results _ failed => !results.isEmpty && failed
  obtain ⟨runs, drops, fails⟩ := Turnover.of_treatments xs
  have length : (site.handed i).length = xs.length := by rw [handed, List.length_map]
  have whole := Turnover.length_treatments xs
  rw [length, List.length_nil, Nat.cast_zero, add_zero] at received
  rw [reports, runs] at latency
  rw [reports, drops] at dropped
  rw [reports, fails] at failed
  constructor
  · rw [received, dropped, quiet, emitted, whole]
    push_cast
    rfl
  · rw [dropped, rejected]
  · rw [Processor.uncounted, ended, Nat.cast_zero, add_zero] at sent
    have made : Report.results (xs.flatMap Treatment.reports) = xs.flatMap Treatment.results := by
      rw [Report.results, List.filterMap_flatMap]
      exact List.flatMap_congr fun x _ => x.results_reports
    rw [sent, reports, made, handed, List.map_map, List.length_flatMap]
    refine congrArg (fun lengths : List Nat => (lengths.sum : Int)) (List.map_congr_left fun x hx => ?_)
    rw [Function.comp_apply, (told x hx).1]
  · rw [failed, refused]
  · rw [latency, received]

/-! ### The result -/

/-- All that the dispatcher has read was counted for one of the lanes or as undeliverable, or is held
by the dispatcher; what it did not read waits in the input. Each lane has a number of its own, and has
counted what it took from its queue. When the pool is done, each lane has counted as dropped, as sent
and as failed what became of its transactions, and has timed every run of its stages. -/
theorem counters_account (opening : start.StagedOpening stages) {events : List Event}
    (hr : start.run process events = some site) :
    ∃ d, site.pool.dispatcher? = some d ∧ (d.lanes.map Lane.index).Nodup ∧
      (∀ n, n ∉ d.lanes.map Lane.index → site.dock.around.metrics.readings n = .blank) ∧
      site.dock.accepted.length =
        start.read process events + site.dock.around.input.queue.length ∧
      (start.read process events : Int) =
        (d.lanes.map fun lane =>
          site.dock.around.metrics.counter (LaneCounter.dispatched.stat lane.index)).sum +
        site.dock.around.metrics.counter Metrics.undeliverable + d.slot.waiting.length ∧
      (∀ lane ∈ d.lanes, (site.dock.around.metrics.readings lane.index).counter .dispatched =
        (site.dock.around.metrics.readings lane.index).counter .received +
          lane.queue.queue.length) ∧
      (site.pool.done = true → ∀ i lane, d.lanes[i]? = some lane →
        site.LaneSettled i (site.dock.around.metrics.readings lane.index)) := by
  have nothing : start.run process [] = some start := rfl
  obtain ⟨d₀, streamed₀⟩ := opening.genuine.streamed nothing
  obtain ⟨d, streamed, accounts, reads⟩ := accounts_of_run streamed₀
    (opening.accounts streamed₀.invariant.orderly.state) (opening.reads streamed₀.invariant) hr
  have orderly := streamed.invariant.orderly
  rw [Nat.zero_add] at reads
  refine ⟨d, orderly.dispatcher, nodup_indices accounts.numbered orderly.state,
    accounts.lanes.blank, reads.accepted, ?_, fun lane hlane => ?_, fun hdone i lane hl => ?_⟩
  · rw [accounts.sum_dispatched streamed.invariant]
    exact reads.handled
  · obtain ⟨i, hl⟩ := List.getElem?_of_mem hlane
    have lane := accounts.lanes.lane i _ hl
    rw [lane.dispatched, lane.received]
  · have hd := orderly.done.mp hdone
    have mem := List.mem_of_getElem? hl
    exact accounts.settled streamed hl ((orderly.lanes lane mem).relay ((orderly.ended hd).1 lane mem)).1

/-- A pool of two lanes with a fickle stage each, which keeps counters. -/
def meteredPool : Pool (Processor Nat) :=
  let lane (index : Nat) : Processor Nat := { lane := index, chain := [0] }
  { construct := fun _ => Pool.stagedLane (fun _ => [0]) 1
    laneBuffer := 1
    outputCapacity := 1
    metered := true
    nextIndex := 2
    size := 2
    state := .idle [(0, lane 0), (1, lane 1)] }

lemma staged_meteredPool : meteredPool.Staged fun _ => [0] :=
  .create (h := show Pool.create _ 2 1 1 true {} = (.ok meteredPool, _) from rfl)

/-- The pool after it has bound the input of an empty dock. -/
def metered : Site Nat where
  pool := meteredPool.consume.2
  dock :=
    { around := { input := .new 2, fed := true, output := .new 1, ledger := {}, metrics := {} } }

theorem counters_account_metered :
    ∃ site d, metered.run fickle course = some site ∧ site.pool.done = true ∧
      metered.read fickle course = 2 ∧ site.pool.dispatcher? = some d ∧
      (2 : Int) = (d.lanes.map fun lane =>
          site.dock.around.metrics.counter (LaneCounter.dispatched.stat lane.index)).sum +
        site.dock.around.metrics.counter Metrics.undeliverable + d.slot.waiting.length ∧
      ∀ i lane, d.lanes[i]? = some lane →
        site.LaneSettled i (site.dock.around.metrics.readings lane.index) := by
  have opening : metered.StagedOpening fun _ => [0] :=
    { bound := ⟨meteredPool, staged_meteredPool, rfl⟩
      dock := by constructor <;> simp [metered, Channel.new]
      journal := rfl
      unwritten := fun _ => rfl
      deliverable := rfl }
  have reads : metered.read fickle course = 2 := by decide +kernel
  obtain ⟨site, hr, hdone⟩ := Option.map_eq_some_iff.mp
    (show (metered.run fickle course).map (fun site => site.pool.done) = some true by
      decide +kernel)
  obtain ⟨d, hd, -, -, -, sum, -, settled⟩ := counters_account opening hr
  rw [reads] at sum
  exact ⟨site, d, hr, hdone, reads, hd, sum, settled hdone⟩

end Conveyor.Site
