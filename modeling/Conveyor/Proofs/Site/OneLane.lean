import Conveyor.Proofs.Bench.Verdicts
import Conveyor.Proofs.Pool.Renumbering
import Conveyor.Proofs.Site.Rest
import Conveyor.Proofs.Site.Sequences

/-!
# A pool with one lane is a processor

A pool with one lane has a dispatcher, a queue for the lane, an output of the lane and a relay, each of
which may hold something up, but nothing overtakes anything else there. So if the consumer judges the
results by what it has received, it cannot tell the pool from a processor with the same stages, and
neither can the producers (`Site.one_lane_is_processor`).
-/

namespace Conveyor

variable {σ : Type} {process : Behaviour σ} {chain : List σ} {judge : List Message → Bool}
  {failure : Failure}

/-! ### The pool -/

namespace Site

variable {site site' start : Site σ} {d d' : Dispatcher (Processor σ)}

/-- A site whose pool has just bound the input, with one new lane that has these stages. -/
structure SoloOpening (chain : List σ) (site : Site σ) : Prop where
  bound : ∃ (pool : Pool (Processor σ)) (index : Nat) (p : Processor σ),
    pool.state = .idle [(index, p)] ∧ p.chain = chain ∧ pool.Offers Processor.New ∧
      pool.Genuine ∧ pool.consume = (.ok (), site.pool)
  dock : site.dock.Opening
  output : ∃ capacity, site.dock.around.output = .new capacity
  journal : site.journal = []

/-- What holds at any time of a site whose pool has one lane. -/
structure Solo (process : Behaviour σ) (chain : List σ) (site : Site σ)
    (d : Dispatcher (Processor σ)) : Prop where
  streamed : Streamed process site d
  owned : site.Owned Processor.New d
  roomy : site.Roomy d
  requests : d.requests = []
  lane : ∃ index, d.tags.map Prod.fst = [index] ∧ site.pool.stagesOf index = chain

/-- If nobody asks for another number of lanes, the lanes stay the same. -/
lemma Act.same_lanes {e : Event} (act : Act process site d e site' d') (requests : d.requests = [])
    (unsized : e.resizes = false) :
    d'.requests = [] ∧ d'.tags.map Prod.fst = d.tags.map Prod.fst ∧
      site'.pool.construct = site.pool.construct := by
  cases act with
  | user | stop => exact ⟨requests, rfl, rfl⟩
  | dispatch turn =>
    have unattended : site.pool.attended d = [] := by
      unfold Pool.attended
      split
      next => rfl
      next => simp [requests]
      next => rfl
    obtain ⟨-, tags, -⟩ := turn.numbers unattended
    refine ⟨?_, tags, ?_⟩
    · cases turn with
      | resize hp hs heard hr =>
        rw [requests] at hr
        cases hr
      | retire =>
        obtain ⟨lanes, frame⟩ := d.shrink_frame 0 site.dock.around.metrics
        simp [frame, requests]
      | _ => exact requests
    · obtain ⟨nextIndex, attempt, size, done, rfl⟩ := turn.frame
      rfl
  | relay hl c =>
    obtain ⟨-, -, retired, -⟩ := c.frame
    refine ⟨requests, congrArg _ (Dispatcher.tags_set hl ?_ retired), rfl⟩
    cases c <;> rfl
  | work hl | closeLane hl =>
    refine ⟨requests, congrArg _ (Dispatcher.tags_set hl ?_ ?_), rfl⟩
    all_goals rfl
  | ask => cases unsized

lemma Solo.act (h : Solo process chain site d) {e : Event} (unsized : e.resizes = false)
    (owned : e.closesLane = false) (act : Act process site d e site' d') :
    Solo process chain site' d' := by
  have m : Move process site d site' d' := .of_act h.streamed.invariant.orderly.made act
  obtain ⟨requests, tags, made⟩ := act.same_lanes h.requests unsized
  constructor
  · exact h.streamed.act act
  · exact h.owned.act (fun _ new => new) h.streamed.invariant.orderly owned act
  · exact h.roomy.move m
  · exact requests
  · obtain ⟨index, numbers, stages⟩ := h.lane
    refine ⟨index, tags.trans numbers, ?_⟩
    rw [← stages, Pool.stagesOf, Pool.stagesOf, made]

/-- Whether an event agrees with the verdicts of the consumer. -/
def Event.judges (judge : List Message → Bool) (failure : Failure) (site : Site σ) : Event → Bool
  | .user e => e.judges judge failure site.dock
  | _       => true

lemma Streamed.attended (h : Streamed process site d)
    (attended : site.dock.Attended judge failure) {e : Event} (judges : e.judges judge failure site)
    (act : Act process site d e site' d') : site'.dock.Attended judge failure := by
  have orderly := h.invariant.orderly
  have m : Move process site d site' d' := .of_act orderly.made act
  have balanced' : (site'.books d').Balanced := (h.act act).invariant.balanced
  have log : site.dock.around.ledger.settled <+: site'.dock.around.ledger.settled :=
    (orderly.books_move h.invariant.balanced m).settled_grows
  cases act with
  | user hd =>
    have distinct := h.nodup_received attended.judged.listens
    exact attended.user h.invariant.balanced distinct judges hd
  | dispatch turn =>
    obtain ⟨-, -, output⟩ := h.merged.dispatch (.of_turn orderly.made turn)
    exact attended.keep balanced' rfl rfl (congrArg Channel.closed output) log
  | relay hl c =>
    refine attended.keep balanced' rfl rfl ?_ log
    cases c <;> rfl
  | work | ask | stop | closeLane => exact attended.keep balanced' rfl rfl rfl log

lemma SoloOpening.withNew (h : start.SoloOpening chain) : start.OpeningWith Processor.New where
  bound :=
    let ⟨pool, _, _, _, _, offers, _, hc⟩ := h.bound
    ⟨pool, offers, hc⟩
  dock := h.dock
  journal := h.journal

lemma SoloOpening.genuine (h : start.SoloOpening chain) : start.GenuineOpening where
  bound := by
    obtain ⟨pool, -, -, -, -, offers, genuine, hc⟩ := h.bound
    exact ⟨pool, (offers.mono fun p new => new.rests).ready, genuine, hc⟩
  dock := h.dock
  journal := h.journal

/-- In the beginning there is the lane that was made, and nobody has asked for another number. -/
lemma SoloOpening.only_lane (h : start.SoloOpening chain) (hstate : start.pool.state = .running d) :
    d.requests = [] ∧
      ∃ index, d.tags.map Prod.fst = [index] ∧ start.pool.stagesOf index = chain := by
  obtain ⟨pool, index, p, hidle, rfl, -, genuine, hc⟩ := h.bound
  obtain ⟨lanes, new, strays, hidle', hpool, hnew, hlength⟩ := Pool.consume_cases hc
  obtain rfl := Pool.State.idle.inj (hidle.symm.trans hidle')
  rw [hpool] at hstate ⊢
  obtain rfl := Pool.State.running.inj hstate
  obtain ⟨lane, rfl⟩ := List.length_eq_one_iff.mp hlength
  obtain ⟨l, hl, started⟩ := hnew lane (List.mem_singleton_self lane)
  obtain rfl := List.mem_singleton.mp hl
  obtain ⟨-, rfl⟩ := started.eq_started
  exact ⟨rfl, index, rfl, Pool.stagesOf_eq (genuine.lanes _ hidle _ hl)⟩

lemma SoloOpening.begins (h : start.SoloOpening chain) : ∃ d, Solo process chain start d := by
  obtain ⟨capacity, output⟩ := h.output
  have nothing : start.run process [] = some start := rfl
  obtain ⟨d, streamed⟩ := h.genuine.streamed nothing
  have hstate := streamed.invariant.orderly.state
  obtain ⟨d', inv, roomy⟩ :=
    h.genuine.opening.invariant_roomy (by simp [output, Channel.new]) nothing
  obtain rfl := Pool.State.running.inj (hstate.symm.trans inv.orderly.state)
  obtain ⟨requests, lane⟩ := h.only_lane hstate
  exact ⟨d, streamed, h.withNew.owned (fun _ new => new) inv, roomy, requests, lane⟩

lemma SoloOpening.solo (h : start.SoloOpening chain) {events : List Event}
    (kept : ∀ e ∈ events, e.resizes = false ∧ e.closesLane = false)
    (judges : throughout (step process) (Event.judges judge failure) start events)
    (hr : start.run process events = some site) :
    ∃ d, Solo process chain site d ∧ site.dock.Attended judge failure := by
  obtain ⟨capacity, output⟩ := h.output
  have listens : start.dock.around.output.closed = false := by rw [output]; rfl
  obtain ⟨d, solo⟩ : ∃ d, Solo process chain start d := h.begins
  refine runFrom_induction_throughout (P := fun site : Site σ =>
    ∃ d, Solo process chain site d ∧ site.dock.Attended judge failure) ?_
    ⟨d, solo, h.dock.attended listens⟩ judges hr
  rintro site site' e hmem ⟨d, solo, attended⟩ allowed he
  obtain ⟨hstate, -, strays, -⟩ := solo.streamed.invariant.orderly
  obtain ⟨d', act, -⟩ := Act.of_step hstate strays he
  obtain ⟨unsized, owned⟩ := kept e hmem
  exact ⟨d', solo.act unsized owned act, solo.streamed.attended attended allowed act⟩

/-! ### Nothing overtakes anything else -/

lemma Solo.alone (h : Solo process chain site d) :
    ∃ lane, d.lanes = [lane] ∧ site.stages 0 = chain := by
  obtain ⟨index, numbers, stages⟩ := h.lane
  have one : d.lanes.map Lane.index = [index] := by
    rw [← numbers, Dispatcher.tags, List.map_map]
    rfl
  obtain ⟨lane, hlanes, rfl⟩ := List.map_eq_singleton_iff.mp one
  have running : site.pool.dispatcher? = some d := h.streamed.invariant.orderly.dispatcher
  refine ⟨lane, hlanes, ?_⟩
  simpa [Site.stages, running, hlanes] using stages

/-- All that was handed out was handed to the one lane. -/
lemma Solo.dispatched_eq (h : Solo process chain site d) : site.dispatched = site.handed 0 := by
  obtain ⟨lane, hlanes, -⟩ := h.alone
  refine site.handed_interleave.alone fun i hi => ?_
  have beyond : d.lanes.length ≤ i := hlanes ▸ Nat.one_le_iff_ne_zero.mpr hi
  exact (h.streamed.invariant.transcribed.none i beyond).2

/-- The results of the one lane are those that came out, those in the output, and those that the lane
and its relay hold. -/
lemma Solo.results_eq (h : Solo process chain site d) {lane : Lane (Processor σ)}
    (hlanes : d.lanes = [lane]) (listens : site.dock.around.output.closed = false) :
    Report.results (site.reports 0) =
      site.dock.received ++ (site.dock.around.output.queue ++ lane.outgoing) := by
  obtain ⟨delivered, interleaves, hresults⟩ := h.streamed.shuffled listens
  have out : site.dock.received ++ site.dock.around.output.queue = delivered 0 := by
    refine interleaves.alone fun i hi => ?_
    have beyond : d.lanes.length ≤ i := hlanes ▸ Nat.one_le_iff_ne_zero.mpr hi
    have none := hresults i
    rw [(h.streamed.nothing beyond).1] at none
    exact (List.append_eq_nil_iff.mp none.symm).1
  rw [hresults, ← out, outgoingAt_of_lane (by rw [hlanes]; rfl), List.append_assoc]

lemma Solo.transcript (h : Solo process chain site d) {lane : Lane (Processor σ)}
    (hlanes : d.lanes = [lane]) :
    ∃ taken, lane.pipeline.Transcript process site.dock.around.ledger.settled chain taken
        (site.reports 0) ∧
      site.dock.accepted =
        taken ++ (lane.queue.queue ++ (d.slot.waiting ++ site.dock.around.input.queue)) := by
  obtain ⟨-, -, stages⟩ := h.alone
  obtain ⟨taken, transcript, hhanded⟩ := h.streamed.transcript (i := 0) (by rw [hlanes]; rfl)
  refine ⟨taken, stages ▸ transcript, ?_⟩
  rw [h.owned.queued, h.dispatched_eq, hhanded, List.append_assoc]

/-! ### The docks -/

lemma Solo.follows (h : Solo process chain site d) (judged : site.dock.Judged judge failure) :
    site.dock.Follows process judge failure chain := by
  obtain ⟨lane, hlanes, -⟩ := h.alone
  obtain ⟨taken, transcript, accepted⟩ := h.transcript hlanes
  have total (f : Lane (Processor σ) → Multiset Nat) : d.total f = f lane := by
    simp [Dispatcher.total, hlanes]
  refine transcript.follows h.streamed.invariant.balanced rfl rfl accepted
    (h.results_eq hlanes judged.listens) ?_ ?_ judged
  · intro id
    simp only [books, Dock.books, total, Lane.work, replies_append, Multiset.mem_add]
    tauto
  · intro id
    simp only [books, Dock.books, total, Lane.goods, Lane.outgoing, replies_append,
      Multiset.mem_add]
    tauto

lemma Solo.finished (h : Solo process chain site d) (rests : site.Rests process)
    (listens : site.dock.around.output.closed = false) : site.dock.Finished process chain := by
  have inv := h.streamed.invariant
  obtain ⟨lane, hlanes, -⟩ := h.alone
  have mem : lane ∈ d.lanes := hlanes ▸ List.mem_singleton_self lane
  obtain ⟨taken, transcript, accepted⟩ := h.transcript hlanes
  -- nothing is left before the lane, in it, and behind it
  obtain ⟨slot, input⟩ : d.slot = .empty ∧ site.dock.around.input.queue = [] := by
    rcases inv.dispatcher_rests h.roomy rests with ended | ⟨slot, input, -⟩
    · obtain ⟨slot, input, -⟩ := inv.orderly.left (by simp [ended])
      exact ⟨slot, input⟩
    · exact ⟨slot, input⟩
  obtain ⟨idle, queue⟩ : (lane.pipeline.phase = .waiting ∨ lane.pipeline.phase = .ended) ∧
      lane.queue.queue = [] := by
    rcases inv.worker_rests h.roomy rests mem with ended | ⟨waiting, queue, -⟩
    · exact ⟨.inr ended, ((inv.orderly.lanes lane mem).ended ended).1⟩
    · exact ⟨.inl waiting, queue⟩
  obtain ⟨carried, output, -⟩ := (rests.goods_eq_zero inv.orderly h.roomy.output).1 lane mem
  have delivered := (rests_iff.mp rests).2.1
  have received := h.results_eq hlanes listens
  simp only [slot, input, queue, Dispatcher.Slot.waiting, List.append_nil] at accepted
  simp only [delivered, Lane.outgoing, carried, output, Option.toList_none,
    List.append_nil] at received
  obtain rfl := accepted
  refine transcript.finished inv.balanced rfl rfl idle received ?_
  rcases idle with hp | hp <;>
    simp [books, Dock.books, Dispatcher.total, hlanes, Lane.work, Processor.work, hp, queue, slot,
      input, Dispatcher.Slot.waiting]

/-! ### The result -/

/-- A new pool of one lane has the stages that its constructor gives the first lane. -/
lemma SoloOpening.of_create {construct : Nat → Nat → LaneBuild (Processor σ)}
    {pool : Pool (Processor σ)} {laneBuffer outputCapacity : Nat} {metered : Bool} {metrics metrics' : Metrics.Store}
    (created : Pool.create construct 1 laneBuffer outputCapacity metered metrics =
      (.ok pool, metrics'))
    (new : ∀ attempt index p, (construct attempt index).lane = .ok p → p.New)
    (bound : pool.consume = (.ok (), start.pool)) (dock : start.dock.Opening)
    (output : ∃ capacity, start.dock.around.output = .new capacity) (journal : start.journal = []) :
    ∃ p, (construct 0 0).lane = .ok p ∧ start.SoloOpening p.chain := by
  obtain ⟨p, hp, hidle⟩ : ∃ p, (construct 0 0).lane = .ok p ∧ pool.state = .idle [(0, p)] := by
    unfold Pool.create Pool.constructFrom at created
    split at created
    next => cases created
    next =>
      cases hp : (construct 0 0).lane with
      | error => simp [hp] at created
      | ok p =>
        simp only [hp, Pool.constructFrom, Except.map] at created
        cases created
        exact ⟨p, rfl, rfl⟩
  refine ⟨p, hp, ⟨pool, 0, p, hidle, rfl, ?_, ?_, bound⟩, dock, output, journal⟩
  · exact Pool.offers_of_create new created
  · exact Pool.genuine_of_create created

/-- A pool with one lane and a processor with the same stages get the same input, as far as it was
accepted, and their consumers stay and keep to the same verdicts. Then, in whatever order the parties
move, the consumers receive the same payloads, as far as they have received any, and the answers to each
transaction are the same, as far as there are any. Neither side can go on forever without its
producers, and when both have come to rest with the same input they have sent the same payloads on, and
every transaction has got the same answer on both sides. -/
theorem one_lane_is_processor {first bench : Bench σ} (opening : start.SoloOpening chain)
    (opening' : first.Opening) (same : first.processor.chain = chain) {events : List Event}
    {events' : List Bench.Event} (kept : ∀ e ∈ events, e.resizes = false ∧ e.closesLane = false)
    (judges : throughout (step process) (Event.judges judge failure) start events)
    (judges' : throughout (Bench.step process) (Bench.Event.judges judge failure) first events')
    (hr : start.run process events = some site) (hr' : first.run process events' = some bench)
    {inputs : List Message} (begins : site.dock.accepted.map Transaction.payload <+: inputs)
    (begins' : bench.dock.accepted.map Transaction.payload <+: inputs) :
    (site.dock.received.map Transaction.payload <+: bench.dock.received.map Transaction.payload ∨
      bench.dock.received.map Transaction.payload <+:
        site.dock.received.map Transaction.payload) ∧
    (∀ (k : Nat) (t t' : Transaction), site.dock.accepted[k]? = some t →
      bench.dock.accepted[k]? = some t' →
      ∀ response ∈ site.dock.around.ledger.responses t.reply,
        ∀ response' ∈ bench.dock.around.ledger.responses t'.reply, response = response') ∧
    (Acc (fun later now : Site σ => ∃ e : Event, e.drives ∧ now.step process e = some later) site ∧
      Acc (fun later now : Bench σ =>
        ∃ e : Bench.Event, e.drives ∧ now.step process e = some later) bench) ∧
    (site.Rests process → bench.Rests process →
      site.dock.accepted.map Transaction.payload = bench.dock.accepted.map Transaction.payload →
      site.dock.received.map Transaction.payload = bench.dock.received.map Transaction.payload ∧
      (site.dock.accepted.map fun t => site.dock.around.ledger.responses t.reply) =
        (bench.dock.accepted.map fun t => bench.dock.around.ledger.responses t.reply) ∧
      ∀ t ∈ site.dock.accepted, ∃ response,
        site.dock.around.ledger.responses t.reply = [response]) := by
  obtain ⟨d, solo, ⟨judged, -, -⟩⟩ := opening.solo kept judges hr
  have inv : Bench.Invariant process chain bench := same ▸ opening'.invariant hr'
  obtain ⟨judged', -, -⟩ := opening'.attended judges' hr'
  have follows := solo.follows judged
  have follows' := inv.follows judged'
  refine ⟨?_, fun k t t' ht ht' response answered response' answered' => ?_, ⟨?_, ?_⟩,
    fun rests rests' accepted => ?_⟩
  · exact follows.received_agree follows' begins begins'
  · exact follows.answers_agree follows' begins begins' ht ht' answered answered'
  · exact solo.streamed.invariant.acc_drives solo.roomy
  · exact (Bench.wellFounded_drives process).apply bench
  · have finished := solo.finished rests judged.listens
    have finished' := inv.finished rests' judged'.listens
    obtain ⟨received, answers⟩ := finished.agree finished' follows follows' accepted
    exact ⟨received, answers, finished.answered⟩

/-! ### A small pool with one lane -/

/-- A new pool with one lane, which has a fickle stage. -/
def onePool : Pool (Processor Nat) :=
  let lane (index : Nat) : Processor Nat := { lane := index, chain := [0], metered := false }
  { construct := fun _ index => { lane := .ok (lane index) }
    laneBuffer := 1
    outputCapacity := 1
    metered := false
    nextIndex := 1
    size := 1
    state := .idle [(0, lane 0)] }

/-- The pool after it has bound the input of an empty dock. -/
def one : Site Nat where
  pool := onePool.consume.2
  dock :=
    { around := { input := .new 2, fed := true, output := .new 1, ledger := {}, metrics := {} } }

lemma soloOpening_one : one.SoloOpening [0] := by
  have created : Pool.create onePool.construct 1 1 1 false {} = (.ok onePool, {}) := rfl
  have new : ∀ attempt index p, (onePool.construct attempt index).lane = .ok p → p.New := by
    rintro attempt index p hp
    cases hp
    constructor <;> rfl
  have dock : one.dock.Opening := by constructor <;> simp [one, Channel.new]
  obtain ⟨p, hp, opening⟩ := SoloOpening.of_create created new rfl dock ⟨1, rfl⟩ rfl
  cases hp
  exact opening

/-- Two transactions go through the pool with one lane. The first result of the first one is accepted,
and the second one is refused. In the end the pool is shut down. -/
def oneCourse : List Event :=
  [.user (.send ⟨[default]⟩), .user (.send .empty), .move .dispatcher, .move .dispatcher,
    .move .dispatcher, .move .dispatcher, .move (.inLane 0 .worker), .move .dispatcher,
    .move .dispatcher, .move (.inLane 0 .worker), .move (.inLane 0 .worker), .move (.relay 0),
    .move (.inLane 0 .worker), .move (.inLane 0 .worker), .move (.inLane 0 .worker),
    .move (.inLane 0 .worker), .move (.relay 0), .move (.relay 0), .user .receive,
    .move (.relay 0), .user .receive, .user (.answer ⟨⟨[default]⟩, 2⟩ .ack),
    .move (.inLane 0 .worker), .user (.answer ⟨⟨[default]⟩, 3⟩ (.error (.rejected "enough"))),
    .move (.inLane 0 .worker), .move (.inLane 0 .worker), .move (.inLane 0 .worker),
    .move (.inLane 0 .worker), .close, .move .dispatcher, .move .dispatcher, .move .dispatcher,
    .move (.inLane 0 .worker), .move (.inLane 0 .worker), .move (.relay 0), .move .dispatcher]

/-- The same transactions go through a processor with the same stage. -/
def benchCourse : List Bench.Event :=
  [.user (.send ⟨[default]⟩), .user (.send .empty), .work, .work, .work, .user .receive, .work,
    .work, .work, .work, .user .receive, .user (.answer ⟨⟨[default]⟩, 2⟩ .ack), .work,
    .user (.answer ⟨⟨[default]⟩, 3⟩ (.error (.rejected "enough"))), .work, .work, .work, .work,
    .close, .work, .work]

theorem one_lane_is_processor_one :
    ∃ site bench, one.run fickle oneCourse = some site ∧
      Bench.small.run fickle benchCourse = some bench ∧
      site.dock.received.map Transaction.payload = [⟨[default]⟩, ⟨[default]⟩] ∧
      site.dock.received.map Transaction.payload = bench.dock.received.map Transaction.payload ∧
      (site.dock.accepted.map fun t => site.dock.around.ledger.responses t.reply) =
        [[.error (.rejected "enough")], [.error (.rejected "no more")]] ∧
      (site.dock.accepted.map fun t => site.dock.around.ledger.responses t.reply) =
        (bench.dock.accepted.map fun t => bench.dock.around.ledger.responses t.reply) := by
  -- the consumers accept their first result only
  let judge : List Message → Bool := fun seen => seen.length == 1
  let log : List (Nat × Ending) :=
    [(2, .answered .ack), (3, .answered (.error (.rejected "enough"))),
      (0, .answered (.error (.rejected "enough"))), (1, .answered (.error (.rejected "no more")))]
  have dock : (one.run fickle oneCourse).map (fun site =>
        (site.dock.accepted, site.dock.received, site.dock.around.ledger.settled)) =
      some ([⟨⟨[default]⟩, 0⟩, ⟨.empty, 1⟩], [⟨⟨[default]⟩, 2⟩, ⟨⟨[default]⟩, 3⟩], log) := by
    decide +kernel
  have ends : (one.run fickle oneCourse).map (fun site => site.pool.done) = some true := by
    decide +kernel
  have dock' : (Bench.small.run fickle benchCourse).map (fun bench =>
        (bench.dock.accepted, bench.dock.received, bench.dock.around.ledger.settled)) =
      some ([⟨⟨[default]⟩, 0⟩, ⟨.empty, 1⟩], [⟨⟨[default]⟩, 2⟩, ⟨⟨[default]⟩, 3⟩], log) := by
    decide +kernel
  have ends' : (Bench.small.run fickle benchCourse).map (fun bench =>
      (bench.processor.phase, bench.dock.around.output, bench.dock.held)) =
        some (.ended, .new 1, []) := by decide +kernel
  obtain ⟨site, hr, hsite⟩ := Option.map_eq_some_iff.mp dock
  obtain ⟨bench, hr', hbench⟩ := Option.map_eq_some_iff.mp dock'
  rw [hr] at ends
  rw [hr'] at ends'
  simp only [Option.map_some, Option.some.injEq, Prod.mk.injEq] at hsite hbench ends'
  obtain ⟨accepted, received, settled⟩ := hsite
  obtain ⟨accepted', received', settled'⟩ := hbench
  have hdone : site.pool.done = true := Option.some.inj ends
  obtain ⟨hp, output, held⟩ := ends'
  have judges : throughout (step fickle) (Event.judges judge (.rejected "enough")) one oneCourse := by
    decide +kernel
  have judges' : throughout (Bench.step fickle) (Bench.Event.judges judge (.rejected "enough"))
      Bench.small benchCourse := by decide +kernel
  obtain ⟨-, -, -, finished⟩ := one_lane_is_processor soloOpening_one Bench.opening_small rfl
    (by decide) judges judges' hr hr' List.prefix_rfl (by rw [accepted, accepted'])
  obtain ⟨d, inv⟩ := soloOpening_one.genuine.opening.invariant hr
  have rests : site.Rests fickle := inv.rests (inv.orderly.done.mp hdone)
  have rests' : bench.Rests fickle :=
    Bench.rests_iff.mpr ⟨by simp [Processor.step, hp], by rw [output]; rfl, held⟩
  obtain ⟨payloads, responses, -⟩ := finished rests rests' (by rw [accepted, accepted'])
  refine ⟨site, bench, hr, hr', by rw [received]; rfl, payloads, ?_, responses⟩
  rw [accepted]
  simp only [Ledger.responses, settled]
  rfl

end Site

end Conveyor
