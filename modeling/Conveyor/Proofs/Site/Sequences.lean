import Conveyor.Proofs.Site.Streams

/-!
# The sequences of the lanes

What the consumer receives is at any time the beginning of an interleaving of the sequences of all
lanes, those retired before too, and all of it when the pool is done (`Site.merged_in_order`). The
results of one transaction come once each, in the order of its messages.
-/

namespace Conveyor.Site

variable {σ : Type} {process : Behaviour σ} {site site' start : Site σ}
  {d d' : Dispatcher (Processor σ)}

/-! ### The invariant -/

/-- What holds at any time of a site whose lanes come from the constructor of the pool. -/
structure Streamed (process : Behaviour σ) (site : Site σ) (d : Dispatcher (Processor σ)) :
    Prop where
  invariant : Invariant process site d
  merged : site.Merged d
  vain : site.pool.Vain
  rooted : site.Rooted d.lanes
  shuffled : site.Shuffled d.lanes

lemma Streamed.act (h : Streamed process site d) {e : Event}
    (act : Act process site d e site' d') : Streamed process site' d' := by
  have m : Move process site d site' d' := .of_act h.invariant.orderly.made act
  constructor
  · exact h.invariant.move m
  · exact h.merged.move h.invariant.orderly m
  · cases act with
    | dispatch turn =>
      have vain := h.vain.turn turn
      exact vain
    | _ => exact h.vain
  · exact h.rooted.act h.invariant h.vain act
  · exact h.shuffled.move h.merged h.invariant.orderly m

/-- A site whose pool has just bound the input, with lanes from its constructor. -/
structure GenuineOpening (site : Site σ) : Prop where
  bound : ∃ pool : Pool (Processor σ), pool.Ready ∧ pool.Genuine ∧
    pool.consume = (.ok (), site.pool)
  dock : site.dock.Opening
  journal : site.journal = []

lemma GenuineOpening.opening (h : start.GenuineOpening) : start.Opening where
  bound :=
    let ⟨pool, ready, _, hc⟩ := h.bound
    ⟨pool, ready, hc⟩
  dock := h.dock
  journal := h.journal

lemma GenuineOpening.rooted (h : start.GenuineOpening) (hstate : start.pool.state = .running d) :
    start.Rooted d.lanes := by
  obtain ⟨pool, -, genuine, hc⟩ := h.bound
  obtain ⟨lanes, new, strays, hidle, hpool, hnew, -⟩ := Pool.consume_cases hc
  have running := hstate
  rw [hpool] at running
  obtain rfl := Pool.State.running.inj running
  intro i lane hl
  obtain ⟨l, hmem, started⟩ := hnew lane (List.mem_of_getElem? hl)
  obtain ⟨-, rfl⟩ := started.eq_started
  have none : start.reports i = [] := by simp [reports, h.journal]
  have yields : Pool.Yields start.pool.construct l.1 l.2 := by
    rw [hpool]
    exact genuine.lanes lanes hidle l hmem
  rw [RootedLane, none, Report.start_nil]
  exact (Pool.stagesOf_eq yields).symm

lemma GenuineOpening.vain (h : start.GenuineOpening) : start.pool.Vain := by
  obtain ⟨pool, -, genuine, hc⟩ := h.bound
  obtain ⟨lanes, new, strays, -, hpool, -⟩ := Pool.consume_cases hc
  rw [hpool]
  exact genuine.vain

lemma GenuineOpening.shuffled (h : start.GenuineOpening)
    (hstate : start.pool.state = .running d) : start.Shuffled d.lanes := by
  obtain ⟨d', hstate', refits, -⟩ := h.opening.started
  obtain rfl := Pool.State.running.inj (hstate.symm.trans hstate')
  intro _
  refine ⟨fun _ => [], ?_, fun i => ?_⟩
  · rw [h.dock.received, h.dock.output]
    exact .nil
  · rw [refits.outgoing]
    simp [reports, h.journal, outgoingAt]

theorem GenuineOpening.streamed (h : start.GenuineOpening) {events : List Event}
    (hr : start.run process events = some site) : ∃ d, Streamed process site d := by
  refine runFrom_induction (P := fun site => ∃ d, Streamed process site d) ?_ ?_ hr
  · rintro site site' e ⟨d, streamed⟩ he
    obtain ⟨hstate, -, strays, -⟩ := streamed.invariant.orderly
    obtain ⟨d', act, -⟩ := Act.of_step hstate strays he
    exact ⟨d', streamed.act act⟩
  · obtain ⟨d, invariant⟩ : ∃ d, Invariant process start d := h.opening.start
    have hstate := invariant.orderly.state
    exact ⟨d, invariant, h.opening.merged hstate, h.vain, h.rooted hstate, h.shuffled hstate⟩

/-! ### The sequence of a lane -/

/-- The transcript of a lane begins with the stages that were made for its number. -/
lemma Streamed.transcript (h : Streamed process site d) {i : Nat} {lane : Lane (Processor σ)}
    (hl : d.lanes[i]? = some lane) :
    ∃ taken, lane.pipeline.Transcript process site.dock.around.ledger.settled (site.stages i) taken
        (site.reports i) ∧
      site.handed i = taken ++ lane.queue.queue := by
  obtain ⟨first, taken, transcript, hq⟩ := h.invariant.transcribed.lane i lane hl
  have stages : site.stages i = first := by
    have running : site.pool.dispatcher? = some d := h.invariant.orderly.dispatcher
    simp only [Site.stages, running, Option.bind_some, hl]
    rw [← transcript.start_eq]
    exact (h.rooted i lane hl).symm
  exact ⟨taken, stages ▸ transcript, hq.symm⟩

lemma Streamed.nothing (h : Streamed process site d) {i : Nat} (hi : d.lanes.length ≤ i) :
    site.reports i = [] ∧ site.sequence process i = [] := by
  obtain ⟨hreports, hhanded⟩ := h.invariant.transcribed.none i hi
  exact ⟨hreports, by rw [sequence, hhanded]; rfl⟩

/-- The results of a lane carry the beginning of its sequence. -/
lemma Streamed.sequence_grows (h : Streamed process site d) (i : Nat) :
    (Report.results (site.reports i)).map Transaction.payload <+: site.sequence process i := by
  cases hl : d.lanes[i]? with
  | none =>
    rw [(h.nothing (List.getElem?_eq_none_iff.mp hl)).1]
    exact List.nil_prefix
  | some lane =>
    obtain ⟨taken, transcript, hhanded⟩ := h.transcript hl
    refine transcript.messages_grow.trans ?_
    rw [sequence, hhanded, interpret_append, messagesOf, messagesOf, List.flatMap_append]
    exact List.prefix_append _ _

/-- When the dispatcher has ended, the results of a lane carry its whole sequence, and it holds none
of them. -/
lemma Streamed.sequence_eq (h : Streamed process site d) (hd : d.phase = .ended) (i : Nat) :
    (Report.results (site.reports i)).map Transaction.payload = site.sequence process i ∧
      outgoingAt d.lanes i = [] := by
  cases hl : d.lanes[i]? with
  | none =>
    obtain ⟨hreports, hsequence⟩ := h.nothing (List.getElem?_eq_none_iff.mp hl)
    rw [hreports, hsequence]
    exact ⟨rfl, by simp [outgoingAt, hl]⟩
  | some lane =>
    have mem := List.mem_of_getElem? hl
    have orderly := h.invariant.orderly.lanes lane mem
    obtain ⟨ended, output, carried⟩ :=
      orderly.relay ((h.invariant.orderly.ended hd).1 lane mem)
    obtain ⟨taken, transcript, hhanded⟩ := h.transcript hl
    rw [(orderly.ended ended).1, List.append_nil] at hhanded
    constructor
    · rw [sequence, hhanded, (transcript.complete_of_idle (.inr ended)).2]
    · rw [outgoingAt_of_lane hl, Lane.outgoing, carried, output]
      rfl

/-- What came out of the pool can be completed to an interleaving of all sequences. -/
lemma Streamed.interleaves (h : Streamed process site d)
    (listens : site.dock.around.output.closed = false) :
    ∃ whole, Interleaves (site.sequence process) whole ∧
      site.dock.received.map Transaction.payload <+: whole := by
  obtain ⟨delivered, interleaves, hresults⟩ := h.shuffled listens
  have grows : ∀ i, (delivered i).map Transaction.payload <+: site.sequence process i := by
    intro i
    refine List.IsPrefix.trans ?_ (h.sequence_grows i)
    rw [hresults]
    exact (List.prefix_append _ _).map _
  obtain ⟨whole, interleaved, grown⟩ := (interleaves.map Transaction.payload).extend grows
    d.lanes.length fun i hi => (h.nothing hi).2
  exact ⟨whole, interleaved, ((List.prefix_append _ _).map _).trans grown⟩

/-- When the dispatcher has ended, the consumer has received all results. -/
lemma Streamed.shuffled_of_ended (h : Streamed process site d) (hd : d.phase = .ended)
    (listens : site.dock.around.output.closed = false) :
    Interleaves (fun i => Report.results (site.reports i)) site.dock.received := by
  obtain ⟨delivered, interleaves, hresults⟩ := h.shuffled listens
  have empty : site.dock.around.output.queue = [] := by
    have goods := h.invariant.goods_eq_zero hd
    refine List.eq_nil_iff_forall_not_mem.mpr fun t ht => ?_
    have mem : t.reply ∈ (site.books d).goods :=
      Multiset.mem_add.mpr (.inl (mem_replies.mpr ⟨t, ht, rfl⟩))
    exact Multiset.notMem_zero t.reply (goods ▸ mem)
  rw [empty, List.append_nil] at interleaves
  refine interleaves.congr fun i => ?_
  rw [hresults, (h.sequence_eq hd i).2, List.append_nil]

/-! ### The results of one transaction -/

/-- What was handed out was handed to the lanes. -/
lemma handed_interleave (site : Site σ) : Interleaves site.handed site.dispatched :=
  ⟨site.handovers, (dispatched_eq site).symm, fun i => (handed_eq site i).symm⟩

/-- The results that workers made, each with its lane. -/
def emissions (site : Site σ) : List (Nat × Transaction) :=
  site.journal.filterMap fun
    | .handed _ _      => none
    | .worked i report => report.result?.map (i, ·)

/-- The results of a site are those of its lanes. -/
lemma results_interleave (site : Site σ) :
    Interleaves (fun i => Report.results (site.reports i)) site.results := by
  refine ⟨site.emissions, ?_, fun i => ?_⟩
  · rw [results, emissions, List.map_filterMap]
    refine List.filterMap_congr fun entry _ => ?_
    cases entry with
    | handed => rfl
    | worked i report => simp [Option.map_map, Function.comp_def]
  · change _ = Report.results (site.reports i)
    rw [Report.results, reports, emissions, List.filter_filterMap, List.map_filterMap,
      List.filterMap_filterMap]
    refine List.filterMap_congr fun entry _ => ?_
    cases entry with
    | handed => rfl
    | worked j report =>
      by_cases hj : j = i <;> cases hr : report.result? <;> simp [hj, hr, Option.filter]

lemma Streamed.nodup_results (h : Streamed process site d) :
    (site.results.map Transaction.reply).Nodup :=
  h.invariant.balanced.nodup_emitted

/-- Only the lane that got a transaction reports about it. -/
lemma Streamed.resultsOf_eq (h : Streamed process site d) {i : Nat} {t : Transaction}
    (ht : t ∈ site.handed i) :
    site.resultsOf t.reply =
      Report.results ((site.reports i).filter (·.origin = t.reply)) := by
  rw [resultsOf, story_eq]
  intro j hj report hreport horigin
  obtain ⟨t', ht', horigin'⟩ := h.invariant.origin_handed hreport
  exact hj (h.invariant.lane_unique ht' ht (horigin'.symm.trans horigin))

/-- No result is received twice. -/
lemma Streamed.nodup_received (h : Streamed process site d)
    (listens : site.dock.around.output.closed = false) :
    (site.dock.received.map Transaction.reply).Nodup := by
  have le : (site.dock.received : Multiset Transaction) ≤ site.results := by
    rw [h.merged.flow listens, ← Multiset.coe_add, add_assoc]
    exact Multiset.le_add_right _ _
  exact Multiset.nodup_of_le (Multiset.map_le_map le) h.nodup_results

/-- The results of a transaction are found among those of its lane. -/
lemma Streamed.filter_results (h : Streamed process site d) {i : Nat} {t : Transaction}
    (ht : t ∈ site.handed i) :
    (Report.results (site.reports i)).filter (· ∈ site.resultsOf t.reply) =
      site.resultsOf t.reply := by
  refine filter_mem_of_sublist ?_ (h.nodup_results.of_map.sublist (site.results_interleave.sublist i))
  rw [h.resultsOf_eq ht]
  exact List.filter_sublist.filterMap _

/-- What came out for a transaction came from its lane. -/
lemma Streamed.filter_out (h : Streamed process site d) {i : Nat} {t : Transaction}
    (ht : t ∈ site.handed i) {delivered : ℕ → List Transaction} {out : List Transaction}
    (interleaves : Interleaves delivered out)
    (grows : ∀ j, delivered j <+: Report.results (site.reports j)) :
    out.filter (· ∈ site.resultsOf t.reply) =
      (delivered i).filter (· ∈ site.resultsOf t.reply) := by
  refine interleaves.filter _ fun j hj result hresult => ?_
  rw [decide_eq_false_iff_not]
  intro mem
  rw [← h.filter_results ht] at mem
  have here := (List.mem_filter.mp mem).1
  have there := (grows j).subset hresult
  exact site.results_interleave.disjoint h.nodup_results.of_map hj there here

/-- The results of a transaction carry its first messages, and all of them in the end. -/
lemma Streamed.messages_of_results (h : Streamed process site d) {i : Nat} {t : Transaction}
    {run : ChainRun σ} (ht : t ∈ site.handed i)
    (hrun : (t, run) ∈ interpret process (site.stages i) (site.handed i)) :
    (site.resultsOf t.reply).map Transaction.payload <+: run.outcome.messages ∧
      (d.phase = .ended →
        (site.resultsOf t.reply).map Transaction.payload = run.outcome.messages) := by
  cases hl : d.lanes[i]? with
  | none =>
    rw [(h.invariant.transcribed.none i (List.getElem?_eq_none_iff.mp hl)).2] at ht
    cases ht
  | some lane =>
    obtain ⟨taken, transcript, hhanded⟩ := h.transcript hl
    have distinct := h.invariant.nodup_dispatched.sublist
      ((site.handed_sublist i).map Transaction.reply)
    rw [h.resultsOf_eq ht]
    rw [hhanded] at distinct hrun
    refine ⟨transcript.results_grow distinct hrun, fun hd => ?_⟩
    have mem := List.mem_of_getElem? hl
    have orderly := h.invariant.orderly.lanes lane mem
    have ended := (orderly.relay ((h.invariant.orderly.ended hd).1 lane mem)).1
    rw [(orderly.ended ended).1, List.append_nil] at distinct hrun
    refine transcript.results_eq distinct hrun ?_
    simp [Processor.work, ended]

/-! ### The result -/

/-- While the consumer listens, the payloads that it received are the beginning of an interleaving of
the sequences of all lanes, and no result is received twice. Those of the results of one transaction
that it received are the first ones that were made for it, in their order, and carry its first
messages. When the pool is done, all of this is complete. -/
theorem merged_in_order (opening : start.GenuineOpening) {events : List Event}
    (hr : start.run process events = some site)
    (listens : site.dock.around.output.closed = false) :
    (∃ whole, Interleaves (site.sequence process) whole ∧
      site.dock.received.map Transaction.payload <+: whole) ∧
    (site.dock.received.map Transaction.reply).Nodup ∧
    (∀ i t run, (t, run) ∈ interpret process (site.stages i) (site.handed i) →
      site.dock.received.filter (· ∈ site.resultsOf t.reply) <+: site.resultsOf t.reply ∧
      (site.resultsOf t.reply).map Transaction.payload <+: run.outcome.messages) ∧
    (site.pool.done = true →
      Interleaves (site.sequence process) (site.dock.received.map Transaction.payload) ∧
      ∀ i t run, (t, run) ∈ interpret process (site.stages i) (site.handed i) →
        (site.dock.received.filter (· ∈ site.resultsOf t.reply)).map Transaction.payload =
          run.outcome.messages) := by
  obtain ⟨d, streamed⟩ := opening.streamed hr
  have handed : ∀ i t run, (t, run) ∈ interpret process (site.stages i) (site.handed i) →
      t ∈ site.handed i := fun i t run hrun => by
    rw [← map_fst_interpret process (site.stages i) (site.handed i)]
    exact List.mem_map_of_mem hrun
  refine ⟨streamed.interleaves listens, ?_, fun i t run hrun => ?_, fun hdone => ?_⟩
  · exact streamed.nodup_received listens
  · have ht := handed i t run hrun
    obtain ⟨delivered, interleaves, hresults⟩ := streamed.shuffled listens
    have grows : ∀ j, delivered j <+: Report.results (site.reports j) := fun j =>
      hresults j ▸ List.prefix_append _ _
    refine ⟨?_, (streamed.messages_of_results ht hrun).1⟩
    have out := streamed.filter_out ht interleaves grows
    have part := (grows i).filter (· ∈ site.resultsOf t.reply)
    rw [← out, streamed.filter_results ht] at part
    exact ((List.prefix_append _ _).filter _).trans part
  · have hd := streamed.invariant.orderly.done.mp hdone
    have all := streamed.shuffled_of_ended hd listens
    refine ⟨(all.map Transaction.payload).congr fun i => (streamed.sequence_eq hd i).1.symm,
      fun i t run hrun => ?_⟩
    have ht := handed i t run hrun
    rw [streamed.filter_out ht all fun _ => List.prefix_rfl, streamed.filter_results ht]
    exact (streamed.messages_of_results ht hrun).2 hd

/-- Two transactions go through the small pool at the same time, each in a lane of its own, and are sent
on twice each. The relays take turns. -/
def braided : List Event :=
  [.user (.send .empty), .user (.send ⟨[default]⟩), .close, .move .dispatcher, .move .dispatcher,
    .move .dispatcher, .move .dispatcher, .move .dispatcher, .move .dispatcher, .move .dispatcher,
    .move .dispatcher, .move .dispatcher, .move (.inLane 1 .worker), .move (.inLane 1 .worker),
    .move (.inLane 1 .worker), .move (.inLane 1 .worker), .move (.relay 1), .move (.relay 1),
    .user .receive, .move (.inLane 0 .worker), .move (.inLane 0 .worker),
    .move (.inLane 0 .worker), .move (.inLane 0 .worker), .move (.relay 0), .move (.relay 0),
    .user .receive, .move (.inLane 1 .worker), .move (.relay 1), .move (.relay 1), .user .receive,
    .move (.inLane 0 .worker), .move (.relay 0), .move (.relay 0), .user .receive,
    .move (.inLane 1 .worker), .move (.inLane 1 .worker), .move (.inLane 1 .worker),
    .move (.inLane 0 .worker), .move (.inLane 0 .worker), .move (.inLane 0 .worker),
    .user (.answer ⟨⟨[default]⟩, 2⟩ .ack), .user (.answer ⟨⟨[default]⟩, 4⟩ .ack),
    .user (.answer ⟨.empty, 3⟩ .ack), .user (.answer ⟨.empty, 5⟩ .ack),
    .move (.inLane 1 .worker), .move (.inLane 1 .worker), .move (.inLane 1 .worker),
    .move (.inLane 1 .worker), .move (.relay 1), .move (.inLane 0 .worker),
    .move (.inLane 0 .worker), .move (.inLane 0 .worker), .move (.inLane 0 .worker),
    .move (.relay 0), .move .dispatcher]

lemma genuine_smallPool : smallPool.Genuine :=
  have created : Pool.create smallPool.construct 2 1 1 false {} =
    (.ok { smallPool with size := 2 }, {}) := rfl
  ⟨(Pool.genuine_of_create created).lanes, Pool.vain_of_fresh rfl⟩

lemma genuineOpening_small : small.GenuineOpening where
  bound := ⟨smallPool, ready_smallPool, genuine_smallPool, rfl⟩
  dock := opening_small.dock
  journal := rfl

theorem merged_in_order_braided :
    ∃ site, small.run fickle braided = some site ∧
      site.dock.around.output.closed = false ∧ site.pool.done = true ∧
      site.dock.received.map Transaction.payload =
        [⟨[default]⟩, .empty, ⟨[default]⟩, .empty] ∧
      Interleaves (site.sequence fickle) [⟨[default]⟩, .empty, ⟨[default]⟩, .empty] := by
  obtain ⟨site, hr, hsite⟩ := Option.map_eq_some_iff.mp
    (show (small.run fickle braided).map (fun site =>
        (site.dock.around.output.closed, site.pool.done,
          site.dock.received.map Transaction.payload)) =
      some (false, true, [⟨[default]⟩, .empty, ⟨[default]⟩, .empty]) by decide +kernel)
  obtain ⟨listens, hsite⟩ := Prod.mk.inj hsite
  obtain ⟨hdone, received⟩ := Prod.mk.inj hsite
  obtain ⟨-, -, -, complete⟩ := merged_in_order genuineOpening_small hr listens
  have interleaves := (complete hdone).1
  rw [received] at interleaves
  exact ⟨site, hr, listens, hdone, received, interleaves⟩

end Conveyor.Site
