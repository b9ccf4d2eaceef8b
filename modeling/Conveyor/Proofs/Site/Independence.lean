import Conveyor.Proofs.Site.Answers
import Conveyor.Proofs.Site.Merging
import Conveyor.Proofs.Site.Ownership

/-!
# What does not depend on the schedule

The stages of a chain without memory treat every transaction as if it were the first one, in whatever
lane. If the consumer answers every result by what it says, the answer to a transaction is determined
by its message alone (`Site.Completed.answer`), and so is what leaves the pool, up to its order
(`Site.Completed.received_perm`). Two complete runs on the same input agree in both, however different
the lanes, the buffers and the schedules are (`Site.schedule_independence`).
-/

namespace Conveyor

variable {σ : Type} {process : Behaviour σ} {chain : List σ}

/-! ### Stages without memory -/

/-- A stage that is the same after every message. -/
def Memoryless (process : Behaviour σ) (stage : σ) : Prop :=
  ∀ message, (process stage message).2 = stage

lemma Memoryless.advance {stage : σ} (h : Memoryless process stage) (messages : List Message) :
    advance process stage messages = stage := by
  induction messages with
  | nil => rfl
  | cons message later ih => rwa [Conveyor.advance, List.foldl_cons, h message]

/-- A chain of stages without memory is the same after every run. -/
lemma ChainRun.chain_of_memoryless (memoryless : ∀ stage ∈ chain, Memoryless process stage)
    (messages : List Message) (rejection : Option Failure) :
    (ofMessages process chain messages rejection).chain = chain := by
  induction chain generalizing messages rejection with
  | nil => rfl
  | cons stage chain ih =>
    obtain ⟨first, later⟩ := List.forall_mem_cons.mp memoryless
    have same : (StagePass.run process stage messages).stage = stage := by
      rw [StagePass.stage_eq, first.advance]
    rw [ofMessages]
    cases hp : (StagePass.run process stage messages).panic with
    | some text => simp [same]
    | none =>
      by_cases empty : (StagePass.run process stage messages).messages.isEmpty
      · simp [empty, same]
      · simp [empty, same, ih later]

/-! ### Lanes without memory -/

/-- A processor as it was made, with this chain. -/
def Processor.NewWith (chain : List σ) (p : Processor σ) : Prop := p.New ∧ p.chain = chain

lemma Lane.lasting_chain (memoryless : ∀ stage ∈ chain, Memoryless process stage) :
    Lasting process (Processor.NewWith chain) fun lane => lane.pipeline.chain = chain where
  start := fun laneBuffer index p hp => hp.2
  giveUp := fun lane h => (Processor.chain_close _).trans h
  push := fun lane t h => h
  carry := fun lane s lane' s' h c => by
    obtain ⟨-, pipeline, -⟩ := c.frame
    exact (congrArg Processor.chain pipeline).trans h
  work := fun lane s reports p inner h m => by
    have same := fun t : Transaction =>
      ChainRun.chain_of_memoryless memoryless [t.payload] none
    cases m with
    | finish => rw [h]; exact same _
    | fan => rw [h]; exact same _
    | _ => exact h

/-! ### Opinions -/

/-- The answer of a consumer who accepts the results that it likes, and refuses all others with the
same failure. -/
def opinion (likes : Message → Bool) (failure : Failure) (message : Message) : Response :=
  if likes message then .ack else .error failure

variable {likes : Message → Bool} {failure : Failure}

/-- The answer to a message that these stages are run on, if the consumer has these opinions. -/
def due (process : Behaviour σ) (chain : List σ) (likes : Message → Bool) (failure : Failure)
    (message : Message) : Response :=
  let outcome := (runChain process chain message).outcome
  if outcome.messages = [] then .ofFailure? outcome.rejection
  else if outcome.messages.all likes then .ack else .error failure

/-- An answer to results on which the consumer gave its opinion. -/
lemma Reduction.response_eq {before : List (Nat × Ending)}
    {results : List Transaction} {response : Response} (h : Reduction before results response)
    (opinions : ∀ result ∈ results, ∀ e, (result.reply, e) ∈ before →
      e = .answered (opinion likes failure result.payload)) :
    response = if (results.map Transaction.payload).all likes then .ack else .error failure := by
  have liked : (∀ result ∈ results, (result.reply, .answered .ack) ∈ before) ↔
      (results.map Transaction.payload).all likes = true := by
    simp only [List.all_map, List.all_eq_true, Function.comp_apply]
    refine forall₂_congr fun result hresult => ?_
    obtain ⟨e, he⟩ := h.resolved result hresult
    obtain rfl := opinions result hresult e he
    constructor
    · intro acked
      have same := opinions result hresult _ acked
      by_contra disliked
      simp [opinion, disliked] at same
    · intro likes
      simpa [opinion, likes] using he
  split
  next all => exact h.ack.mpr (liked.mpr all)
  next some =>
    cases response with
    | ack => exact absurd (liked.mp (h.ack.mp rfl)) some
    | error reason =>
      obtain ⟨result, hresult, given | ⟨-, abandoned⟩⟩ := h.error reason rfl
      · have same := opinions result hresult _ given
        unfold opinion at same
        split at same
        next => cases same
        next => simpa using same
      · cases opinions result hresult _ abandoned

/-- Sorting the members of a list by their keys. -/
lemma perm_flatMap_filter {α : Type} {f : α → Nat} {keys : List Nat} (distinct : keys.Nodup)
    {l : List α} (h : ∀ x ∈ l, f x ∈ keys) :
    l.Perm (keys.flatMap fun key => l.filter (f · = key)) := by
  induction keys generalizing l with
  | nil => simp [List.eq_nil_iff_forall_not_mem.mpr fun x hx => List.not_mem_nil (h x hx)]
  | cons key keys ih =>
    obtain ⟨absent, distinct⟩ := List.nodup_cons.mp distinct
    have rest := ih distinct (l := l.filter (f · ≠ key)) fun x hx => by
      obtain ⟨hx, hne⟩ := List.mem_filter.mp hx
      exact (List.mem_cons.mp (h x hx)).resolve_left (by simpa using hne)
    have same : (keys.flatMap fun other => (l.filter (f · ≠ key)).filter (f · = other)) =
        keys.flatMap fun other => l.filter (f · = other) := by
      refine List.flatMap_congr fun other hother => ?_
      rw [List.filter_filter]
      refine List.filter_congr fun x _ => ?_
      have hne : other ≠ key := fun heq => absent (heq ▸ hother)
      by_cases hx : f x = other <;> simp [hx, hne]
    rw [same] at rest
    have both := (List.filter_append_perm (fun x => decide (f x = key)) l).symm
    rw [List.flatMap_cons]
    refine both.trans (List.Perm.append_left _ ?_)
    simpa using rest

namespace Site

variable {site site' start : Site σ} {d d' : Dispatcher (Processor σ)}

/-- All that was run at a site was run by this chain. -/
structure Steady (chain : List σ) (site : Site σ) (d : Dispatcher (Processor σ)) : Prop where
  hosts : site.Hosts (Processor.NewWith chain) (fun lane => lane.pipeline.chain = chain) d
  ran : ∀ i t chain', .worked i (.ran t chain') ∈ site.journal → chain' = chain

lemma Steady.act (h : site.Steady chain d) (memoryless : ∀ stage ∈ chain, Memoryless process stage)
    {e : Event} (owned : e.closesLane = false) (act : Act process site d e site' d') :
    site'.Steady chain d' := by
  refine ⟨h.hosts.act (Lane.lasting_chain memoryless) owned act, ?_⟩
  cases act with
  | dispatch turn =>
    intro i t chain' hran
    refine h.ran i t chain' ((List.mem_append.mp hran).resolve_right fun hnew => ?_)
    simp at hnew
  | @work i lane reports p inner hl m =>
    intro j t chain' hran
    refine (List.mem_append.mp hran).elim (h.ran j t chain') fun hnew => ?_
    have here : lane.pipeline.chain = chain := h.hosts.lanes lane (List.mem_of_getElem? hl)
    simp only [List.mem_map, Entry.worked.injEq] at hnew
    obtain ⟨report, hreport, -, rfl⟩ := hnew
    cases m <;> simp_all
  | user | relay | ask | stop => exact h.ran
  | closeLane => cases owned

/-- What holds of a site with a chain without memory, whose lanes belong to the pool alone. -/
structure Regular (process : Behaviour σ) (chain : List σ) (site : Site σ)
    (d : Dispatcher (Processor σ)) : Prop where
  invariant : Invariant process site d
  owned : site.Owned (Processor.NewWith chain) d
  steady : site.Steady chain d
  merged : site.Merged d

lemma Regular.act (h : Regular process chain site d)
    (memoryless : ∀ stage ∈ chain, Memoryless process stage) {e : Event}
    (owned : e.closesLane = false) (act : Act process site d e site' d') :
    Regular process chain site' d' := by
  have m : Move process site d site' d' := .of_act h.invariant.orderly.made act
  exact ⟨h.invariant.move m, h.owned.act (fun _ hp => hp.1) h.invariant.orderly owned act,
    h.steady.act memoryless owned act, h.merged.move h.invariant.orderly m⟩

lemma OpeningWith.regular (h : start.OpeningWith (Processor.NewWith chain))
    (memoryless : ∀ stage ∈ chain, Memoryless process stage) {events : List Event}
    (owned : ∀ e ∈ events, e.closesLane = false) (hr : start.run process events = some site) :
    ∃ d, Regular process chain site d := by
  have new : ∀ p, Processor.NewWith chain p → p.New := fun _ hp => hp.1
  have opening := h.opening new
  refine runFrom_induction_mem (P := fun site => ∃ d, Regular process chain site d) ?_ ?_ hr
  · rintro site site' e hmem ⟨d, regular⟩ he
    obtain ⟨hstate, -, strays, -⟩ := regular.invariant.orderly
    obtain ⟨d', act, -⟩ := Act.of_step hstate strays he
    exact ⟨d', regular.act memoryless (owned e hmem) act⟩
  · obtain ⟨d, invariant⟩ : ∃ d, Invariant process start d := opening.start
    have hstate := invariant.orderly.state
    have hosts := h.hosts (R := fun lane => lane.pipeline.chain = chain)
      (Lane.lasting_chain memoryless).start hstate
    have steady : start.Steady chain d := ⟨hosts.1, by simp [h.journal]⟩
    exact ⟨d, invariant, h.owned new invariant, steady, opening.merged hstate⟩

/-! ### Complete runs -/

/-- A run of a pool whose lanes have this chain is complete: all transactions have been answered, and
the consumer, who is still there, has answered every result that it received with its opinion. -/
structure Completed (process : Behaviour σ) (chain : List σ) (likes : Message → Bool)
    (failure : Failure) (site : Site σ) : Prop where
  reached : ∃ start events, OpeningWith (Processor.NewWith chain) start ∧
    (∀ e ∈ events, e.closesLane = false) ∧ start.run process events = some site
  answered : ∀ t ∈ site.dock.accepted, site.dock.around.ledger.responses t.reply ≠ []
  served : ∀ result ∈ site.dock.received,
    opinion likes failure result.payload ∈ site.dock.around.ledger.responses result.reply
  listens : site.dock.around.output.closed = false

/-- All reports of workers, the oldest first. -/
def log (site : Site σ) : List (Report σ) :=
  site.journal.filterMap fun
    | .handed _ _      => none
    | .worked _ report => some report

lemma results_eq (site : Site σ) : site.results = Report.results site.log := by
  rw [results, log, Report.results, List.filterMap_filterMap]
  refine List.filterMap_congr fun entry _ => ?_
  cases entry <;> rfl

lemma story_eq_filter (site : Site σ) (id : Nat) :
    site.story id = site.log.filter (·.origin = id) := by
  rw [story, log, List.filter_filterMap]
  refine List.filterMap_congr fun entry _ => ?_
  cases entry with
  | handed => rfl
  | worked i report => by_cases hid : report.origin = id <;> simp [hid, Option.filter]


/-! ### The end of a run -/

/-- When all transactions have been answered, every one was handed to a lane. -/
lemma Regular.dispatched (h : Regular process chain site d)
    (answered : ∀ t ∈ site.dock.accepted, site.dock.around.ledger.responses t.reply ≠ []) :
    site.dispatched = site.dock.accepted := by
  have queued := h.owned.queued
  have nothing : d.slot.waiting ++ site.dock.around.input.queue = [] := by
    refine List.eq_nil_iff_forall_not_mem.mpr fun t ht => ?_
    have mem : t ∈ site.dock.accepted := queued ▸ List.mem_append_right _ ht
    obtain ⟨response, hresponse⟩ := List.exists_mem_of_ne_nil _ (answered t mem)
    have ended := Ledger.mem_ended.mpr ⟨_, Ledger.mem_responses.mp hresponse⟩
    refine h.invariant.balanced.notMem_work ended ?_
    have waits : t.reply ∈ replies (d.slot.waiting ++ site.dock.around.input.queue) :=
      mem_replies.mpr ⟨t, ht, rfl⟩
    simp only [replies_append, Multiset.mem_add] at waits
    simp only [books, Dock.books, Multiset.mem_add]
    tauto
  rw [queued, nothing, List.append_nil]

/-- Every transaction got one treatment, with the stages as they were in the beginning. -/
lemma Regular.treatment (h : Regular process chain site d)
    (answered : ∀ t ∈ site.dock.accepted, site.dock.around.ledger.responses t.reply ≠ [])
    {t : Transaction} (ht : t ∈ site.dock.accepted) :
    ∃ x : Treatment σ, x.transaction = t ∧ x.chain = chain ∧
      site.dock.around.ledger.responses t.reply = [x.response] ∧
      x.Sound process site.dock.around.ledger.settled ∧ site.story t.reply = x.reports := by
  obtain ⟨-, response, hresponse⟩ | ⟨-, none⟩ := h.invariant.place_answered ht
  · have given := Ledger.mem_responses.mp (hresponse ▸ List.mem_singleton_self response)
    obtain ⟨x, rfl, rfl, sound, hstory⟩ :=
      h.invariant.treatment (h.dispatched answered ▸ ht) given
    refine ⟨x, rfl, ?_, hresponse, sound, hstory⟩
    have ran : .ran x.transaction x.chain ∈ site.story x.transaction.reply := by
      simp [hstory, Treatment.reports]
    obtain ⟨entry, hentry, hreport⟩ := List.mem_filterMap.mp ran
    cases entry with
    | handed => cases hreport
    | worked i report =>
      obtain ⟨-, hreport⟩ := Option.ite_none_right_eq_some.mp hreport
      obtain rfl := Option.some.inj hreport
      exact h.steady.ran i _ _ hentry
  · exact absurd none (answered t ht)

/-- Every report is about a transaction that was accepted. -/
lemma Regular.origin_accepted (h : Regular process chain site d)
    {report : Report σ} (hreport : report ∈ site.log) :
    ∃ t ∈ site.dock.accepted, t.reply = report.origin := by
  obtain ⟨entry, hentry, hreport⟩ := List.mem_filterMap.mp hreport
  cases entry with
  | handed => cases hreport
  | worked i worked =>
    obtain rfl := Option.some.inj hreport
    have mem : worked ∈ site.reports i := List.mem_filterMap.mpr ⟨_, hentry, by simp⟩
    obtain ⟨t, ht, horigin⟩ := h.invariant.origin_handed mem
    refine ⟨t, ?_, horigin.symm⟩
    rw [h.owned.queued]
    exact List.mem_append_left _ ((site.handed_sublist i).subset ht)

/-- The results, sorted by the transactions that they belong to. -/
lemma Regular.results_perm (h : Regular process chain site d) :
    site.results.Perm
      (site.dock.accepted.flatMap fun t => Report.results (site.story t.reply)) := by
  have distinct : (site.dock.accepted.map Transaction.reply).Nodup :=
    h.invariant.balanced.nodup_accepted
  have sorted := perm_flatMap_filter (f := Report.origin) distinct fun report hreport =>
    List.mem_map.mpr (h.origin_accepted hreport)
  have perm := sorted.filterMap Report.result?
  rw [results_eq]
  refine perm.trans ?_
  simp only [story_eq_filter, List.flatMap_map, List.filterMap_flatMap]
  rfl

/-- When all transactions have been answered, no result is on its way any more. -/
lemma Regular.goods_eq_zero (h : Regular process chain site d)
    (answered : ∀ t ∈ site.dock.accepted, site.dock.around.ledger.responses t.reply ≠ []) :
    (site.books d).goods = 0 := by
  have balanced := h.invariant.balanced
  refine Multiset.eq_zero_of_forall_notMem fun id hid => ?_
  obtain ⟨result, hresult, rfl⟩ := mem_replies.mp (balanced.goods_emitted hid)
  obtain ⟨t, ht, own⟩ := List.mem_flatMap.mp (h.results_perm.subset hresult)
  obtain ⟨x, rfl, -, -, sound, hstory⟩ := h.treatment answered ht
  rw [hstory, Treatment.results_reports] at own
  obtain ⟨before, hbefore, reduction⟩ :=
    sound.reduction fun _ _ _ he he' => balanced.ending_unique he he'
  have left : (x.run process).outcome.messages ≠ [] :=
    sound.payloads ▸ List.ne_nil_of_mem (List.mem_map_of_mem own)
  obtain ⟨e, he⟩ := (reduction left).resolved result own
  have earlier := (List.prefix_append before _).trans hbefore
  exact balanced.notMem_goods (Ledger.mem_ended.mpr ⟨e, earlier.subset he⟩) hid

lemma Completed.regular (h : Completed process chain likes failure site)
    (memoryless : ∀ stage ∈ chain, Memoryless process stage) :
    ∃ d, Regular process chain site d ∧ site.dock.received.Perm site.results := by
  obtain ⟨start, events, opening, owned, hr⟩ := h.reached
  obtain ⟨d, regular⟩ := opening.regular memoryless owned hr
  exact ⟨d, regular, regular.merged.received_perm h.listens (regular.goods_eq_zero h.answered)⟩

/-- What leaves the pool in a complete run is, up to the order, what the stages make of the messages
that were accepted. -/
theorem Completed.received_perm (h : Completed process chain likes failure site)
    (memoryless : ∀ stage ∈ chain, Memoryless process stage) :
    (site.dock.received.map Transaction.payload).Perm
      ((site.dock.accepted.map Transaction.payload).flatMap fun message =>
        (runChain process chain message).outcome.messages) := by
  obtain ⟨d, regular, perm⟩ := h.regular memoryless
  refine ((perm.trans regular.results_perm).map Transaction.payload).trans ?_
  rw [List.map_flatMap, List.flatMap_map]
  refine List.Perm.of_eq (List.flatMap_congr fun t ht => ?_)
  obtain ⟨x, rfl, rfl, -, sound, hstory⟩ := regular.treatment h.answered ht
  rw [hstory, Treatment.results_reports]
  exact sound.payloads

/-- The answer to a transaction in a complete run is the one that is due to its message. -/
theorem Completed.answer (h : Completed process chain likes failure site)
    (memoryless : ∀ stage ∈ chain, Memoryless process stage) {t : Transaction}
    (ht : t ∈ site.dock.accepted) :
    site.dock.around.ledger.responses t.reply = [due process chain likes failure t.payload] := by
  obtain ⟨d, regular, perm⟩ := h.regular memoryless
  obtain ⟨x, rfl, rfl, hresponse, sound, hstory⟩ := regular.treatment h.answered ht
  have balanced := regular.invariant.balanced
  obtain ⟨before, hbefore, reduction⟩ :=
    sound.reduction fun _ _ _ he he' => balanced.ending_unique he he'
  rw [hresponse, due]
  split
  next empty =>
    rw [sound.direct (List.map_eq_nil_iff.mp (sound.payloads.trans empty))]
    rfl
  next left =>
    have messages : (runChain process x.chain x.transaction.payload).outcome.messages =
        x.results.map Transaction.payload := sound.payloads.symm
    rw [messages, ← (reduction left).response_eq fun result hresult e he => ?_]
    -- its results were received, and the consumer gave its opinion on them
    have emitted : .emitted x.transaction.reply result ∈ site.story x.transaction.reply := by
      simp [hstory, Treatment.reports, hresult]
    have given := h.served result (perm.symm.subset (mem_results emitted))
    have earlier := (List.prefix_append before _).trans hbefore
    exact balanced.ending_unique (earlier.subset he) (Ledger.mem_responses.mp given)

/-- Two complete runs of pools whose lanes have the same chain without memory, on the same messages
and with the same opinions of the consumer: what leaves the pools is the same up to the order, and
every transaction is answered in the same way. -/
theorem schedule_independence (memoryless : ∀ stage ∈ chain, Memoryless process stage)
    (h : Completed process chain likes failure site)
    (h' : Completed process chain likes failure site')
    (same : site.dock.accepted.map Transaction.payload =
      site'.dock.accepted.map Transaction.payload) :
    (site.dock.received.map Transaction.payload).Perm
        (site'.dock.received.map Transaction.payload) ∧
      (site.dock.accepted.map fun t => site.dock.around.ledger.responses t.reply) =
        site'.dock.accepted.map fun t => site'.dock.around.ledger.responses t.reply := by
  refine ⟨?_, ?_⟩
  · exact (h.received_perm memoryless).trans (same ▸ (h'.received_perm memoryless).symm)
  · rw [List.map_congr_left fun t ht => h.answer memoryless ht,
      List.map_congr_left fun t ht => h'.answer memoryless ht]
    have answers := congrArg (List.map fun message => [due process chain likes failure message]) same
    simpa only [List.map_map, Function.comp_def] using answers

/-! ### Two runs -/

/-- A stage that passes every message on and keeps nothing. -/
def echo : Behaviour Nat := fun seen message => (.pass [message], seen)

/-- Two messages go through the small pool, one after the other. -/
def inTurn : List Event :=
  [.user (.send .empty), .user (.send ⟨[default]⟩), .move .dispatcher, .move .dispatcher,
    .move .dispatcher, .move (.inLane 0 .worker), .move (.inLane 0 .worker),
    .move (.inLane 0 .worker), .move (.relay 0), .move (.relay 0), .user .receive,
    .user (.answer ⟨.empty, 2⟩ .ack), .move (.inLane 0 .worker), .move (.inLane 0 .worker),
    .move (.inLane 0 .worker), .move .dispatcher, .move .dispatcher, .move .dispatcher,
    .move (.inLane 1 .worker), .move (.inLane 1 .worker), .move (.inLane 1 .worker),
    .move (.relay 1), .move (.relay 1), .user .receive,
    .user (.answer ⟨⟨[default]⟩, 3⟩ (.error .abandoned)), .move (.inLane 1 .worker),
    .move (.inLane 1 .worker), .move (.inLane 1 .worker)]

/-- The same messages go through the pool at once, while it gets a third lane, and the second one
overtakes the first. -/
def atOnce : List Event :=
  [.user (.send .empty), .user (.send ⟨[default]⟩), .setSize 0 3, .move .dispatcher,
    .move .dispatcher, .move .dispatcher, .move .dispatcher, .move .dispatcher, .move .dispatcher,
    .move .dispatcher, .move (.inLane 1 .worker), .move (.inLane 1 .worker),
    .move (.inLane 1 .worker), .move (.inLane 1 .worker), .move (.inLane 1 .worker),
    .move (.relay 1), .move (.relay 1), .move (.inLane 0 .worker), .move (.inLane 0 .worker),
    .move (.inLane 0 .worker), .move (.inLane 0 .worker), .move (.inLane 0 .worker),
    .move (.relay 0), .user .receive, .move (.relay 0), .user .receive,
    .user (.answer ⟨.empty, 3⟩ .ack), .move (.inLane 0 .worker), .move (.inLane 0 .worker),
    .user (.answer ⟨⟨[default]⟩, 2⟩ (.error .abandoned)), .move (.inLane 1 .worker),
    .move (.inLane 1 .worker)]

lemma openingWith_small : small.OpeningWith (Processor.NewWith [0]) where
  bound := by
    refine ⟨smallPool, ⟨⟨_, rfl, by simp, ?_⟩, ?_, rfl⟩, rfl⟩
    · simp only [List.forall_mem_cons, List.not_mem_nil, false_imp_iff, implies_true, and_true]
      exact ⟨⟨⟨rfl, rfl, rfl, rfl, rfl⟩, rfl⟩, ⟨rfl, rfl, rfl, rfl, rfl⟩, rfl⟩
    · rintro attempt index p hp
      cases hp
      exact ⟨⟨rfl, rfl, rfl, rfl, rfl⟩, rfl⟩
  dock := opening_small.dock
  journal := rfl

lemma completed_small (events : List Event) (owned : ∀ e ∈ events, e.closesLane = false)
    (h : (small.run echo events).map (fun site =>
      decide (site.dock.accepted.map Transaction.payload = [.empty, ⟨[default]⟩] ∧
        (∀ t ∈ site.dock.accepted, site.dock.around.ledger.responses t.reply ≠ []) ∧
        (∀ result ∈ site.dock.received, opinion Message.isEmpty .abandoned result.payload ∈
          site.dock.around.ledger.responses result.reply) ∧
        site.dock.around.output.closed = false)) = some true) :
    ∃ site, small.run echo events = some site ∧
      Completed echo [0] Message.isEmpty .abandoned site ∧
      site.dock.accepted.map Transaction.payload = [.empty, ⟨[default]⟩] := by
  obtain ⟨site, hr, hsite⟩ := Option.map_eq_some_iff.mp h
  obtain ⟨accepted, answered, served, listens⟩ := of_decide_eq_true hsite
  exact ⟨site, hr, ⟨⟨small, events, openingWith_small, owned, hr⟩, answered, served, listens⟩,
    accepted⟩

theorem schedule_independence_small :
    ∃ site site', small.run echo inTurn = some site ∧ small.run echo atOnce = some site' ∧
      (site.dock.received.map Transaction.payload).Perm
        (site'.dock.received.map Transaction.payload) ∧
      (site.dock.accepted.map fun t => site.dock.around.ledger.responses t.reply) =
        site'.dock.accepted.map fun t => site'.dock.around.ledger.responses t.reply := by
  obtain ⟨site, hr, completed, accepted⟩ :=
    completed_small inTurn (by decide) (by decide +kernel)
  obtain ⟨site', hr', completed', accepted'⟩ :=
    completed_small atOnce (by decide) (by decide +kernel)
  obtain ⟨received, answers⟩ := schedule_independence (by simp [Memoryless, echo]) completed
    completed' (accepted.trans accepted'.symm)
  exact ⟨site, site', hr, hr', received, answers⟩

end Site

end Conveyor
