import Conveyor.Proofs.Bench.Verdicts
import Conveyor.Proofs.Relay
import Conveyor.Proofs.Tandem.Progress

/-!
# Two calm processors in series are one

In a tandem the answers are summed up twice: the back sums up the verdicts of the consumer for every
result of the front, and the front sums up what the back answers. If no stage ever refuses a message it
makes no difference: neither the consumer nor the producers can tell a tandem from one processor with the
stages of the front followed by those of the back (`Tandem.in_series_is_one`).
-/

namespace Conveyor.Tandem

variable {σ : Type} {process : Behaviour σ} {chain chain' : List σ} {judge : List Message → Bool}
  {failure : Failure} {tandem tandem' start : Tandem σ}

/-! ### The verdicts of the consumer -/

/-- Whether an event agrees with the verdicts of the consumer, and does not shut the back down before the
front has ended. -/
def Event.judges (judge : List Message → Bool) (failure : Failure) (tandem : Tandem σ) : Event → Bool
  | .user e => e.judges judge failure tandem.dock
  | e       => !e.cuts tandem

lemma Event.uncut {e : Event} (h : e.judges judge failure tandem) : e.cuts tandem = false := by
  cases e with
  | user => rfl
  | _ => simpa [Event.judges] using h

lemma Invariant.nodup_received (h : Invariant process chain chain' tandem) :
    (tandem.dock.received.map Transaction.reply).Nodup := by
  have emitted : (replies tandem.passed + replies tandem.results).Nodup :=
    h.balanced.nodup_emitted
  have results : (tandem.results.map Transaction.reply).Nodup := (Multiset.nodup_add.mp emitted).2.1
  have some := (List.prefix_append _ _).trans h.stream
  exact results.sublist (some.sublist.map Transaction.reply)

lemma Invariant.attended (h : Invariant process chain chain' tandem)
    (attended : tandem.dock.Attended judge failure) {e : Event}
    (judges : e.judges judge failure tandem) (he : tandem.step process e = some tandem') :
    tandem'.dock.Attended judge failure := by
  have balanced' : tandem'.books.Balanced := (h.step (Event.uncut judges) he).balanced
  cases e with
  | user e =>
    obtain ⟨dock, hd, rfl⟩ := Option.map_eq_some_iff.mp he
    exact attended.user h.balanced h.nodup_received judges hd
  | front =>
    obtain ⟨⟨p, s⟩, hp, rfl⟩ := Option.map_eq_some_iff.mp he
    have log := (books_of_front h.balanced (.of_step hp)).settled_grows
    exact attended.keep balanced' rfl rfl rfl log
  | back =>
    obtain ⟨⟨p, s⟩, hp, rfl⟩ := Option.map_eq_some_iff.mp he
    have m : Processor.Move process tandem.back tandem.aroundBack _ p s := .of_step hp
    have log := (books_of_back h.balanced m).settled_grows
    exact attended.keep balanced' rfl rfl m.output.2.1 log
  | closeFront | closeBack =>
    cases he
    exact attended

lemma Opening.attended (h : start.Opening) {events : List Event}
    (judges : throughout (step process) (Event.judges judge failure) start events)
    (hr : start.run process events = some tandem) :
    Invariant process start.front.chain start.back.chain tandem ∧
      tandem.dock.Attended judge failure := by
  obtain ⟨capacity, output⟩ := h.output
  have listens : start.dock.around.output.closed = false := by rw [output]; rfl
  refine runFrom_induction_throughout (P := fun tandem : Tandem σ =>
    Invariant process start.front.chain start.back.chain tandem ∧
      tandem.dock.Attended judge failure) ?_ ⟨h.start, h.dock.attended listens⟩ judges hr
  rintro tandem tandem' e - ⟨inv, attended⟩ allowed he
  exact ⟨inv.step (Event.uncut allowed) he, inv.attended attended allowed he⟩

/-! ### The answers -/

lemma Invariant.unique (h : Invariant process chain chain' tandem) :
    ∀ id e e', (id, e) ∈ tandem.dock.around.ledger.settled →
      (id, e') ∈ tandem.dock.around.ledger.settled → e = e' := fun _ _ _ he he' =>
  h.balanced.ending_unique he he'

lemma Invariant.nodup_passed (h : Invariant process chain chain' tandem) :
    (tandem.passed.map Transaction.reply).Nodup := by
  have emitted : (replies tandem.passed + replies tandem.results).Nodup :=
    h.balanced.nodup_emitted
  exact (Multiset.nodup_add.mp emitted).1

/-- What the back has still to answer has not come to an end. -/
lemma Invariant.running_back (h : Invariant process chain chain' tandem) {id : Nat}
    (hid : id ∈ tandem.back.work ∨ id ∈ replies tandem.middle.queue) {e : Ending} :
    (id, e) ∉ tandem.dock.around.ledger.settled := fun he => by
  have ended : id ∈ tandem.books.ledger.ended := Ledger.mem_ended.mpr ⟨e, he⟩
  have charged : id ∈ tandem.back.charge tandem.aroundBack := Multiset.mem_add.mpr hid
  exact h.balanced.notMem_goods ended
    (Multiset.mem_add.mpr (.inr (Multiset.mem_add.mpr (.inr charged))))

/-- What the front has still to answer has not come to an end. -/
lemma Invariant.running_front (h : Invariant process chain chain' tandem) {id : Nat}
    (hid : id ∈ tandem.front.work ∨ id ∈ replies tandem.dock.around.input.queue) {e : Ending} :
    (id, e) ∉ tandem.dock.around.ledger.settled := fun he => by
  have ended : id ∈ tandem.books.ledger.ended := Ledger.mem_ended.mpr ⟨e, he⟩
  exact h.balanced.notMem_work ended (Multiset.mem_add.mpr hid.symm)

/-- For the front the back is a consumer that keeps to verdicts: it hands those of the consumer on. -/
lemma Invariant.relayed (h : Invariant process chain chain' tandem)
    (calm : ∀ stage ∈ chain', Calm process stage) (judged : tandem.dock.Judged judge failure) :
    Judged (relay process judge chain') failure tandem.dock.around.ledger.settled
      tandem.passed := by
  obtain ⟨taken, transcript, htaken⟩ := h.back.transcript
  have verdicts : Judged judge failure tandem.dock.around.ledger.settled tandem.results := by
    rw [← h.whole judged.listens]
    refine judged.judged.extend fun result hresult e he => ?_
    refine h.balanced.notMem_goods (Ledger.mem_ended.mpr ⟨e, he⟩) (Multiset.mem_add.mpr (.inl ?_))
    exact mem_replies.mpr ⟨result, hresult, rfl⟩
  intro k result hresult e he
  have given := transcript.ending_judged h.unique verdicts (htaken.symm ▸ h.nodup_passed)
    (fun id busy e => h.running_back busy) (htaken.trans (split_of_getElem? hresult)) he
  rw [given, ← verdict_relay calm, List.take_add_one, hresult, List.map_append]
  rfl

/-- What the consumer receives and the answers follow from the stages of both processors. -/
lemma Invariant.follows (h : Invariant process chain chain' tandem)
    (calm : ∀ stage ∈ chain, Calm process stage) (calm' : ∀ stage ∈ chain', Calm process stage)
    (judged : tandem.dock.Judged judge failure) :
    tandem.dock.Follows process judge failure (chain ++ chain') := by
  constructor
  · have received : tandem.dock.received.map Transaction.payload <+:
        tandem.results.map Transaction.payload :=
      ((List.prefix_append _ _).trans h.stream).map _
    have results : tandem.results.map Transaction.payload <+:
        (flow process chain' (tandem.passed.map Transaction.payload)).messages := by
      rw [← (interpret_calm calm' _).1]
      exact h.back.messages_grow
    rw [(interpret_append_chain calm calm' _).1]
    exact received.trans (results.trans (flow_grows calm' h.front.messages_grow))
  · intro first t later haccepted response hresponse
    obtain ⟨taken, transcript, htaken⟩ := h.front.transcript
    have distinct : (tandem.dock.accepted.map Transaction.reply).Nodup := h.balanced.nodup_accepted
    have given := transcript.ending_judged h.unique (h.relayed calm' judged) (htaken.symm ▸ distinct)
      (fun id busy e => h.running_front busy) (htaken.trans haccepted)
      (Ledger.mem_responses.mp hresponse)
    rw [dueAfter_relay calm calm'] at given
    exact Ending.answered.inj given

lemma Invariant.finished (h : Invariant process chain chain' tandem) (rests : tandem.Rests process)
    (calm : ∀ stage ∈ chain, Calm process stage) (calm' : ∀ stage ∈ chain', Calm process stage)
    (listens : tandem.dock.around.output.closed = false) :
    tandem.dock.Finished process (chain ++ chain') ∧
      tandem.front.chain ++ tandem.back.chain =
        chainAfter process (chain ++ chain') tandem.dock.accepted := by
  obtain ⟨⟨input, idle⟩, middle, idle'⟩ := h.idle rests
  obtain ⟨passed, stages⟩ := h.front.complete idle input
  obtain ⟨results, stages'⟩ := h.back.complete idle' middle
  obtain ⟨messages, after⟩ := interpret_calm calm' tandem.passed
  have passed : tandem.passed.map Transaction.payload = _ := passed
  rw [messages, passed] at results
  rw [after, passed] at stages'
  obtain ⟨series, left⟩ := interpret_append_chain calm calm' tandem.dock.accepted
  refine ⟨⟨?_, fun t ht => ?_⟩, by rw [left, stages, stages']⟩
  · have whole := h.whole listens
    rw [(rests_iff.mp rests).2.2.1, List.append_nil] at whole
    rw [whole, series]
    exact results
  · refine h.balanced.responses_eq ?_ (mem_replies.mpr ⟨t, ht, rfl⟩)
    rcases idle with hp | hp <;> simp [books, Dock.books, Processor.work, hp, input]

/-! ### The results of one transaction -/

/-- The results of the back that come of a transaction by way of the results of the front. -/
def derived (tandem : Tandem σ) (t : Transaction) : List Transaction :=
  (Report.results (tandem.frontJournal.filter (·.origin = t.reply))).flatMap fun result =>
    Report.results (tandem.backJournal.filter (·.origin = result.reply))

/-- A transaction that was answered was acknowledged if and only if all final results that come of it
were. -/
lemma Invariant.acked_iff (h : Invariant process chain chain' tandem)
    (calm : ∀ stage ∈ chain, Calm process stage) (calm' : ∀ stage ∈ chain', Calm process stage)
    {t : Transaction} (ht : t ∈ tandem.dock.accepted) {response : Response}
    (answered : (t.reply, .answered response) ∈ tandem.dock.around.ledger.settled) :
    response = .ack ↔ ∀ result ∈ tandem.derived t,
      (result.reply, .answered .ack) ∈ tandem.dock.around.ledger.settled := by
  obtain ⟨taken, transcript, htaken⟩ := h.front.transcript
  obtain ⟨taken', transcript', htaken'⟩ := h.back.transcript
  have distinct : ((taken ++ tandem.dock.around.input.queue).map Transaction.reply).Nodup :=
    htaken ▸ h.balanced.nodup_accepted
  have distinct' : ((taken' ++ tandem.middle.queue).map Transaction.reply).Nodup :=
    htaken' ▸ h.nodup_passed
  rw [List.map_append] at distinct distinct'
  -- what came to an end is neither in the hands of a worker nor in front of it
  have took : t ∈ taken := (List.mem_append.mp (htaken ▸ ht)).resolve_right fun waits =>
    h.running_front (.inr (mem_replies.mpr ⟨t, waits, rfl⟩)) answered
  obtain ⟨resolved, acked⟩ := transcript.acked_iff (List.nodup_append.mp distinct).1 h.unique took
    (fun busy => h.running_front (.inl busy) answered) fun run hrun => rejection_calm calm hrun
  have first : response = .ack ↔
      (t.reply, .answered .ack) ∈ tandem.dock.around.ledger.settled :=
    ⟨fun ack => ack ▸ answered, fun ack => Ending.answered.inj (h.unique _ _ _ answered ack)⟩
  have second : ∀ result ∈ Report.results (tandem.frontJournal.filter (·.origin = t.reply)),
      (result.reply, .answered .ack) ∈ tandem.dock.around.ledger.settled ↔
        ∀ final ∈ Report.results (tandem.backJournal.filter (·.origin = result.reply)),
          (final.reply, .answered .ack) ∈ tandem.dock.around.ledger.settled := by
    intro result hresult
    obtain ⟨e, he⟩ := resolved result hresult
    have passed : result ∈ tandem.passed :=
      (List.filter_sublist.filterMap Report.result?).subset hresult
    have took' : result ∈ taken' := (List.mem_append.mp (htaken' ▸ passed)).resolve_right fun waits =>
      h.running_back (.inr (mem_replies.mpr ⟨result, waits, rfl⟩)) he
    exact (transcript'.acked_iff (List.nodup_append.mp distinct').1 h.unique took'
      (fun busy => h.running_back (.inl busy) he) fun run hrun => rejection_calm calm' hrun).2
  refine first.trans (acked.trans ((forall₂_congr second).trans ?_))
  simp only [derived, List.mem_flatMap]
  exact ⟨fun all final ⟨result, hresult, hfinal⟩ => all result hresult final hfinal,
    fun all result hresult final hfinal => all final ⟨result, hresult, hfinal⟩⟩

/-! ### The result -/

/-- Two processors in series and one with the stages of both get the same input, as far as it was
accepted, and no stage ever refuses anything; their consumers stay and keep to the same verdicts, and
the back is not shut down before the front has ended. Then, in whatever order the parties move, the
consumers receive the same payloads, as far as they have received any, and the answers to each
transaction are the same, as far as there are any: a transaction is acknowledged if and only if all
final results that come of it are. Neither side can go on forever without its producers, and when both
have come to rest with the same input they have sent the same payloads on, every transaction has got
the same answer on both sides, and the stages are left in the same states. -/
theorem in_series_is_one {first bench : Bench σ} (opening : start.Opening)
    (opening' : first.Opening)
    (calm : ∀ stage ∈ start.front.chain ++ start.back.chain, Calm process stage)
    (same : first.processor.chain = start.front.chain ++ start.back.chain) {events : List Event}
    {events' : List Bench.Event}
    (judges : throughout (step process) (Event.judges judge failure) start events)
    (judges' : throughout (Bench.step process) (Bench.Event.judges judge failure) first events')
    (hr : start.run process events = some tandem) (hr' : first.run process events' = some bench)
    {inputs : List Message} (begins : tandem.dock.accepted.map Transaction.payload <+: inputs)
    (begins' : bench.dock.accepted.map Transaction.payload <+: inputs) :
    (tandem.dock.received.map Transaction.payload <+: bench.dock.received.map Transaction.payload ∨
      bench.dock.received.map Transaction.payload <+:
        tandem.dock.received.map Transaction.payload) ∧
    (∀ (k : Nat) (t t' : Transaction), tandem.dock.accepted[k]? = some t →
      bench.dock.accepted[k]? = some t' →
      ∀ response ∈ tandem.dock.around.ledger.responses t.reply,
        ∀ response' ∈ bench.dock.around.ledger.responses t'.reply, response = response') ∧
    (∀ t ∈ tandem.dock.accepted, ∀ response ∈ tandem.dock.around.ledger.responses t.reply,
      response = .ack ↔ ∀ result ∈ tandem.derived t,
        (result.reply, .answered .ack) ∈ tandem.dock.around.ledger.settled) ∧
    (Acc (fun later now : Tandem σ => ∃ e : Event, e.drives ∧ now.step process e = some later) tandem ∧
      Acc (fun later now : Bench σ =>
        ∃ e : Bench.Event, e.drives ∧ now.step process e = some later) bench) ∧
    (tandem.Rests process → bench.Rests process →
      tandem.dock.accepted.map Transaction.payload = bench.dock.accepted.map Transaction.payload →
      tandem.dock.received.map Transaction.payload = bench.dock.received.map Transaction.payload ∧
      (tandem.dock.accepted.map fun t => tandem.dock.around.ledger.responses t.reply) =
        (bench.dock.accepted.map fun t => bench.dock.around.ledger.responses t.reply) ∧
      (∀ t ∈ tandem.dock.accepted, ∃ response,
        tandem.dock.around.ledger.responses t.reply = [response]) ∧
      tandem.front.chain ++ tandem.back.chain = bench.processor.chain) := by
  obtain ⟨calmFront, calmBack⟩ := List.forall_mem_append.mp calm
  obtain ⟨inv, ⟨judged, -, -⟩⟩ := opening.attended judges hr
  have inv' : Bench.Invariant process (start.front.chain ++ start.back.chain) bench :=
    same ▸ opening'.invariant hr'
  obtain ⟨judged', -, -⟩ := opening'.attended judges' hr'
  have follows := inv.follows calmFront calmBack judged
  have follows' := inv'.follows judged'
  refine ⟨?_, fun k t t' ht ht' response answered response' answered' => ?_,
    fun t ht response answered => ?_, ⟨?_, ?_⟩, fun rests rests' accepted => ?_⟩
  · exact follows.received_agree follows' begins begins'
  · exact follows.answers_agree follows' begins begins' ht ht' answered answered'
  · exact inv.acked_iff calmFront calmBack ht (Ledger.mem_responses.mp answered)
  · exact (wellFounded_drives process).apply tandem
  · exact (Bench.wellFounded_drives process).apply bench
  · obtain ⟨finished, stages⟩ := inv.finished rests calmFront calmBack judged.listens
    have finished' := inv'.finished rests' judged'.listens
    obtain ⟨input, idle, -⟩ := inv'.idle rests'
    obtain ⟨-, stages'⟩ := inv'.post.complete idle input
    obtain ⟨received, answers⟩ := finished.agree finished' follows follows' accepted
    refine ⟨received, answers, finished.answered, ?_⟩
    rw [stages, stages', (interpret_congr accepted _).2]

/-! ### A small tandem -/

/-- A stage that sends every other message on twice. -/
def alternating : Behaviour Bool := fun doubles message =>
  (.pass (if doubles then [message, message] else [message]), !doubles)

lemma calm_alternating (stage : Bool) : Calm alternating stage := fun _ _ => ⟨_, rfl⟩

/-- Two processors with one such stage each, at an empty dock. -/
def pair : Tandem Bool where
  front := (Processor.consume { chain := [true], metered := false }).2
  middle := .new 1
  back := (Processor.consume { chain := [false], metered := false }).2
  dock :=
    { around := { input := .new 2, fed := true, output := .new 1, ledger := {}, metrics := {} } }

lemma opening_pair : pair.Opening where
  front := ⟨{ chain := [true], metered := false }, rfl, rfl⟩
  back := ⟨{ chain := [false], metered := false }, rfl, rfl, rfl⟩
  dock := by constructor <;> simp [pair, Channel.new]
  middle := ⟨1, rfl⟩
  output := ⟨1, rfl⟩
  journals := ⟨rfl, rfl⟩

/-- One processor with both stages, at the same dock. -/
def joined : Bench Bool where
  processor := (Processor.consume { chain := [true, false], metered := false }).2
  dock := pair.dock

lemma opening_joined : joined.Opening where
  bound := ⟨{ chain := [true, false], metered := false }, rfl, rfl⟩
  dock := opening_pair.dock
  output := ⟨1, rfl⟩
  journal := rfl

/-- Two transactions go through the tandem. The first one comes out three times, and the consumer refuses
the second of these results. In the end the front is shut down. -/
def pairCourse : List Event :=
  [.user (.send ⟨[default]⟩), .user (.send .empty), .front, .front, .front, .back, .front, .front,
    .front, .front, .back, .back, .back, .back, .user .receive,
    .user (.answer ⟨⟨[default]⟩, 4⟩ .ack), .back, .back, .front, .back, .back, .back,
    .user .receive, .back, .back, .back, .back, .user .receive,
    .user (.answer ⟨⟨[default]⟩, 5⟩ (.error (.rejected "enough"))), .back,
    .user (.answer ⟨⟨[default]⟩, 6⟩ .ack), .back, .back, .front, .front, .front, .front, .front,
    .front, .front, .back, .back, .back, .back, .back, .user .receive,
    .user (.answer ⟨.empty, 8⟩ .ack), .back, .back, .front, .front, .closeFront, .front, .front,
    .back]

/-- The same transactions go through the processor with both stages. -/
def joinedCourse : List Bench.Event :=
  [.user (.send ⟨[default]⟩), .user (.send .empty), .work, .work, .work, .user .receive, .work,
    .user .receive, .work, .work, .work, .work, .work, .user .receive,
    .user (.answer ⟨⟨[default]⟩, 2⟩ .ack), .work,
    .user (.answer ⟨⟨[default]⟩, 3⟩ (.error (.rejected "enough"))), .work,
    .user (.answer ⟨⟨[default]⟩, 4⟩ .ack), .work, .work, .work, .work, .work, .work, .work,
    .user .receive, .user (.answer ⟨.empty, 5⟩ .ack), .work, .work]

theorem in_series_is_one_alternating :
    ∃ tandem bench, pair.run alternating pairCourse = some tandem ∧
      joined.run alternating joinedCourse = some bench ∧
      tandem.dock.received.map Transaction.payload =
        [⟨[default]⟩, ⟨[default]⟩, ⟨[default]⟩, .empty] ∧
      tandem.dock.received.map Transaction.payload = bench.dock.received.map Transaction.payload ∧
      (tandem.dock.accepted.map fun t => tandem.dock.around.ledger.responses t.reply) =
        [[.error (.rejected "enough")], [.ack]] ∧
      (tandem.dock.accepted.map fun t => tandem.dock.around.ledger.responses t.reply) =
        (bench.dock.accepted.map fun t => bench.dock.around.ledger.responses t.reply) ∧
      tandem.front.chain ++ tandem.back.chain = bench.processor.chain := by
  -- the consumers refuse their second result only
  let judge : List Message → Bool := fun seen => seen.length != 2
  have dock : (pair.run alternating pairCourse).map (fun tandem =>
        (tandem.dock.accepted, tandem.dock.received.map Transaction.payload,
          tandem.dock.accepted.map fun t => tandem.dock.around.ledger.responses t.reply)) =
      some ([⟨⟨[default]⟩, 0⟩, ⟨.empty, 1⟩], [⟨[default]⟩, ⟨[default]⟩, ⟨[default]⟩, .empty],
        [[.error (.rejected "enough")], [.ack]]) := by decide +kernel
  have ends : (pair.run alternating pairCourse).map (fun tandem =>
      (tandem.front.phase, tandem.back.phase, tandem.dock.around.output.queue, tandem.dock.held)) =
        some (.ended, .ended, [], []) := by decide +kernel
  have dock' : (joined.run alternating joinedCourse).map (fun bench =>
      (bench.dock.accepted, bench.dock.around.output.queue, bench.dock.held)) =
        some ([⟨⟨[default]⟩, 0⟩, ⟨.empty, 1⟩], [], []) := by decide +kernel
  have stuck : (joined.run alternating joinedCourse).map (fun bench =>
      (bench.processor.step alternating bench.dock.around).isNone) = some true := by decide +kernel
  obtain ⟨tandem, hr, htandem⟩ := Option.map_eq_some_iff.mp dock
  obtain ⟨bench, hr', hbench⟩ := Option.map_eq_some_iff.mp dock'
  rw [hr] at ends
  rw [hr'] at stuck
  simp only [Option.map_some, Option.some.injEq, Prod.mk.injEq] at htandem hbench ends stuck
  obtain ⟨accepted, received, responses⟩ := htandem
  obtain ⟨accepted', output', held'⟩ := hbench
  obtain ⟨front, back, output, held⟩ := ends
  have judges : throughout (step alternating) (Event.judges judge (.rejected "enough")) pair
      pairCourse := by decide +kernel
  have judges' : throughout (Bench.step alternating) (Bench.Event.judges judge (.rejected "enough"))
      joined joinedCourse := by decide +kernel
  obtain ⟨-, -, -, -, finished⟩ := in_series_is_one opening_pair opening_joined
    (fun stage _ => calm_alternating stage) rfl judges judges' hr hr' List.prefix_rfl
    (by rw [accepted, accepted'])
  have rests : tandem.Rests alternating :=
    rests_iff.mpr ⟨by simp [Processor.step, front], by simp [Processor.step, back], output, held⟩
  have rests' : bench.Rests alternating :=
    Bench.rests_iff.mpr ⟨Option.isNone_iff_eq_none.mp stuck, output', held'⟩
  obtain ⟨payloads, answers, -, stages⟩ := finished rests rests' (by rw [accepted, accepted'])
  exact ⟨tandem, bench, hr, hr', received, payloads, responses, answers, stages⟩

end Conveyor.Tandem
