import Conveyor.Proofs.Bench.Progress

/-!
# A processor refines the sequential interpreter

Whatever the worker and the users do, and in whichever order, the worker does what the interpreter
does with the accepted transactions, in the order in which they were accepted (`Bench.Refines`), and
when everything has come to rest it has done all of it (`Bench.Complete`).
-/

namespace Conveyor.Bench

variable {σ : Type} {process : Behaviour σ} {chain : List σ} {bench bench' start : Bench σ}

/-- What the worker has done so far agrees with the interpreter. -/
structure Refines (process : Behaviour σ) (chain : List σ) (bench : Bench σ) : Prop where
  /-- The stages are run on one accepted transaction after the other, each time as they were left by
  the run before. -/
  runs : Report.runs process bench.journal <+: interpret process chain bench.dock.accepted
  /-- A run leaves every stage as the calls of it left it, and if one of them panics nothing else
  remains of the run. -/
  calls : ∀ t stages, .ran t stages ∈ bench.journal →
    (runChain process stages t.payload).chain =
        List.zipWith (advance process) stages (ChainRun.seen process stages [t.payload]) ∧
      ((∃ verdict ∈ ChainRun.calls process stages [t.payload], verdict.panics) →
        (runChain process stages t.payload).outcome = ⟨[], some (.stage "stage panicked")⟩)
  /-- The results are made in the order of the messages that are left of the transactions. -/
  messages : bench.results.map Transaction.payload <+:
    messagesOf (interpret process chain bench.dock.accepted)
  /-- The consumer receives the results in that order. -/
  stream : bench.dock.received ++ bench.dock.around.output.queue <+: bench.results
  /-- As long as the consumer is there, all results are put on the output. -/
  whole : bench.dock.around.output.closed = false →
    bench.dock.received ++ bench.dock.around.output.queue = bench.results
  /-- All transactions and results have paths of their own. -/
  paths : (bench.dock.accepted.map Transaction.reply ++
    bench.results.map Transaction.reply).Nodup
  /-- A transaction is not touched before all those accepted before it were answered. -/
  order : ∀ before report after, bench.journal = before ++ report :: after →
    ∃ first t later, bench.dock.accepted = first ++ t :: later ∧ report.origin = t.reply ∧
      ∀ t' ∈ first, ∃ response, .answered t'.reply response ∈ before
  /-- An answer is on its way when it is reported. -/
  given : ∀ id response, .answered id response ∈ bench.journal →
    (id, .answered response) ∈ bench.dock.around.ledger.settled
  /-- The answer to a transaction follows from its run and from the answers to its results. -/
  answers : ∀ t run response, (t, run) ∈ interpret process chain bench.dock.accepted →
    (t.reply, .answered response) ∈ bench.dock.around.ledger.settled →
    (run.outcome.messages = [] → response = .ofFailure? run.outcome.rejection) ∧
      ∃ results before, results.map Transaction.payload = run.outcome.messages ∧
        (∀ result ∈ results, .emitted t.reply result ∈ bench.journal) ∧
        before ++ [(t.reply, .answered response)] <+: bench.dock.around.ledger.settled ∧
        (run.outcome.messages ≠ [] → Reduction before results response)
  /-- Once the worker has seen the shutdown nothing is accepted any more. -/
  refused : bench.processor.closing = true →
    ∀ more later, bench.run process more = some later → later.dock.accepted = bench.dock.accepted

/-- The worker has done all that the interpreter does. -/
structure Complete (process : Behaviour σ) (chain : List σ) (bench : Bench σ) : Prop where
  runs : Report.runs process bench.journal = interpret process chain bench.dock.accepted
  messages : bench.results.map Transaction.payload =
    messagesOf (interpret process chain bench.dock.accepted)
  /-- A consumer that stayed has received all results. -/
  received : bench.dock.around.output.closed = false → bench.dock.received = bench.results
  answered : ∀ t ∈ bench.dock.accepted,
    ∃! response, (t.reply, .answered response) ∈ bench.dock.around.ledger.settled
  /-- If a shutdown was asked for the worker has ended. -/
  ended : bench.processor.stopRequested = true → bench.processor.phase = .ended

/-! ### Order and answers -/

lemma Invariant.nodup (h : Invariant process chain bench) :
    (bench.dock.accepted.map Transaction.reply).Nodup :=
  h.balanced.nodup_accepted

/-- The worker took the first of the accepted transactions. -/
lemma Invariant.taken (h : Invariant process chain bench) :
    ∃ taken, bench.processor.Transcript process bench.dock.around.ledger.settled chain taken
        bench.journal ∧
      taken ++ bench.dock.around.input.queue = bench.dock.accepted ∧
      (taken.map Transaction.reply).Nodup := by
  obtain ⟨taken, transcript, htaken⟩ := h.transcript
  have distinct := h.nodup
  rw [← htaken, List.map_append] at distinct
  exact ⟨taken, transcript, htaken, (List.nodup_append.mp distinct).1⟩

lemma Invariant.in_order (h : Invariant process chain bench) {before after : List (Report σ)}
    {report : Report σ} (hjournal : bench.journal = before ++ report :: after) :
    ∃ first t later, bench.dock.accepted = first ++ t :: later ∧ report.origin = t.reply ∧
      ∀ t' ∈ first, ∃ response, .answered t'.reply response ∈ before := by
  obtain ⟨taken, transcript, htaken, distinct⟩ := h.taken
  have mem : report ∈ bench.journal := hjournal ▸ List.mem_append_cons_self
  obtain ⟨t, ht, horigin⟩ := transcript.origin mem
  -- the worker takes from the front, so what it took before `t` is all that was accepted before
  obtain ⟨first, later, rfl⟩ := List.append_of_mem ht
  refine ⟨first, t, later ++ bench.dock.around.input.queue, ?_, horigin, ?_⟩
  · simpa using htaken.symm
  · exact transcript.in_order distinct hjournal rfl horigin

/-- An accepted transaction that was answered was treated, as the interpreter says. -/
lemma Invariant.treatment (h : Invariant process chain bench) {t : Transaction}
    (ht : t ∈ bench.dock.accepted) {response : Response}
    (answered : (t.reply, .answered response) ∈ bench.dock.around.ledger.settled) :
    ∃ x : Treatment σ, x.transaction = t ∧ x.response = response ∧
      x.Sound process bench.dock.around.ledger.settled ∧
      (t, x.run process) ∈ interpret process chain bench.dock.accepted ∧
      bench.journal.filter (·.origin = t.reply) = x.reports := by
  obtain ⟨taken, transcript, htaken, distinct⟩ := h.taken
  -- neither in the hands of the worker nor in the input: the worker is done with it
  have idle := h.balanced.notMem_work (Ledger.mem_ended.mpr ⟨_, answered⟩)
  simp only [books, Processor.books, Multiset.mem_add, not_or] at idle
  obtain ⟨worker, queue, -⟩ := idle
  have took : t ∈ taken := (List.mem_append.mp (htaken.symm ▸ ht)).resolve_right fun hq =>
    queue (mem_replies.mpr ⟨t, hq, rfl⟩)
  obtain ⟨x, rfl, sound, hrun, hstory⟩ := transcript.story distinct took worker
  refine ⟨x, rfl, ?_, sound, ?_, hstory⟩
  · exact Ending.answered.inj (h.balanced.ending_unique sound.given answered)
  · rw [← htaken]
    exact (interpret_grows (List.prefix_append _ _)).subset hrun

/-- What is reported as answered was answered. -/
lemma Invariant.given (h : Invariant process chain bench) {id : Nat} {response : Response}
    (hreport : .answered id response ∈ bench.journal) :
    (id, .answered response) ∈ bench.dock.around.ledger.settled := by
  obtain ⟨taken, transcript, -⟩ := h.transcript
  exact transcript.given hreport

/-! ### Shutdown -/

lemma Invariant.refused (h : Invariant process chain bench)
    (closing : bench.processor.closing = true) {more : List Event}
    (hr : bench.run process more = some bench') :
    bench'.dock.accepted = bench.dock.accepted := by
  have kept : Invariant process chain bench' ∧ bench'.processor.closing = true ∧
      bench'.dock.accepted = bench.dock.accepted := by
    refine runFrom_induction (P := fun later => Invariant process chain later ∧
      later.processor.closing = true ∧ later.dock.accepted = bench.dock.accepted) ?_
      ⟨h, closing, rfl⟩ hr
    rintro later next e ⟨inv, closing, haccepted⟩ he
    refine ⟨inv.step he, ?_⟩
    cases e with
    | user e =>
      obtain ⟨dock, hd, rfl⟩ := Option.map_eq_some_iff.mp he
      obtain ⟨-, new, haccepted', -, spent⟩ := Dock.input_of_step hd
      obtain rfl := spent (.inl (inv.closing closing))
      exact ⟨closing, by rw [haccepted', List.append_nil, haccepted]⟩
    | work =>
      obtain ⟨new, m, hdock, -⟩ := move_of_work he
      refine ⟨(m.closing inv.closing).2 closing, ?_⟩
      rw [hdock]
      exact haccepted
    | close =>
      cases he
      rw [Processor.close_of_bound inv.bound.1]
      exact ⟨closing, haccepted⟩
  exact kept.2.2

/-! ### The result -/

lemma Invariant.refines (h : Invariant process chain bench) : Refines process chain bench := by
  obtain ⟨taken, transcript, htaken⟩ := h.transcript
  have ahead : taken <+: bench.dock.accepted := htaken ▸ List.prefix_append _ _
  constructor
  · exact transcript.runs_grow.trans (interpret_grows ahead)
  · intro t stages _
    refine ⟨ChainRun.chain_eq _ _ _, fun panicked => ?_⟩
    exact ChainRun.outcome_of_panic _ _ _ (List.any_eq_true.mpr panicked)
  · exact transcript.messages_grow.trans ((interpret_grows ahead).flatMap _)
  · exact h.stream
  · exact h.whole
  · exact h.balanced.nodup
  · intro before report after hjournal
    exact h.in_order hjournal
  · intro id response hreport
    exact h.given hreport
  · intro t run response hrun answered
    have ht : t ∈ bench.dock.accepted := by
      rw [← map_fst_interpret process chain bench.dock.accepted]
      exact List.mem_map_of_mem hrun
    obtain ⟨x, rfl, rfl, sound, hrun', hstory⟩ := h.treatment ht answered
    obtain rfl := run_unique h.nodup hrun hrun'
    obtain ⟨before, hbefore, reduction⟩ :=
      sound.reduction fun _ _ _ he he' => h.balanced.ending_unique he he'
    refine ⟨fun empty => sound.direct ?_, x.results, before, sound.payloads, ?_, hbefore,
      reduction⟩
    · exact List.map_eq_nil_iff.mp (sound.payloads.trans empty)
    · intro result hresult
      refine List.mem_of_mem_filter (p := (·.origin = x.transaction.reply)) ?_
      rw [hstory]
      simp [Treatment.reports, hresult]
  · intro closing more later hr
    exact h.refused closing hr

lemma Invariant.complete (h : Invariant process chain bench) (rests : bench.Rests process) :
    Complete process chain bench := by
  obtain ⟨hq, idle, ended⟩ := h.idle rests
  obtain ⟨taken, transcript, htaken⟩ := h.transcript
  rw [hq, List.append_nil] at htaken
  obtain rfl := htaken
  obtain ⟨runs, messages⟩ := transcript.complete_of_idle idle
  refine ⟨runs, messages, fun closed => ?_, fun t ht => ?_, ended⟩
  · have whole := h.whole closed
    rwa [(rests_iff.mp rests).2.1, List.append_nil] at whole
  · have hid : t.reply ∈ bench.books.accepted := mem_replies.mpr ⟨t, ht, rfl⟩
    have nothing : bench.books.work = 0 := by
      rcases idle with hp | hp <;> simp [books, Processor.books, Processor.work, hp, hq]
    obtain ⟨response, hresponse⟩ := h.balanced.answered_of_work_eq_zero nothing hid
    refine ⟨response, hresponse, fun response' hresponse' => ?_⟩
    exact Ending.answered.inj (h.balanced.ending_unique hresponse' hresponse)

/-- A processor refines the sequential interpreter, for all its runs: what it has done agrees with
the interpreter at any time, and when neither the worker nor the consumer can do anything it has done
all that the interpreter does. They cannot go on forever without coming to rest. -/
theorem refines_interpreter (opening : start.Opening) :
    (∀ events bench, start.run process events = some bench →
      Refines process start.processor.chain bench ∧
        (bench.Rests process → Complete process start.processor.chain bench)) ∧
      WellFounded fun bench' bench : Bench σ =>
        ∃ e : Event, e.drives ∧ bench.step process e = some bench' := by
  refine ⟨fun events bench hr => ?_, wellFounded_drives process⟩
  have inv : Invariant process start.processor.chain bench := opening.invariant hr
  exact ⟨inv.refines, inv.complete⟩

theorem refines_interpreter_small :
    ∃ bench, small.run fickle course = some bench ∧
      bench.dock.accepted.map Transaction.reply = [0, 1, 2] ∧
      Refines fickle [0] bench ∧ Complete fickle [0] bench := by
  obtain ⟨bench, hr, hbench⟩ := Option.map_eq_some_iff.mp
    (show (small.run fickle course).map (fun bench =>
        (bench.dock.accepted.map Transaction.reply, bench.processor.phase,
          bench.dock.around.output.queue, bench.dock.held)) =
      some ([0, 1, 2], .ended, [], []) by decide +kernel)
  simp only [Prod.mk.injEq] at hbench
  obtain ⟨haccepted, hp, houtput, hheld⟩ := hbench
  have rests : bench.Rests fickle := rests_iff.mpr ⟨by simp [Processor.step, hp], houtput, hheld⟩
  obtain ⟨refines, complete⟩ := (refines_interpreter opening_small).1 course bench hr
  exact ⟨bench, hr, haccepted, refines, complete rests⟩

end Conveyor.Bench
