import Conveyor.Proofs.Processor.Interpretation

/-!
# Where a worker began, and what it made of a transaction

The first report of a worker tells with which stages it began (`Processor.Transcript.start_eq`). The
results that it reports for one transaction carry, in their order, the messages that the interpreter
finds for it: the first ones at any time (`Processor.Transcript.results_grow`), and all of them when the
transaction needs no answer any more (`Processor.Transcript.results_eq`).
-/

namespace Conveyor

variable {σ : Type} {process : Behaviour σ} {settled : List (Nat × Ending)}

/-! ### The stages in the beginning -/

/-- The stages before some reports, if `chain` are the stages after them. -/
def Report.start (reports : List (Report σ)) (chain : List σ) : List σ :=
  (reports.findSome? fun
    | .ran _ before => some before
    | _             => none).getD chain

namespace Report

@[simp] lemma start_nil (chain : List σ) : start [] chain = chain := rfl

@[simp] lemma start_ran (t : Transaction) (before : List σ) (reports : List (Report σ))
    (chain : List σ) : start (.ran t before :: reports) chain = before := rfl

lemma start_append (reports reports' : List (Report σ)) (chain : List σ) :
    start (reports ++ reports') chain = start reports (start reports' chain) := by
  rw [start, List.findSome?_append, start, start]
  generalize List.findSome? _ reports = first
  cases first <;> rfl

end Report

lemma Treated.start_eq {chain chain' : List σ} {xs : List (Treatment σ)}
    (h : Treated process settled chain xs chain') :
    Report.start (xs.flatMap Treatment.reports) chain' = chain := by
  induction h with
  | nil => rfl
  | concat _ _ ih =>
    rw [List.flatMap_append, Report.start_append, List.flatMap_singleton]
    exact ih

namespace Processor

lemma Progress.start_eq {chain chain' : List σ} {phase : Phase} {ts : List Transaction}
    {reports : List (Report σ)} (h : Progress process settled chain phase chain' ts reports) :
    Report.start reports chain' = chain := by
  cases h <;> rfl

/-- The worker works on nothing but its current transaction. -/
lemma Progress.of_mem_work {p : Processor σ} {chain : List σ} {ts : List Transaction}
    {reports : List (Report σ)} (h : Progress process settled chain p.phase p.chain ts reports) {id : Nat}
    (hid : id ∈ p.work) : ∃ t, ts = [t] ∧ t.reply = id := by
  unfold work at hid
  generalize p.phase = phase at h hid
  generalize p.chain = chain' at h
  cases h with
  | wait | ended => exact absurd hid (Multiset.notMem_zero id)
  | run t => exact ⟨t, rfl, (Multiset.mem_singleton.mp hid).symm⟩
  | @emit t | @join t => exact ⟨t, rfl, (Multiset.mem_singleton.mp hid).symm⟩

/-- A worker changes its stages only by running them, and reports the stages before the run. -/
lemma Move.start_eq {p p' : Processor σ} {s s' : Surroundings} {new : List (Report σ)}
    (m : Move process p s new p' s') : Report.start new p'.chain = p.chain := by
  cases m <;> rfl

namespace Transcript

variable {start : List σ} {p : Processor σ} {taken waiting : List Transaction}
  {reports : List (Report σ)}

lemma start_eq (h : Transcript process settled start p taken reports) :
    Report.start reports p.chain = start := by
  obtain ⟨xs, chain, ts, rs, treated, progress, rfl, rfl⟩ := h
  rw [Report.start_append, progress.start_eq, treated.start_eq]

/-! ### The results of one transaction -/

/-- The results for a transaction that needs no answer any more carry all its messages. -/
lemma results_eq (h : Transcript process settled start p taken reports)
    (distinct : (taken.map Transaction.reply).Nodup) {t : Transaction} {run : ChainRun σ}
    (ht : (t, run) ∈ interpret process start taken) (answered : t.reply ∉ p.work) :
    (Report.results (reports.filter (·.origin = t.reply))).map Transaction.payload =
      run.outcome.messages := by
  have took : t ∈ taken := by
    rw [← map_fst_interpret process start taken]
    exact List.mem_map_of_mem ht
  obtain ⟨x, rfl, sound, hrun, hreports⟩ := h.story distinct took answered
  rw [hreports, Treatment.results_reports, sound.payloads, run_unique distinct ht hrun]

/-- All results for a transaction that needs no answer any more came to an end. If its run kept no
rejection, it was acknowledged if and only if all of them were. -/
lemma acked_iff (h : Transcript process settled start p taken reports)
    (distinct : (taken.map Transaction.reply).Nodup)
    (unique : ∀ id e e', (id, e) ∈ settled → (id, e') ∈ settled → e = e') {t : Transaction}
    (ht : t ∈ taken) (answered : t.reply ∉ p.work)
    (quiet : ∀ run, (t, run) ∈ interpret process start taken → run.outcome.rejection = none) :
    let made := Report.results (reports.filter (·.origin = t.reply))
    (∀ result ∈ made, ∃ e, (result.reply, e) ∈ settled) ∧
      ((t.reply, .answered .ack) ∈ settled ↔
        ∀ result ∈ made, (result.reply, .answered .ack) ∈ settled) := by
  obtain ⟨x, rfl, sound, hrun, hreports⟩ := h.story distinct ht answered
  have response {r : Response} : (x.transaction.reply, .answered r) ∈ settled ↔ x.response = r :=
    ⟨fun given => Ending.answered.inj (unique _ _ _ sound.given given), fun given => given ▸ sound.given⟩
  simp only [hreports, Treatment.results_reports, response]
  by_cases none : x.results = []
  · have acked : x.response = .ack := by
      rw [sound.direct none, quiet _ hrun]
      rfl
    simp [none, acked]
  · obtain ⟨before, hbefore, reduction⟩ := sound.reduction unique
    have left : (x.run process).outcome.messages ≠ [] := fun empty =>
      none (List.map_eq_nil_iff.mp (sound.payloads.trans empty))
    have earlier : before ⊆ settled := ((List.prefix_append before _).trans hbefore).subset
    obtain ⟨resolved, ack, -⟩ := reduction left
    refine ⟨fun result hresult => ?_, ack.trans (forall₂_congr fun result hresult => ?_)⟩
    · obtain ⟨e, he⟩ := resolved result hresult
      exact ⟨e, earlier he⟩
    · refine ⟨fun acked => earlier acked, fun acked => ?_⟩
      obtain ⟨e, he⟩ := resolved result hresult
      rwa [unique _ _ _ acked (earlier he)]

/-- The reports about the transaction in progress are those of its progress, and the interpreter runs
it with the same stages. -/
lemma current (h : Transcript process settled start p taken reports)
    (distinct : (taken.map Transaction.reply).Nodup) {id : Nat} (hid : id ∈ p.work) :
    ∃ chain t, t.reply = id ∧
      Progress process settled chain p.phase p.chain [t] (reports.filter (·.origin = id)) ∧
      ∀ t' run, (t', run) ∈ interpret process start taken → t'.reply = id →
        (t', run) ∈ interpret process chain [t] := by
  obtain ⟨xs, chain, ts, rs, treated, progress, rfl, rfl⟩ := h
  obtain ⟨t, rfl, rfl⟩ := progress.of_mem_work hid
  -- no other transaction has this path
  rw [List.map_append, List.map_map] at distinct
  obtain ⟨-, -, before⟩ := List.nodup_append.mp distinct
  have others : ∀ x ∈ xs, x.transaction.reply ≠ t.reply := fun x hx =>
    before _ (List.mem_map_of_mem hx) _ (List.mem_singleton_self _)
  have same : rs.filter (·.origin = t.reply) = rs := by
    refine List.filter_eq_self.mpr fun report hreport => ?_
    obtain ⟨only, honly, horigin⟩ := progress.origin hreport
    obtain rfl := List.singleton_inj.mp honly
    exact decide_eq_true horigin
  refine ⟨chain, t, rfl, ?_, fun t' run ht' sameReply => ?_⟩
  · rw [List.filter_append, Treatment.filter_eq_nil others, List.nil_append, same]
    exact progress
  · rw [interpret_append, treated.interpret_eq.1, treated.interpret_eq.2] at ht'
    refine (List.mem_append.mp ht').resolve_left fun treatedBefore => ?_
    obtain ⟨x, hx, hpair⟩ := List.mem_map.mp treatedBefore
    have sameBefore : x.transaction.reply = t'.reply :=
      congrArg (Transaction.reply ∘ Prod.fst) hpair
    exact others x hx (sameBefore.trans sameReply)

/-- Nothing is reported about a transaction before the stages were run on it. -/
lemma reports_of_running (h : Transcript process settled start p taken reports)
    (distinct : (taken.map Transaction.reply).Nodup) {t : Transaction}
    (hp : p.phase = .running t) : reports.filter (·.origin = t.reply) = [] := by
  have busy : t.reply ∈ p.work := by simp [work, hp]
  obtain ⟨chain, current, -, progress, -⟩ := h.current distinct busy
  rw [hp] at progress
  generalize reports.filter (·.origin = t.reply) = rs at progress
  cases progress with
  | run => rfl

/-- As long as results are sent, those that were sent are known by their paths. -/
lemma results_of_emitting (h : Transcript process settled start p taken reports)
    (distinct : (taken.map Transaction.reply).Nodup) {origin : Nat} {later : List Message}
    {sent : List Nat} (hp : p.phase = .emitting origin later sent) :
    (Report.results (reports.filter (·.origin = origin))).map Transaction.reply = sent := by
  have busy : origin ∈ p.work := by simp [work, hp]
  obtain ⟨chain, current, -, progress, -⟩ := h.current distinct busy
  rw [hp] at progress
  generalize reports.filter (·.origin = origin) = rs at progress
  generalize p.chain = chain' at progress
  cases progress with
  | emit results messages some hsent => simp [hsent]

/-- The results for the transaction in progress carry its first messages. -/
lemma results_of_mem_work (h : Transcript process settled start p taken reports)
    (distinct : (taken.map Transaction.reply).Nodup) {t : Transaction} {run : ChainRun σ}
    (ht : (t, run) ∈ interpret process start taken) (current : t.reply ∈ p.work) :
    (Report.results (reports.filter (·.origin = t.reply))).map Transaction.payload <+:
      run.outcome.messages := by
  obtain ⟨chain, only, -, progress, runs⟩ := h.current distinct current
  obtain ⟨rfl, rfl⟩ := Prod.mk.inj (List.mem_singleton.mp (runs t run ht rfl))
  have grow := progress.messages_grow
  rwa [interpret_singleton, messagesOf, List.flatMap_singleton] at grow

/-- The results for a transaction carry its first messages, also while others wait. -/
lemma results_grow (h : Transcript process settled start p taken reports)
    (distinct : ((taken ++ waiting).map Transaction.reply).Nodup) {t : Transaction}
    {run : ChainRun σ} (ht : (t, run) ∈ interpret process start (taken ++ waiting)) :
    (Report.results (reports.filter (·.origin = t.reply))).map Transaction.payload <+:
      run.outcome.messages := by
  rw [List.map_append] at distinct
  obtain ⟨distinctTaken, -, apart⟩ := List.nodup_append.mp distinct
  rw [interpret_append] at ht
  rcases List.mem_append.mp ht with took | waits
  · by_cases current : t.reply ∈ p.work
    · exact h.results_of_mem_work distinctTaken took current
    · rw [h.results_eq distinctTaken took current]
  · -- nothing was reported about it yet
    have hwaits : t ∈ waiting := by
      rw [← map_fst_interpret process (chainAfter process start taken) waiting]
      exact List.mem_map_of_mem waits
    have nothing : reports.filter (·.origin = t.reply) = [] := by
      refine List.filter_eq_nil_iff.mpr fun report hreport => ?_
      obtain ⟨t', ht', horigin⟩ := h.origin hreport
      rw [decide_eq_true_eq, horigin]
      exact apart _ (List.mem_map_of_mem ht') _ (List.mem_map_of_mem hwaits)
    rw [nothing]
    exact List.nil_prefix

end Transcript

end Processor

end Conveyor
