import Conveyor.Proofs.Interpreter
import Conveyor.Proofs.Processor.Transcript
import Mathlib.Data.List.Infix

/-!
# Transcripts follow the interpreter

The runs that a worker reports are those of the sequential interpreter, in the same order, and so
are the messages of its results (`Processor.Transcript.runs_grow`,
`Processor.Transcript.messages_grow`). Whatever it reports about a transaction comes after the
answers to all those before (`Processor.Transcript.in_order`).
-/

namespace Conveyor

variable {σ : Type} {process : Behaviour σ} {settled : List (Nat × Ending)}

/-- The runs of the stages that reports tell of. -/
def Report.runs (process : Behaviour σ) (reports : List (Report σ)) :
    List (Transaction × ChainRun σ) :=
  reports.filterMap fun
    | .ran t chain => some (t, runChain process chain t.payload)
    | _            => none

namespace Report

@[simp] lemma runs_append (reports reports' : List (Report σ)) :
    runs process (reports ++ reports') = runs process reports ++ runs process reports' :=
  List.filterMap_append

@[simp] lemma runs_emitted (origin : Nat) (results : List Transaction) :
    runs process (results.map (.emitted origin)) = [] := by
  simp [runs]

lemma runs_cons_ran (t : Transaction) (chain : List σ) (reports : List (Report σ)) :
    runs process (.ran t chain :: reports) =
      (t, runChain process chain t.payload) :: runs process reports := rfl

@[simp] lemma results_map_emitted (origin : Nat) (ts : List Transaction) :
    Report.results (ts.map (.emitted origin) : List (Report σ)) = ts := by
  induction ts with
  | nil => rfl
  | cons t ts ih => simp [ih]

end Report

/-! ### Treatments -/

namespace Treatment

lemma runs_reports (x : Treatment σ) :
    Report.runs process x.reports = [(x.transaction, x.run process)] := by
  rw [reports, Report.runs_cons_ran, Report.runs_append, Report.runs_emitted]
  rfl

@[simp] lemma results_reports (x : Treatment σ) : Report.results x.reports = x.results := by
  simp [reports]

end Treatment

namespace Treated

variable {chain chain' : List σ} {xs : List (Treatment σ)}

/-- Treatments one after the other are runs of the interpreter. -/
lemma interpret_eq (h : Treated process settled chain xs chain') :
    chainAfter process chain (xs.map Treatment.transaction) = chain' ∧
      interpret process chain (xs.map Treatment.transaction) =
        xs.map fun x => (x.transaction, x.run process) := by
  induction h with
  | nil => exact ⟨rfl, rfl⟩
  | @concat xs x _ hx ih =>
    obtain ⟨hchain, hruns⟩ := ih
    rw [List.map_append, chainAfter_append, interpret_append, hchain, hruns, List.map_append]
    exact ⟨rfl, rfl⟩

lemma runs_reports (h : Treated process settled chain xs chain') :
    Report.runs process (xs.flatMap Treatment.reports) =
      interpret process chain (xs.map Treatment.transaction) := by
  rw [h.interpret_eq.2]
  clear h
  induction xs with
  | nil => rfl
  | cons x xs ih => simp [Treatment.runs_reports, ih]

lemma messages_reports (h : Treated process settled chain xs chain') :
    (Report.results (xs.flatMap Treatment.reports)).map Transaction.payload =
      messagesOf (interpret process chain (xs.map Treatment.transaction)) := by
  rw [h.interpret_eq.2]
  have sound : ∀ x ∈ xs, x.Sound process settled := fun x hx => h.sound hx
  clear h
  induction xs with
  | nil => rfl
  | cons x xs ih =>
    obtain ⟨first, later⟩ := List.forall_mem_cons.mp sound
    rw [List.flatMap_cons, Report.results_append, List.map_append, ih later,
      Treatment.results_reports, first.payloads]
    rfl

end Treated

namespace Processor

/-! ### The current transaction -/

variable {chain : List σ} {phase : Phase} {chain' : List σ} {ts : List Transaction}
  {reports : List (Report σ)}

lemma Progress.runs_grow (h : Progress process settled chain phase chain' ts reports) :
    Report.runs process reports <+: interpret process chain ts := by
  cases h with
  | wait | ended | run => exact List.nil_prefix
  | emit | join =>
    rw [Report.runs_cons_ran, Report.runs_emitted]
    exact List.prefix_rfl

lemma Progress.messages_grow (h : Progress process settled chain phase chain' ts reports) :
    (Report.results reports).map Transaction.payload <+: messagesOf (interpret process chain ts) := by
  cases h with
  | wait | ended | run => exact List.nil_prefix
  | emit results messages =>
    simp only [Report.results_ran, Report.results_map_emitted, interpret_singleton, messagesOf,
      List.flatMap_singleton]
    exact ⟨_, messages⟩
  | join results messages =>
    simp only [Report.results_ran, Report.results_map_emitted, interpret_singleton, messagesOf,
      List.flatMap_singleton]
    exact messages ▸ List.prefix_rfl

lemma Progress.not_answered (h : Progress process settled chain phase chain' ts reports) (id : Nat)
    (response : Response) : .answered id response ∉ reports := by
  cases h with
  | wait | ended | run => exact List.not_mem_nil
  | emit | join => simp

/-! ### Transcripts -/

namespace Transcript

variable {start : List σ} {p : Processor σ} {taken : List Transaction}

/-- The stages are run as the interpreter runs them. -/
lemma runs_grow (h : Transcript process settled start p taken reports) :
    Report.runs process reports <+: interpret process start taken := by
  obtain ⟨xs, chain, ts, rs, treated, progress, rfl, rfl⟩ := h
  rw [Report.runs_append, treated.runs_reports, interpret_append, treated.interpret_eq.1]
  exact (List.prefix_append_right_inj _).mpr progress.runs_grow

/-- The results carry the messages that the interpreter finds. -/
lemma messages_grow (h : Transcript process settled start p taken reports) :
    (Report.results reports).map Transaction.payload <+: messagesOf (interpret process start taken) := by
  obtain ⟨xs, chain, ts, rs, treated, progress, rfl, rfl⟩ := h
  rw [Report.results_append, List.map_append, treated.messages_reports, interpret_append,
    treated.interpret_eq.1, messagesOf, messagesOf, List.flatMap_append]
  exact (List.prefix_append_right_inj _).mpr progress.messages_grow

/-- A worker that is not at any transaction has treated all that it took. -/
lemma treatments_of_idle (h : Transcript process settled start p taken reports)
    (idle : p.phase = .waiting ∨ p.phase = .ended) :
    ∃ (xs : List (Treatment σ)) (chain : List σ), Treated process settled start xs chain ∧
      taken = xs.map Treatment.transaction ∧ reports = xs.flatMap Treatment.reports := by
  obtain ⟨xs, chain, ts, rs, treated, progress, rfl, rfl⟩ := h
  have nothing : ts = [] ∧ rs = [] := by
    generalize p.chain = c at progress
    generalize p.phase = phase at progress idle
    cases progress with
    | wait | ended => exact ⟨rfl, rfl⟩
    | run | emit | join => simp at idle
  obtain ⟨rfl, rfl⟩ := nothing
  exact ⟨xs, chain, treated, by rw [List.append_nil], by rw [List.append_nil]⟩

/-- A worker that is not at any transaction has done all that the interpreter does. -/
lemma complete_of_idle (h : Transcript process settled start p taken reports)
    (idle : p.phase = .waiting ∨ p.phase = .ended) :
    Report.runs process reports = interpret process start taken ∧
      (Report.results reports).map Transaction.payload =
        messagesOf (interpret process start taken) := by
  obtain ⟨xs, chain, treated, rfl, rfl⟩ := h.treatments_of_idle idle
  exact ⟨treated.runs_reports, treated.messages_reports⟩

/-- The stages of a worker that is not at any transaction are those that the interpreter leaves. -/
lemma chain_of_idle (h : Transcript process settled start p taken reports)
    (idle : p.phase = .waiting ∨ p.phase = .ended) : p.chain = chainAfter process start taken := by
  obtain ⟨xs, chain, ts, rs, treated, progress, rfl, rfl⟩ := h
  rw [chainAfter_append, treated.interpret_eq.1]
  generalize p.chain = c at progress
  generalize p.phase = phase at progress idle
  cases progress with
  | wait | ended => rfl
  | run | emit | join => simp at idle

/-- What is reported as answered is in the log. -/
lemma given (h : Transcript process settled start p taken reports) {id : Nat}
    {response : Response} (hreport : .answered id response ∈ reports) :
    (id, .answered response) ∈ settled := by
  obtain ⟨xs, chain, ts, rs, treated, progress, rfl, rfl⟩ := h
  rcases List.mem_append.mp hreport with hreport | hreport
  · obtain ⟨x, hx, hreport⟩ := List.mem_flatMap.mp hreport
    obtain ⟨rfl, rfl⟩ : id = x.transaction.reply ∧ response = x.response := by
      simpa [Treatment.reports] using hreport
    exact (treated.sound hx).given
  · exact absurd hreport (progress.not_answered id response)

/-- Where a report stands among the treatments. -/
lemma split_reports {xs : List (Treatment σ)} {rs before after : List (Report σ)}
    {report : Report σ} (h : xs.flatMap Treatment.reports ++ rs = before ++ report :: after) :
    (∃ ys x zs, xs = ys ++ x :: zs ∧ report ∈ x.reports ∧
      ys.flatMap Treatment.reports <+: before) ∨
      report ∈ rs ∧ xs.flatMap Treatment.reports <+: before := by
  induction xs generalizing before with
  | nil =>
    rw [List.flatMap_nil, List.nil_append] at h
    exact .inr ⟨h ▸ List.mem_append_cons_self, List.nil_prefix⟩
  | cons x xs ih =>
    rw [List.flatMap_cons, List.append_assoc] at h
    rcases List.append_eq_append_iff.mp h with ⟨mid, rfl, hrest⟩ | ⟨mid, hx, hrest⟩
    · rcases ih hrest with ⟨ys, y, zs, rfl, hy, hbefore⟩ | ⟨hrs, hbefore⟩
      · refine .inl ⟨x :: ys, y, zs, rfl, hy, ?_⟩
        exact (List.prefix_append_right_inj _).mpr hbefore
      · exact .inr ⟨hrs, (List.prefix_append_right_inj _).mpr hbefore⟩
    · cases mid with
      | nil =>
        -- `report` begins what comes after this treatment
        rw [List.append_nil] at hx
        have hrest : xs.flatMap Treatment.reports ++ rs = [] ++ report :: after := hrest.symm
        rcases ih hrest with ⟨ys, y, zs, rfl, hy, hbefore⟩ | ⟨hrs, hbefore⟩
        · refine .inl ⟨x :: ys, y, zs, rfl, hy, ?_⟩
          rw [List.flatMap_cons, List.prefix_nil.mp hbefore, hx, List.append_nil]
        · refine .inr ⟨hrs, ?_⟩
          rw [List.flatMap_cons, List.prefix_nil.mp hbefore, hx, List.append_nil]
      | cons first mid =>
        obtain ⟨rfl, -⟩ := List.cons.inj hrest
        exact .inl ⟨[], x, xs, rfl, by simp [hx], List.nil_prefix⟩

/-- What stands before a transaction is given by its path. -/
lemma before_unique (distinct : (taken.map Transaction.reply).Nodup)
    {first later first' later' : List Transaction} {t t' : Transaction}
    (h : taken = first ++ t :: later) (h' : taken = first' ++ t' :: later')
    (same : t.reply = t'.reply) : first = first' := by
  obtain rfl : t = t' := by
    refine List.inj_on_of_nodup_map distinct ?_ ?_ same
    · simp [h]
    · simp [h']
  obtain ⟨absent, -⟩ := List.nodup_cons.mp (List.nodup_middle.mp (h' ▸ distinct.of_map _))
  obtain ⟨notFirst, notLater⟩ := not_or.mp (mt List.mem_append.mpr absent)
  exact ((List.append_cons_inj_of_notMem notFirst notLater).mp (h'.symm.trans h)).1.symm

/-- Nothing is reported about a transaction before all those before it were answered. -/
lemma in_order (h : Transcript process settled start p taken reports)
    (distinct : (taken.map Transaction.reply).Nodup) {before after : List (Report σ)}
    {report : Report σ} (hreports : reports = before ++ report :: after)
    {first later : List Transaction} {t : Transaction} (htaken : taken = first ++ t :: later)
    (horigin : report.origin = t.reply) :
    ∀ t' ∈ first, ∃ response, .answered t'.reply response ∈ before := by
  obtain ⟨xs, chain, ts, rs, treated, progress, rfl, rfl⟩ := h
  have answered : ∀ ys : List (Treatment σ), ys.flatMap Treatment.reports <+: before →
      ∀ t' ∈ ys.map Treatment.transaction, ∃ response, .answered t'.reply response ∈ before := by
    intro ys hys t' ht'
    obtain ⟨y, hy, rfl⟩ := List.mem_map.mp ht'
    refine ⟨y.response, hys.subset (List.mem_flatMap.mpr ⟨y, hy, ?_⟩)⟩
    simp [Treatment.reports]
  rcases split_reports hreports with ⟨ys, x, zs, rfl, hx, hbefore⟩ | ⟨hrs, hbefore⟩
  · have place : (ys ++ x :: zs).map Treatment.transaction ++ ts =
        ys.map Treatment.transaction ++ x.transaction :: (zs.map Treatment.transaction ++ ts) := by
      simp
    have same := horigin.symm.trans (Treatment.origin_eq hx)
    exact before_unique distinct htaken place same ▸ answered ys hbefore
  · obtain ⟨t'', rfl, horigin'⟩ := progress.origin hrs
    have same := horigin.symm.trans horigin'
    exact before_unique distinct htaken rfl same ▸ answered xs hbefore

/-- The reports about a transaction that needs no answer any more make up one treatment. -/
lemma story (h : Transcript process settled start p taken reports)
    (distinct : (taken.map Transaction.reply).Nodup) {t : Transaction} (ht : t ∈ taken)
    (answered : t.reply ∉ p.work) :
    ∃ x : Treatment σ, x.transaction = t ∧ x.Sound process settled ∧
      (t, x.run process) ∈ interpret process start taken ∧
      reports.filter (·.origin = t.reply) = x.reports := by
  obtain ⟨xs, chain, ts, rs, treated, progress, rfl, rfl⟩ := h
  have complete : t ∈ xs.map Treatment.transaction := by
    refine (List.mem_append.mp ht).resolve_right fun ht => ?_
    exact answered (progress.mem_work ht)
  obtain ⟨x, hx, rfl⟩ := List.mem_map.mp complete
  refine ⟨x, rfl, treated.sound hx, ?_, ?_⟩
  · rw [interpret_append, treated.interpret_eq.2]
    exact List.mem_append.mpr (.inl (List.mem_map.mpr ⟨x, hx, rfl⟩))
  rw [List.map_append, List.map_map] at distinct
  obtain ⟨distinct, -, apart⟩ := List.nodup_append.mp distinct
  -- the current transaction, if there is one, is another one
  have hrs : rs.filter (·.origin = x.transaction.reply) = [] := by
    refine List.filter_eq_nil_iff.mpr fun report hreport => ?_
    obtain ⟨t, rfl, hreport⟩ := progress.origin hreport
    rw [hreport, decide_eq_true_eq]
    exact (apart _ (List.mem_map_of_mem hx) _ (List.mem_singleton_self _)).symm
  rw [List.filter_append, Treatment.filter_flatMap distinct hx, hrs, List.append_nil]

end Transcript

end Processor

end Conveyor
