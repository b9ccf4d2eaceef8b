import Conveyor.Proofs.Processor.Interpretation
import Conveyor.Proofs.Site.Conservation

/-!
# What a transaction is answered with

The answer to a transaction that was handed to a lane follows from the run of the stages on it and
from the answers to its own results, and from nothing else (`Site.answer_of_own_results`): all that
the journal tells about the transaction is one treatment of it.
-/

namespace Conveyor

variable {σ : Type} {process : Behaviour σ}

namespace Site

variable {site start : Site σ} {d : Dispatcher (Processor σ)}

/-! ### Stories -/

/-- What the journal tells about the transaction with a path. -/
def story (site : Site σ) (id : Nat) : List (Report σ) :=
  site.journal.filterMap fun
    | .handed _ _      => none
    | .worked _ report => if report.origin = id then some report else none

/-- If only one lane reports about a transaction, its reports tell the story. -/
lemma story_eq {id i : Nat}
    (others : ∀ j, j ≠ i → ∀ report ∈ site.reports j, report.origin ≠ id) :
    site.story id = (site.reports i).filter (·.origin = id) := by
  rw [story, reports, List.filter_filterMap]
  refine List.filterMap_congr fun entry hentry => ?_
  cases entry with
  | handed => rfl
  | worked j report =>
    by_cases hj : j = i
    · by_cases hid : report.origin = id <;> simp [hj, hid, Option.filter]
    · have mem : report ∈ site.reports j :=
        List.mem_filterMap.mpr ⟨_, hentry, by simp⟩
      simp [hj, others j hj report mem]

lemma mem_results {id origin : Nat} {result : Transaction}
    (h : .emitted origin result ∈ site.story id) : result ∈ site.results := by
  obtain ⟨entry, hentry, h⟩ := List.mem_filterMap.mp h
  cases entry with
  | handed => cases h
  | worked i report =>
    refine List.mem_filterMap.mpr ⟨_, hentry, ?_⟩
    obtain ⟨-, h⟩ := Option.ite_none_right_eq_some.mp h
    exact congrArg Report.result? (Option.some.inj h)

/-! ### Hand-overs -/

/-- The transactions that were handed to lanes, each with its lane. -/
def handovers (site : Site σ) : List (Nat × Transaction) :=
  site.journal.filterMap fun
    | .handed i t => some (i, t)
    | .worked _ _ => none

lemma dispatched_eq (site : Site σ) : site.dispatched = site.handovers.map Prod.snd := by
  rw [dispatched, handovers, List.map_filterMap]
  refine List.filterMap_congr fun entry _ => ?_
  cases entry <;> rfl

lemma handed_eq (site : Site σ) (i : Nat) :
    site.handed i = (site.handovers.filter (·.1 = i)).map Prod.snd := by
  rw [handed, handovers, List.filter_filterMap, List.map_filterMap]
  refine List.filterMap_congr fun entry _ => ?_
  cases entry with
  | handed j t => by_cases hj : j = i <;> simp [hj]
  | worked => rfl

lemma mem_handed {t : Transaction} {i : Nat} : t ∈ site.handed i ↔ (i, t) ∈ site.handovers := by
  simp [handed_eq]

lemma mem_dispatched {t : Transaction} : t ∈ site.dispatched ↔ ∃ i, t ∈ site.handed i := by
  simp [dispatched_eq, mem_handed]

lemma handed_sublist (site : Site σ) (i : Nat) : (site.handed i).Sublist site.dispatched := by
  rw [handed_eq, dispatched_eq]
  exact List.filter_sublist.map Prod.snd

/-- No transaction is handed out twice. -/
lemma Invariant.nodup_dispatched (h : Invariant process site d) :
    (site.dispatched.map Transaction.reply).Nodup := by
  obtain ⟨gone, haccepted, hsub⟩ := h.queued
  have accepted : (site.dock.accepted.map Transaction.reply).Nodup :=
    h.balanced.nodup_accepted
  rw [haccepted, List.map_append] at accepted
  exact (List.nodup_append.mp accepted).1.sublist (hsub.map Transaction.reply)

lemma Invariant.lane_unique (h : Invariant process site d) {i j : Nat} {t t' : Transaction}
    (ht : t ∈ site.handed i) (ht' : t' ∈ site.handed j) (hid : t.reply = t'.reply) : i = j := by
  have distinct := h.nodup_dispatched
  rw [dispatched_eq, List.map_map] at distinct
  have same := List.inj_on_of_nodup_map distinct (mem_handed.mp ht) (mem_handed.mp ht') hid
  exact congrArg Prod.fst same

/-! ### Treatments in lanes -/

lemma Invariant.origin_handed (h : Invariant process site d) {i : Nat} {report : Report σ}
    (hreport : report ∈ site.reports i) : ∃ t ∈ site.handed i, report.origin = t.reply := by
  cases hl : d.lanes[i]? with
  | none =>
    rw [(h.transcribed.none i (List.getElem?_eq_none_iff.mp hl)).1] at hreport
    cases hreport
  | some lane =>
    obtain ⟨start, taken, transcript, hq⟩ := h.transcribed.lane i lane hl
    obtain ⟨t, ht, horigin⟩ := transcript.origin hreport
    exact ⟨t, hq ▸ List.mem_append.mpr (.inl ht), horigin⟩

/-- A transaction that came to an end is not in the hands of a lane any more. -/
lemma Invariant.notMem_work (h : Invariant process site d) {t : Transaction}
    (ended : t.reply ∈ site.dock.around.ledger.ended) {i : Nat} {lane : Lane (Processor σ)}
    (hl : d.lanes[i]? = some lane) : t.reply ∉ lane.work := by
  intro hwork
  obtain ⟨work, goods, awaited, before, -⟩ := books_lane site hl
  have mem : t.reply ∈ (site.books d).work := by
    rw [before]
    simp [Dock.books, hwork]
  exact h.balanced.notMem_work ended mem

/-- All that the journal tells about a transaction which a lane got and which was answered is one
treatment. -/
lemma Invariant.treatment (h : Invariant process site d) {t : Transaction}
    (ht : t ∈ site.dispatched) {response : Response}
    (answered : (t.reply, .answered response) ∈ site.dock.around.ledger.settled) :
    ∃ x : Treatment σ, x.transaction = t ∧ x.response = response ∧
      x.Sound process site.dock.around.ledger.settled ∧ site.story t.reply = x.reports := by
  obtain ⟨i, handed⟩ := mem_dispatched.mp ht
  have ended := Ledger.mem_ended.mpr ⟨_, answered⟩
  cases hl : d.lanes[i]? with
  | none =>
    rw [(h.transcribed.none i (List.getElem?_eq_none_iff.mp hl)).2] at handed
    cases handed
  | some lane =>
    obtain ⟨start, taken, transcript, hq⟩ := h.transcribed.lane i lane hl
    -- it was handed to the lane, and is neither in its queue nor in progress any more
    have idle := h.notMem_work ended hl
    have distinct := h.nodup_dispatched.sublist ((site.handed_sublist i).map Transaction.reply)
    rw [← hq, List.map_append] at distinct
    have took := (List.mem_append.mp (hq.symm ▸ handed)).resolve_right fun hqueue =>
      idle (Multiset.mem_add.mpr (.inr (mem_replies.mpr ⟨_, hqueue, rfl⟩)))
    obtain ⟨x, rfl, sound, -, hstory⟩ := transcript.story (List.nodup_append.mp distinct).1 took
      fun hwork => idle (Multiset.mem_add.mpr (.inl hwork))
    refine ⟨x, rfl, ?_, sound, ?_⟩
    · exact Ending.answered.inj (h.balanced.ending_unique sound.given answered)
    · -- no other lane got a transaction with this path
      rw [story_eq, hstory]
      intro j hj report hreport horigin
      obtain ⟨t', ht', horigin'⟩ := h.origin_handed hreport
      exact hj (h.lane_unique ht' handed (horigin'.symm.trans horigin))

/-! ### The result -/

/-- The answer to a transaction that a lane got. The stages were run on it once, and one result was
made for each message that was left. If none was, the answer is the rejection that the run kept, or
success if no call was rejected. Otherwise it was given after all of these results had come to an
end, and sums them up. All transactions and results have paths of their own. -/
theorem answer_of_own_results (opening : start.Opening) {events : List Event}
    (hr : start.run process events = some site) {t : Transaction} (ht : t ∈ site.dispatched)
    {response : Response} (answered : response ∈ site.dock.around.ledger.responses t.reply) :
    (site.dock.accepted.map Transaction.reply ++ site.results.map Transaction.reply).Nodup ∧
    ∃ chain results before,
      let outcome := (runChain process chain t.payload).outcome
      let verdicts := ChainRun.calls process chain [t.payload]
      site.story t.reply = .ran t chain ::
        (results.map (.emitted t.reply) ++ [.answered t.reply response]) ∧
      results.map Transaction.payload = outcome.messages ∧ results ⊆ site.results ∧
      before ++ [(t.reply, .answered response)] <+: site.dock.around.ledger.settled ∧
      (outcome.messages = [] →
        ((∃ verdict ∈ verdicts, verdict.refuses) →
          ∃ failure, outcome.rejection = some failure ∧ response = .error failure) ∧
        ((∀ verdict ∈ verdicts, ¬verdict.refuses) → response = .ack)) ∧
      (outcome.messages ≠ [] → Reduction before results response) := by
  obtain ⟨d, inv⟩ := opening.invariant hr
  have distinct : (site.dock.accepted.map Transaction.reply ++
      site.results.map Transaction.reply).Nodup := inv.balanced.nodup
  obtain ⟨x, rfl, rfl, sound, hstory⟩ := inv.treatment ht (Ledger.mem_responses.mp answered)
  obtain ⟨before, hbefore, reduction⟩ :=
    sound.reduction fun _ _ _ he he' => inv.balanced.ending_unique he he'
  refine ⟨distinct, x.chain, x.results, before, hstory, sound.payloads, fun result hresult => ?_,
    hbefore, fun empty => ?_, reduction⟩
  · have mem : .emitted x.transaction.reply result ∈ site.story x.transaction.reply := by
      simp [hstory, Treatment.reports, hresult]
    exact mem_results mem
  · have refused := rejection_isSome_iff process x.chain x.transaction.payload
    rw [sound.direct (List.map_eq_nil_iff.mp (sound.payloads.trans empty))]
    refine ⟨fun h => ?_, fun h => ?_⟩
    · obtain ⟨failure, hfailure⟩ := Option.isSome_iff_exists.mp (refused.mpr h)
      exact ⟨failure, hfailure, congrArg Response.ofFailure? hfailure⟩
    · have kept : (runChain process x.chain x.transaction.payload).outcome.rejection = none := by
        refine Option.not_isSome_iff_eq_none.mp fun hsome => ?_
        obtain ⟨verdict, hverdict, hrefuses⟩ := refused.mp hsome
        exact h verdict hverdict hrefuses
      exact congrArg Response.ofFailure? kept

theorem answer_of_own_results_small :
    ∃ site, small.run fickle course = some site ∧ ⟨.empty, 0⟩ ∈ site.dispatched ∧
      .error .abandoned ∈ site.dock.around.ledger.responses 0 ∧
      ∃ chain results before,
        site.story 0 = .ran ⟨.empty, 0⟩ chain ::
          (results.map (.emitted 0) ++ [.answered 0 (.error .abandoned)]) ∧
        ((runChain fickle chain .empty).outcome.messages ≠ [] →
          Reduction before results (.error .abandoned)) := by
  obtain ⟨site, hr, hsite⟩ := Option.map_eq_some_iff.mp
    (show (small.run fickle course).map
        (fun site => (site.dispatched, site.dock.around.ledger.responses 0)) =
      some ([⟨.empty, 0⟩, ⟨.empty, 1⟩], [.error .abandoned]) by decide +kernel)
  obtain ⟨hdispatched, hresponses⟩ := Prod.mk.inj hsite
  have ht : ⟨.empty, 0⟩ ∈ site.dispatched := by simp [hdispatched]
  have answered : .error .abandoned ∈ site.dock.around.ledger.responses 0 := by simp [hresponses]
  obtain ⟨-, chain, results, before, hstory, -, -, -, -, reduction⟩ :=
    answer_of_own_results opening_small hr ht answered
  exact ⟨site, hr, ht, answered, chain, results, before, hstory, reduction⟩

end Site

end Conveyor
