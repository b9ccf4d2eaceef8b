import Conveyor.Proofs.Bench.Refinement
import Conveyor.Proofs.Consumers

/-!
# Benches with consumers that keep to their verdicts

A bench whose consumer keeps to its verdicts follows the interpreter, in what the consumer receives and
in the answers (`Bench.Invariant.follows`), and at rest it has done all of it
(`Bench.Invariant.finished`).
-/

namespace Conveyor

variable {σ : Type} {process : Behaviour σ} {chain : List σ} {judge : List Message → Bool}
  {failure : Failure}

namespace Bench

variable {bench bench' start : Bench σ}

/-- Whether an event agrees with the verdicts of the consumer. -/
def Event.judges (judge : List Message → Bool) (failure : Failure) (bench : Bench σ) : Event → Bool
  | .user e => e.judges judge failure bench.dock
  | _       => true

lemma Invariant.nodup_received (h : Invariant process chain bench) :
    (bench.dock.received.map Transaction.reply).Nodup := by
  have results : (bench.results.map Transaction.reply).Nodup := h.balanced.nodup_emitted
  have some := (List.prefix_append _ _).trans h.stream
  exact results.sublist (some.sublist.map Transaction.reply)

lemma Invariant.attended (h : Invariant process chain bench)
    (attended : bench.dock.Attended judge failure) {e : Event} (judges : e.judges judge failure bench)
    (he : bench.step process e = some bench') : bench'.dock.Attended judge failure := by
  have balanced := h.balanced
  cases e with
  | user e =>
    obtain ⟨dock, hd, rfl⟩ := Option.map_eq_some_iff.mp he
    rw [books_eq] at balanced
    exact attended.user balanced h.nodup_received judges hd
  | work =>
    obtain ⟨new, m, hdock, -⟩ := move_of_work he
    have log : bench.dock.around.ledger.settled <+: bench'.dock.around.ledger.settled :=
      (h.books_work he).settled_grows
    have balanced' := (h.step he).balanced
    obtain ⟨-, hclosed, -⟩ := m.output
    rw [books_eq] at balanced'
    exact attended.keep balanced' (by rw [hdock]) (by rw [hdock]) hclosed log
  | close =>
    cases he
    exact attended

lemma Opening.attended (h : start.Opening) {events : List Event}
    (judges : throughout (step process) (Event.judges judge failure) start events)
    (hr : start.run process events = some bench) : bench.dock.Attended judge failure := by
  obtain ⟨capacity, output⟩ := h.output
  have listens : start.dock.around.output.closed = false := by rw [output]; rfl
  have both : Invariant process start.processor.chain bench ∧
      bench.dock.Attended judge failure := by
    refine runFrom_induction_throughout (P := fun bench : Bench σ =>
      Invariant process start.processor.chain bench ∧ bench.dock.Attended judge failure) ?_
      ⟨h.start, h.dock.attended listens⟩ judges hr
    rintro bench bench' e - ⟨inv, attended⟩ allowed he
    exact ⟨inv.step he, inv.attended attended allowed he⟩
  exact both.2

lemma Invariant.follows (h : Invariant process chain bench)
    (judged : bench.dock.Judged judge failure) :
    bench.dock.Follows process judge failure chain := by
  obtain ⟨taken, transcript, htaken⟩ := h.transcript
  have whole := h.whole judged.listens
  refine transcript.follows h.balanced rfl rfl htaken.symm whole.symm ?_ ?_ judged
  · rintro id (busy | waits)
    · exact Multiset.mem_add.mpr (.inl busy)
    · exact Multiset.mem_add.mpr (.inr (Multiset.mem_add.mpr (.inl waits)))
  · exact fun id onItsWay => Multiset.mem_add.mpr (.inl onItsWay)

lemma Invariant.finished (h : Invariant process chain bench) (rests : bench.Rests process)
    (listens : bench.dock.around.output.closed = false) : bench.dock.Finished process chain := by
  obtain ⟨hq, idle, -⟩ := h.idle rests
  obtain ⟨taken, transcript, htaken⟩ := h.transcript
  rw [hq, List.append_nil] at htaken
  obtain rfl := htaken
  have received := (h.complete rests).received listens
  have nothing : bench.books.work = 0 := by
    rcases idle with hp | hp <;> simp [books, Processor.books, Processor.work, hp, hq]
  exact transcript.finished h.balanced rfl rfl idle received.symm nothing

end Bench

end Conveyor
