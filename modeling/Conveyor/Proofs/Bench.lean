import Conveyor.Proofs.Dock
import Conveyor.Proofs.Processor.Post
import Conveyor.Proofs.Runs
import Conveyor.Proofs.Stage

/-!
# Benches

A bench is a bound processor at its dock, together with the reports of its worker. The worker and
the users move in any order, and a shutdown may be asked for at any time. The invariant of a bench
(`Bench.Invariant`) is kept by all of them.
-/

namespace Conveyor

/-- A processor at its dock. -/
structure Bench (σ : Type) where
  processor : Processor σ
  dock : Dock
  /-- What the worker has reported, the oldest report first. -/
  journal : List (Report σ) := []

/-- What can go on at a bench: a user at the dock does something, the worker moves, or the owner asks
for a shutdown. -/
inductive Bench.Event where
  | user (e : Dock.Event)
  | work
  | close
deriving DecidableEq

namespace Bench

variable {σ : Type}

/-! ### Events -/

/-- The bench after an event, if the event can take place. -/
def step (process : Behaviour σ) (bench : Bench σ) : Event → Option (Bench σ)
  | .user e => (bench.dock.step e).map fun dock => { bench with dock }
  | .work   =>
    (bench.processor.step process bench.dock.around).map fun (processor, around) =>
      { processor, dock := { bench.dock with around }
        journal := bench.journal ++ bench.processor.report process bench.dock.around }
  | .close  => some { bench with processor := bench.processor.close }

/-- The bench after a sequence of events, if each of them can take place. -/
def run (process : Behaviour σ) (bench : Bench σ) (events : List Event) : Option (Bench σ) :=
  runFrom (step process) bench events

/-- A bench whose processor has just bound the input. -/
structure Opening (bench : Bench σ) : Prop where
  bound : ∃ p : Processor σ, p.closing = false ∧ p.consume = (.ok (), bench.processor)
  dock : bench.dock.Opening
  output : ∃ capacity, bench.dock.around.output = .new capacity
  journal : bench.journal = []

/-- All results that the worker made, the oldest first. -/
def results (bench : Bench σ) : List Transaction := Report.results bench.journal

/-- The books of a bench. -/
def books (bench : Bench σ) : Books :=
  bench.processor.books bench.dock.around
    { work := 0
      goods := replies bench.dock.held
      awaited := 0
      accepted := replies bench.dock.accepted
      emitted := replies bench.results
      ledger := {} }

variable {process : Behaviour σ} {chain : List σ} {bench bench' : Bench σ} {e : Event}

lemma Opening.waiting (h : bench.Opening) :
    bench.processor.phase = .waiting ∧ bench.processor.closing = false := by
  obtain ⟨p, hc, hp⟩ := h.bound
  unfold Processor.consume at hp
  split at hp
  next =>
    obtain ⟨-, hp⟩ := Prod.mk.inj hp
    rw [← hp]
    exact ⟨rfl, hc⟩
  all_goals cases (Prod.mk.inj hp).1

lemma books_eq (bench : Bench σ) :
    bench.books = bench.dock.books
      { work := bench.processor.work
        goods := 0
        awaited := bench.processor.awaited
        accepted := 0
        emitted := replies bench.results
        ledger := {} } := by
  ext1 <;> simp [books, Processor.books, Dock.books, Multiset.add_comm]

/-- A move of the worker, with its report. -/
lemma move_of_work (h : bench.step process .work = some bench') :
    ∃ new, Processor.Move process bench.processor bench.dock.around new bench'.processor
        bench'.dock.around ∧
      bench'.dock = { bench.dock with around := bench'.dock.around } ∧
      bench'.journal = bench.journal ++ new := by
  obtain ⟨⟨p, around⟩, hp, rfl⟩ := Option.map_eq_some_iff.mp h
  exact ⟨_, .of_step hp, rfl, rfl⟩

/-! ### The invariant -/

/-- What holds of a bench at any time. -/
structure Invariant (process : Behaviour σ) (chain : List σ) (bench : Bench σ) : Prop where
  balanced : bench.books.Balanced
  /-- The worker takes the accepted transactions in their order. -/
  transcript : ∃ taken,
    bench.processor.Transcript process bench.dock.around.ledger.settled chain taken
        bench.journal ∧
      taken ++ bench.dock.around.input.queue = bench.dock.accepted
  /-- The consumer receives the results in their order. -/
  stream : bench.dock.received ++ bench.dock.around.output.queue <+: bench.results
  /-- As long as the consumer is there, no result is lost. -/
  whole : bench.dock.around.output.closed = false →
    bench.dock.received ++ bench.dock.around.output.queue = bench.results
  room : 0 < bench.dock.around.output.capacity
  bound : bench.processor.phase ≠ .idle ∧ bench.processor.phase ≠ .closed
  closing : bench.processor.closing = true → bench.dock.around.input.closed = true
  ended : bench.processor.phase = .ended →
    bench.dock.around.input.closed = true ∧ bench.dock.around.input.queue = []

/-- The worker of a bench is at its post. -/
lemma Invariant.post (h : Invariant process chain bench) :
    bench.processor.Post process chain bench.dock.around bench.journal bench.dock.accepted :=
  ⟨h.transcript, h.bound, h.closing, h.ended⟩

lemma Opening.start (h : bench.Opening) : Invariant process bench.processor.chain bench := by
  obtain ⟨hp, hc⟩ := h.waiting
  obtain ⟨capacity, ho⟩ := h.output
  have none : bench.results = [] := by rw [results, h.journal]; rfl
  have post : bench.processor.Post process bench.processor.chain bench.dock.around bench.journal
      bench.dock.accepted := by
    rw [h.journal, h.dock.accepted]
    exact .of_waiting hp hc
  refine ⟨?_, post.transcript, ?_, ?_, ?_, post.bound, post.closing, post.ended⟩
  · rw [books_eq]
    refine h.dock.balanced ?_ rfl ?_ ?_
    · simp [Processor.work, hp]
    · simp [Processor.awaited, hp]
    · simp [none]
  · simp [h.dock.received, ho, Channel.new]
  · simp [h.dock.received, ho, Channel.new, none]
  · rw [ho]
    exact Nat.lt_of_lt_of_le Nat.one_pos (Nat.le_max_right capacity 1)

lemma Invariant.user (h : Invariant process chain bench) {e : Dock.Event} {dock : Dock}
    (hd : bench.dock.step e = some dock) : Invariant process chain { bench with dock } := by
  have steps : Books.Steps bench.books (books { bench with dock }) := by
    rw [books_eq, books_eq]
    exact Dock.books_of_step hd
  obtain ⟨-, new, haccepted, hinput, spent⟩ := Dock.input_of_step hd
  obtain ⟨hcapacity, hstream, hwhole⟩ := Dock.output_of_step hd
  have post : bench.processor.Post process chain dock.around bench.journal dock.accepted := by
    rw [haccepted]
    refine h.post.around steps.settled_grows (by rw [hinput]) fun closed => ?_
    exact ⟨by rw [hinput]; exact closed, spent (.inl closed)⟩
  refine ⟨h.balanced.steps steps, post.transcript, ?_, ?_, ?_, post.bound, post.closing, post.ended⟩
  · exact hstream.trans h.stream
  · intro closed
    obtain ⟨hclosed, heq⟩ := hwhole closed
    exact heq.trans (h.whole hclosed)
  · exact Nat.lt_of_lt_of_eq h.room hcapacity.symm

lemma Invariant.books_work (h : Invariant process chain bench)
    (he : bench.step process .work = some bench') : Books.Steps bench.books bench'.books := by
  obtain ⟨new, m, hdock, hjournal⟩ := move_of_work he
  have hresults : bench'.results = bench.results ++ Report.results new := by
    rw [results, results, hjournal, Report.results_append]
  have after : bench'.books = bench'.processor.books bench'.dock.around _ := rfl
  rw [after, hdock, hresults, replies_append, Multiset.add_comm]
  exact m.books _ h.balanced

lemma Invariant.work (h : Invariant process chain bench)
    (he : bench.step process .work = some bench') : Invariant process chain bench' := by
  obtain ⟨new, m, hdock, hjournal⟩ := move_of_work he
  have hresults : bench'.results = bench.results ++ Report.results new := by
    rw [results, results, hjournal, Report.results_append]
  obtain ⟨haccepted, hreceived⟩ : bench'.dock.accepted = bench.dock.accepted ∧
      bench'.dock.received = bench.dock.received := by rw [hdock]; exact ⟨rfl, rfl⟩
  have post : bench'.processor.Post process chain bench'.dock.around bench'.journal
      bench'.dock.accepted := by
    rw [hjournal, haccepted]
    exact h.post.move m (Processor.reads_of_books h.balanced)
  obtain ⟨stream, whole⟩ := m.stream h.stream h.whole
  rw [← hresults, ← hreceived] at stream whole
  exact ⟨h.balanced.steps (h.books_work he), post.transcript, stream, whole,
    Nat.lt_of_lt_of_eq h.room m.output.1.symm, post.bound, post.closing, post.ended⟩

/-- The invariant is kept by every event. -/
theorem Invariant.step (h : Invariant process chain bench)
    (he : bench.step process e = some bench') : Invariant process chain bench' := by
  cases e with
  | user e =>
    obtain ⟨dock, hd, rfl⟩ := Option.map_eq_some_iff.mp he
    exact h.user hd
  | work => exact h.work he
  | close =>
    cases he
    obtain ⟨transcript, bound, closing, ended⟩ := h.post.close
    have books : books { bench with processor := bench.processor.close } = bench.books := by
      simp [Bench.books, Processor.books, results]
    exact ⟨books ▸ h.balanced, transcript, h.stream, h.whole, h.room, bound, closing, ended⟩

/-- The invariant holds of every bench that can be reached. -/
theorem Opening.invariant (h : bench.Opening) {events : List Event}
    (hr : bench.run process events = some bench') :
    Invariant process bench.processor.chain bench' :=
  runFrom_induction (fun inv he => inv.step he) h.start hr

/-! ### A small bench -/

/-- A processor with a fickle stage, after it has bound the input of an empty dock. -/
def small : Bench Nat where
  processor := (Processor.consume { chain := [0], metered := false }).2
  dock :=
    { around := { input := .new 3, fed := true, output := .new 1, ledger := {}, metrics := {} } }

lemma opening_small : small.Opening where
  bound := ⟨{ chain := [0], metered := false }, rfl, rfl⟩
  dock := by constructor <;> simp [small, Channel.new]
  output := ⟨1, rfl⟩
  journal := rfl

/-- Three transactions go through the small bench. While the second one waits a shutdown is asked
for; one result of the first one is answered, and the other one is dropped. -/
def course : List Event :=
  [.user (.send .empty), .user (.send .empty), .user (.send .empty), .work, .work, .work,
    .user .receive, .work, .work, .close, .user (.answer ⟨.empty, 3⟩ .ack), .work, .work,
    .user .receive, .user (.discard ⟨.empty, 4⟩), .work, .work, .work, .work, .work, .work, .work,
    .work]

end Bench

end Conveyor
