import Conveyor.Proofs.Bench
import Mathlib.Tactic.Abel

/-!
# Two processors in series

In a tandem the output of one processor, the front, is the input of another one, the back. For the front
the back is a consumer, and for the back the front is a producer. They and the users move in any order,
and the owner may shut them down, the back only after the front has ended. The invariant of a tandem
(`Tandem.Invariant`) is kept by all of them.
-/

namespace Conveyor

/-- Two processors in series at a dock. -/
structure Tandem (σ : Type) where
  front : Processor σ
  /-- The output of the front and input of the back. -/
  middle : Channel
  back : Processor σ
  dock : Dock
  /-- What the worker of the front has reported, the oldest report first. -/
  frontJournal : List (Report σ) := []
  /-- What the worker of the back has reported. -/
  backJournal : List (Report σ) := []

/-- What can go on at a tandem: a user at the dock does something, one of the workers moves, or the
owner asks one of the processors for a shutdown. -/
inductive Tandem.Event where
  | user (e : Dock.Event)
  | front
  | back
  | closeFront
  | closeBack
deriving DecidableEq

namespace Tandem

variable {σ : Type}

/-! ### Events -/

/-- What lies around the front. -/
def aroundFront (tandem : Tandem σ) : Surroundings :=
  { tandem.dock.around with output := tandem.middle }

/-- What lies around the back, to which nobody but the front can send. -/
def aroundBack (tandem : Tandem σ) : Surroundings :=
  { tandem.dock.around with input := tandem.middle, fed := tandem.front.holdsOutput }

/-- The tandem after a move of the worker of the front. -/
def afterFront (tandem : Tandem σ) (front : Processor σ) (s : Surroundings)
    (reports : List (Report σ)) : Tandem σ :=
  { tandem with
    front
    middle := s.output
    dock := { tandem.dock with around := { s with output := tandem.dock.around.output } }
    frontJournal := tandem.frontJournal ++ reports }

/-- The tandem after a move of the worker of the back. -/
def afterBack (tandem : Tandem σ) (back : Processor σ) (s : Surroundings)
    (reports : List (Report σ)) : Tandem σ :=
  { tandem with
    back
    middle := s.input
    dock := { tandem.dock with
      around := { s with input := tandem.dock.around.input, fed := tandem.dock.around.fed } }
    backJournal := tandem.backJournal ++ reports }

/-- The tandem after an event, if the event can take place. -/
def step (process : Behaviour σ) (tandem : Tandem σ) : Event → Option (Tandem σ)
  | .user e     => (tandem.dock.step e).map fun dock => { tandem with dock }
  | .front      =>
    (tandem.front.step process tandem.aroundFront).map fun (front, s) =>
      tandem.afterFront front s (tandem.front.report process tandem.aroundFront)
  | .back       =>
    (tandem.back.step process tandem.aroundBack).map fun (back, s) =>
      tandem.afterBack back s (tandem.back.report process tandem.aroundBack)
  | .closeFront => some { tandem with front := tandem.front.close }
  | .closeBack  => some { tandem with back := tandem.back.close }

/-- The tandem after a sequence of events, if each of them can take place. -/
def run (process : Behaviour σ) (tandem : Tandem σ) (events : List Event) : Option (Tandem σ) :=
  runFrom (step process) tandem events

/-- A tandem whose processors have just bound their inputs. -/
structure Opening (tandem : Tandem σ) : Prop where
  front : ∃ p : Processor σ, p.closing = false ∧ p.consume = (.ok (), tandem.front)
  back : ∃ p : Processor σ, p.closing = false ∧ p.stopRequested = false ∧
    p.consume = (.ok (), tandem.back)
  dock : tandem.dock.Opening
  middle : ∃ capacity, tandem.middle = .new capacity
  output : ∃ capacity, tandem.dock.around.output = .new capacity
  journals : tandem.frontJournal = [] ∧ tandem.backJournal = []

/-- Whether the back is shut down too early, while the front may still send. -/
def Event.cuts (tandem : Tandem σ) : Event → Bool
  | .closeBack => tandem.front.holdsOutput
  | _          => false

/-! ### Books -/

/-- The results that the front has made, the oldest first. -/
def passed (tandem : Tandem σ) : List Transaction := Report.results tandem.frontJournal

/-- The results that the back has made, the oldest first. -/
def results (tandem : Tandem σ) : List Transaction := Report.results tandem.backJournal

/-- The books of a tandem. What the back has to answer are results of the front. -/
def books (tandem : Tandem σ) : Books :=
  tandem.dock.books
    { work := tandem.front.work
      goods := tandem.back.charge tandem.aroundBack
      awaited := tandem.front.awaited + tandem.back.awaited
      accepted := 0
      emitted := replies tandem.passed + replies tandem.results
      ledger := {} }

lemma books_front (tandem : Tandem σ) :
    tandem.books = tandem.front.books tandem.aroundFront
      { work := 0
        goods := replies tandem.dock.around.output.queue + (replies tandem.dock.held +
          tandem.back.work)
        awaited := tandem.back.awaited
        accepted := replies tandem.dock.accepted
        emitted := replies tandem.passed + replies tandem.results
        ledger := {} } := by
  ext1 <;> simp only [books, Dock.books, Processor.books, Processor.charge, aroundFront,
    aroundBack] <;> abel

lemma books_back (tandem : Tandem σ) :
    tandem.books = tandem.back.booksAs true tandem.aroundBack
      { work := replies tandem.dock.around.input.queue + tandem.front.work
        goods := replies tandem.dock.held
        awaited := tandem.front.awaited
        accepted := replies tandem.dock.accepted
        emitted := replies tandem.passed + replies tandem.results
        ledger := {} } := by
  ext1 <;> simp only [books, Dock.books, Processor.booksAs, aroundBack, if_true] <;> abel

/-! ### The invariant -/

variable {process : Behaviour σ} {chain chain' : List σ} {tandem tandem' : Tandem σ} {e : Event}

/-- What holds of a tandem at any time, if the back is not shut down too early. -/
structure Invariant (process : Behaviour σ) (chain chain' : List σ) (tandem : Tandem σ) : Prop where
  balanced : tandem.books.Balanced
  front : tandem.front.Post process chain tandem.aroundFront tandem.frontJournal tandem.dock.accepted
  /-- All results of the front reach the back. -/
  back : tandem.back.Post process chain' tandem.aroundBack tandem.backJournal tandem.passed
  stream : tandem.dock.received ++ tandem.dock.around.output.queue <+: tandem.results
  whole : tandem.dock.around.output.closed = false →
    tandem.dock.received ++ tandem.dock.around.output.queue = tandem.results
  room : 0 < tandem.middle.capacity ∧ 0 < tandem.dock.around.output.capacity
  passage : tandem.middle.closed = true ∨ tandem.back.stopRequested = true →
    tandem.front.phase = .ended

lemma Opening.waiting (h : tandem.Opening) :
    (tandem.front.phase = .waiting ∧ tandem.front.closing = false) ∧
      tandem.back.phase = .waiting ∧ tandem.back.closing = false ∧
      tandem.back.stopRequested = false := by
  obtain ⟨p, hc, hp⟩ := h.front
  obtain ⟨p', hc', hs', hp'⟩ := h.back
  have bound {p q : Processor σ} (hp : p.consume = (.ok (), q)) :
      q = { p with phase := .waiting } := by
    unfold Processor.consume at hp
    split at hp
    next => exact (Prod.mk.inj hp).2.symm
    all_goals cases (Prod.mk.inj hp).1
  rw [bound hp, bound hp']
  exact ⟨⟨rfl, hc⟩, rfl, hc', hs'⟩

lemma Opening.start (h : tandem.Opening) :
    Invariant process tandem.front.chain tandem.back.chain tandem := by
  obtain ⟨⟨hp, hc⟩, hp', hc', asked⟩ := h.waiting
  obtain ⟨capacity, hm⟩ := h.middle
  obtain ⟨capacity', ho⟩ := h.output
  obtain ⟨hf, hb⟩ := h.journals
  have positive (capacity : Nat) : 0 < (Channel.new capacity).capacity :=
    Nat.lt_of_lt_of_le Nat.one_pos (Nat.le_max_right capacity 1)
  have passed : tandem.passed = [] := by rw [Tandem.passed, hf]; rfl
  have results : tandem.results = [] := by rw [Tandem.results, hb]; rfl
  constructor
  · refine h.dock.balanced ?_ ?_ ?_ ?_
    · simp [Processor.work, hp]
    · simp [Processor.charge, Processor.work, hp', aroundBack, hm, Channel.new]
    · simp [Processor.awaited, hp, hp']
    · simp [passed, results]
  · rw [hf, h.dock.accepted]
    exact .of_waiting hp hc
  · have empty : tandem.passed = tandem.aroundBack.input.queue := by
      rw [passed, aroundBack, hm]
      rfl
    rw [hb, empty]
    exact .of_waiting hp' hc'
  · simp [h.dock.received, ho, Channel.new]
  · simp [h.dock.received, ho, Channel.new, results]
  · rw [hm, ho]
    exact ⟨positive capacity, positive capacity'⟩
  · simp [hm, Channel.new, asked]

lemma Invariant.user (h : Invariant process chain chain' tandem) {e : Dock.Event} {dock : Dock}
    (hd : tandem.dock.step e = some dock) :
    Invariant process chain chain' { tandem with dock } := by
  have steps : Books.Steps tandem.books (books { tandem with dock }) := Dock.books_of_step hd
  obtain ⟨-, new, haccepted, hinput, spent⟩ := Dock.input_of_step hd
  obtain ⟨hcapacity, hstream, hwhole⟩ := Dock.output_of_step hd
  have log := steps.settled_grows
  refine ⟨h.balanced.steps steps, ?_, ?_, hstream.trans h.stream, fun closed => ?_, ?_, h.passage⟩
  · change Processor.Post process chain tandem.front _ tandem.frontJournal dock.accepted
    rw [haccepted]
    refine h.front.around log (by simp only [aroundFront, hinput]) fun closed => ?_
    exact ⟨by simpa only [aroundFront, hinput] using closed, spent (.inl closed)⟩
  · exact h.back.elsewhere log rfl
  · obtain ⟨hclosed, heq⟩ := hwhole closed
    exact heq.trans (h.whole hclosed)
  · exact ⟨h.room.1, Nat.lt_of_lt_of_eq h.room.2 hcapacity.symm⟩

section Move

variable {p : Processor σ} {s : Surroundings} {new : List (Report σ)}

lemma passed_afterFront :
    (tandem.afterFront p s new).passed = tandem.passed ++ Report.results new :=
  Report.results_append _ _

lemma results_afterBack :
    (tandem.afterBack p s new).results = tandem.results ++ Report.results new :=
  Report.results_append _ _

lemma books_of_front (h : tandem.books.Balanced)
    (m : Processor.Move process tandem.front tandem.aroundFront new p s) :
    Books.Steps tandem.books (tandem.afterFront p s new).books := by
  have emitted : replies (tandem.afterFront p s new).passed + replies tandem.results =
      replies (Report.results new) + (replies tandem.passed + replies tandem.results) := by
    rw [passed_afterFront, replies_append]
    abel
  rw [books_front] at h
  refine (Books.Steps.of_eq tandem.books_front).trans ((m.books _ h).trans (Books.Steps.of_eq ?_))
  rw [books_front, ← emitted]
  rfl

lemma reads_of_back (h : tandem.books.Balanced) : tandem.back.Reads tandem.aroundBack := by
  refine Processor.reads_of_awaited h rfl (Multiset.subset_of_le ?_)
  exact Multiset.le_add_left _ _

lemma books_of_back (h : tandem.books.Balanced)
    (m : Processor.Move process tandem.back tandem.aroundBack new p s) :
    Books.Steps tandem.books (tandem.afterBack p s new).books := by
  have emitted : replies tandem.passed + replies (tandem.afterBack p s new).results =
      replies (Report.results new) + (replies tandem.passed + replies tandem.results) := by
    rw [results_afterBack, replies_append]
    abel
  refine (Books.Steps.of_eq tandem.books_back).trans
    ((m.books_as (reads_of_back h) true _).trans (Books.Steps.of_eq ?_))
  rw [books_back, ← emitted]
  rfl

lemma Invariant.front_move (h : Invariant process chain chain' tandem)
    (m : Processor.Move process tandem.front tandem.aroundFront new p s) :
    Invariant process chain chain' (tandem.afterFront p s new) := by
  have steps := books_of_front h.balanced m
  have reads : tandem.front.Reads tandem.aroundFront :=
    Processor.reads_of_awaited h.balanced rfl (Multiset.subset_of_le (Multiset.le_add_right _ _))
  obtain ⟨running, -⟩ := m.frame
  obtain ⟨hcapacity, hclosed, hopen, -⟩ := m.output
  have listens : tandem.middle.closed = false :=
    Bool.eq_false_iff.mpr fun closed => running (h.passage (.inl closed))
  constructor
  · exact h.balanced.steps steps
  · exact h.front.move m reads
  · rw [passed_afterFront]
    refine h.back.around steps.settled_grows (hopen listens) fun closed => ?_
    exact absurd (h.passage (.inl closed)) running
  · exact h.stream
  · exact h.whole
  · exact ⟨Nat.lt_of_lt_of_eq h.room.1 hcapacity.symm, h.room.2⟩
  · rintro (closed | asked)
    · exact absurd (h.passage (.inl (hclosed.symm.trans closed))) running
    · exact absurd (h.passage (.inr asked)) running

lemma Invariant.front_ended (h : Invariant process chain chain' tandem)
    (gone : tandem.front.holdsOutput = false) : tandem.front.phase = .ended := by
  have bound := h.front.bound.2
  unfold Processor.holdsOutput at gone
  split at gone
  next ended => exact ended
  next closed => exact absurd closed bound
  next => cases gone

lemma Invariant.back_move (h : Invariant process chain chain' tandem)
    (m : Processor.Move process tandem.back tandem.aroundBack new p s) :
    Invariant process chain chain' (tandem.afterBack p s new) := by
  have steps := books_of_back h.balanced m
  obtain ⟨-, hstop, hfed, hcapacity⟩ := m.frame
  obtain ⟨hcapacity', -⟩ := m.output
  obtain ⟨stream, whole⟩ := m.stream h.stream h.whole
  have around : (tandem.afterBack p s new).aroundBack = s := by
    have fed : s.fed = tandem.front.holdsOutput := hfed
    simp only [afterBack, aroundBack, ← fed]
  constructor
  · exact h.balanced.steps steps
  · exact h.front.elsewhere steps.settled_grows rfl
  · rw [around]
    exact h.back.move m (reads_of_back h.balanced)
  · rw [results_afterBack]
    exact stream
  · rw [results_afterBack]
    exact whole
  · exact ⟨Nat.lt_of_lt_of_eq h.room.1 hcapacity.symm, Nat.lt_of_lt_of_eq h.room.2 hcapacity'.symm⟩
  · rintro (closed | asked)
    · rcases m.input_closed closed with was | unfed | asked
      · exact h.passage (.inl was)
      · exact h.front_ended unfed
      · exact h.passage (.inr asked)
    · exact h.passage (.inr (hstop.symm.trans asked))

end Move

lemma Invariant.close_front (h : Invariant process chain chain' tandem) :
    Invariant process chain chain' { tandem with front := tandem.front.close } := by
  have books : books { tandem with front := tandem.front.close } = tandem.books := by
    simp [Tandem.books, aroundBack, Processor.charge, passed, results]
  have phase := Processor.phase_close h.front.bound.1
  refine ⟨books ▸ h.balanced, h.front.close, h.back.elsewhere List.prefix_rfl rfl, h.stream, h.whole,
    h.room, fun closed => ?_⟩
  exact phase.trans (h.passage closed)

lemma Invariant.close_back (h : Invariant process chain chain' tandem)
    (ended : tandem.front.phase = .ended) :
    Invariant process chain chain' { tandem with back := tandem.back.close } := by
  have books : books { tandem with back := tandem.back.close } = tandem.books := by
    simp [Tandem.books, aroundBack, Processor.charge, passed, results]
  exact ⟨books ▸ h.balanced, h.front, h.back.close, h.stream, h.whole, h.room, fun _ => ended⟩

/-- The invariant is kept by every event that does not cut the front off. -/
theorem Invariant.step (h : Invariant process chain chain' tandem) (uncut : e.cuts tandem = false)
    (he : tandem.step process e = some tandem') : Invariant process chain chain' tandem' := by
  cases e with
  | user e =>
    obtain ⟨dock, hd, rfl⟩ := Option.map_eq_some_iff.mp he
    exact h.user hd
  | front =>
    obtain ⟨⟨p, s⟩, hp, rfl⟩ := Option.map_eq_some_iff.mp he
    exact h.front_move (.of_step hp)
  | back =>
    obtain ⟨⟨p, s⟩, hp, rfl⟩ := Option.map_eq_some_iff.mp he
    exact h.back_move (.of_step hp)
  | closeFront =>
    cases he
    exact h.close_front
  | closeBack =>
    cases he
    exact h.close_back (h.front_ended uncut)

end Tandem

end Conveyor
