import Conveyor.Proofs.Bench.Progress
import Conveyor.Proofs.Tandem

/-!
# Two workers in series come to rest

As long as nobody sends, the two workers of a tandem and a consumer that receives the results and answers
or drops them cannot go on forever (`Tandem.wellFounded_drives`). When none of them can do anything, both
workers wait for a transaction with an empty input, or have ended (`Tandem.Invariant.idle`).
-/

namespace Conveyor.Tandem

variable {σ : Type} {process : Behaviour σ} {chain chain' : List σ} {tandem tandem' : Tandem σ}
  {e : Event}

/-! ### What is left to be done -/

/-- The events that carry transactions on: one of the workers moves, or the consumer receives results and
answers or drops them. -/
def Event.drives : Event → Bool
  | .user e        => Bench.Event.drives (.user e)
  | .front | .back => true
  | _              => false

/-- What is left to be done by the front, and by the back with what it was given. -/
def outlook (tandem : Tandem σ) : (ℕ × ℕ × ℕ) × ℕ × ℕ × ℕ :=
  (tandem.front.prospect tandem.aroundFront 0,
    tandem.back.prospect tandem.aroundBack tandem.dock.held.length)

/-- Less is left for the front, or the same and less for the back. -/
abbrev Less : (ℕ × ℕ × ℕ) × ℕ × ℕ × ℕ → (ℕ × ℕ × ℕ) × ℕ × ℕ × ℕ → Prop :=
  Prod.Lex Bench.Less Bench.Less

/-- Everything that the back takes leaves less for the front, because its results count there too. -/
lemma less_of_back {p : Processor σ} {s : Surroundings} {reports : List (Report σ)}
    (m : Processor.Move process tandem.back tandem.aroundBack reports p s) :
    Less (tandem.afterBack p s reports).outlook tandem.outlook := by
  rcases m.input_queue with same | fewer
  · have front : tandem.front.prospect (tandem.afterBack p s reports).aroundFront 0 =
        tandem.front.prospect tandem.aroundFront 0 := by
      have middle : s.input.queue = tandem.middle.queue := same
      simp [Processor.prospect, aroundFront, afterBack, middle]
    rw [outlook, outlook]
    change Less (tandem.front.prospect _ 0, _) _
    rw [front]
    exact Prod.Lex.right _ (m.less tandem.dock.held.length)
  · apply Prod.Lex.left
    apply Bench.Less.of_thd
    · exact Nat.le_refl _
    · exact Nat.le_refl _
    · have middle : s.input.queue.length < tandem.middle.queue.length := fewer
      simp [Processor.prospect, aroundFront, afterBack, middle]

lemma less_of_drives (hd : e.drives) (he : tandem.step process e = some tandem') :
    Less tandem'.outlook tandem.outlook := by
  cases e with
  | user e =>
    obtain ⟨dock, hdock, rfl⟩ := Option.map_eq_some_iff.mp he
    obtain ⟨input, fewer⟩ := Bench.consumer_less hd hdock
    have front : tandem.front.prospect (aroundFront { tandem with dock }) 0 =
        tandem.front.prospect tandem.aroundFront 0 := by
      simp [Processor.prospect, aroundFront, input]
    rw [outlook, outlook, front]
    apply Prod.Lex.right
    apply Bench.Less.of_thd
    · exact Nat.le_refl _
    · exact Nat.le_refl _
    · simp only [Processor.prospect, aroundBack]
      omega
  | front =>
    obtain ⟨⟨p, s⟩, hp, rfl⟩ := Option.map_eq_some_iff.mp he
    exact Prod.Lex.left _ _ ((Processor.Move.of_step hp).less 0)
  | back =>
    obtain ⟨⟨p, s⟩, hp, rfl⟩ := Option.map_eq_some_iff.mp he
    exact less_of_back (.of_step hp)
  | closeFront | closeBack => cases hd

/-- The workers and the consumer cannot go on forever by themselves. -/
lemma wellFounded_drives (process : Behaviour σ) :
    WellFounded fun tandem' tandem : Tandem σ =>
      ∃ e : Event, e.drives ∧ tandem.step process e = some tandem' := by
  have less : WellFounded Less := WellFounded.prod_lex Bench.Less.wellFounded Bench.Less.wellFounded
  refine Subrelation.wf (r := InvImage Less outlook) ?_ (InvImage.wf outlook less)
  rintro tandem' tandem ⟨e, hd, he⟩
  exact less_of_drives hd he

/-! ### Rest -/

/-- Neither the workers nor the consumer can do anything. -/
def Rests (process : Behaviour σ) (tandem : Tandem σ) : Prop :=
  ∀ e : Event, e.drives → tandem.step process e = none

/-- The workers cannot move, and there is nothing for the consumer. -/
lemma rests_iff :
    tandem.Rests process ↔ tandem.front.step process tandem.aroundFront = none ∧
      tandem.back.step process tandem.aroundBack = none ∧
      tandem.dock.around.output.queue = [] ∧ tandem.dock.held = [] := by
  constructor
  · intro h
    refine ⟨Option.map_eq_none_iff.mp (h .front rfl), Option.map_eq_none_iff.mp (h .back rfl),
      Bench.consumer_rests_iff.mp fun e hd => ?_⟩
    exact Option.map_eq_none_iff.mp (h (.user e) hd)
  · rintro ⟨front, back, consumer⟩ e hd
    cases e with
    | front => exact Option.map_eq_none_iff.mpr front
    | back => exact Option.map_eq_none_iff.mpr back
    | closeFront | closeBack => cases hd
    | user e => exact Option.map_eq_none_iff.mpr (Bench.consumer_rests_iff.mpr consumer e hd)

/-- The results of the front are other ones than those of the back. -/
lemma Invariant.disjoint (h : Invariant process chain chain' tandem) {id : Nat}
    (hid : id ∈ replies tandem.passed) : id ∉ replies tandem.results := fun hid' =>
  have distinct : (replies tandem.passed + replies tandem.results).Nodup :=
    h.balanced.nodup_emitted
  Multiset.disjoint_left.mp (Multiset.nodup_add.mp distinct).2.2 hid hid'

/-- A tandem that is at rest has dealt with its whole input. -/
lemma Invariant.idle (h : Invariant process chain chain' tandem) (rests : tandem.Rests process) :
    (tandem.dock.around.input.queue = [] ∧
      (tandem.front.phase = .waiting ∨ tandem.front.phase = .ended)) ∧
    tandem.middle.queue = [] ∧ (tandem.back.phase = .waiting ∨ tandem.back.phase = .ended) := by
  obtain ⟨front, back, output, held⟩ := rests_iff.mp rests
  have room {c : Channel} (positive : 0 < c.capacity) (empty : c.queue = [])
      (hc : c.closed = false) : c.hasRoom = true := by
    simp [Channel.hasRoom, hc, empty, positive]
  -- a result that has not come to an end is with the back
  have waits {id : Nat} (awaited : id ∈ tandem.books.awaited)
      (running : id ∉ tandem.dock.around.ledger.ended) : id ∈ tandem.back.charge tandem.aroundBack := by
    have goods := h.balanced.mem_goods (h.balanced.awaited_emitted awaited) running
    simpa [books, Dock.books, output, held] using goods
  obtain ⟨middle, idle', -⟩ := h.back.idle back (room h.room.2 output) fun id hid => by
    by_contra running
    obtain ⟨taken, transcript, -⟩ := h.back.transcript
    obtain ⟨result, hresult, rfl⟩ := transcript.results_of_awaited hid
    have passed := h.back.mem_inputs (waits (Multiset.mem_add.mpr (.inr hid)) running)
    exact h.disjoint passed (mem_replies.mpr ⟨result, hresult, rfl⟩)
  have middle : tandem.middle.queue = [] := middle
  have nothing : tandem.back.charge tandem.aroundBack = 0 := by
    rcases idle' with hp | hp <;> simp [Processor.charge, Processor.work, aroundBack, hp, middle]
  obtain ⟨input, idle, -⟩ := h.front.idle front (room h.room.1 middle) fun id hid => by
    by_contra running
    have charged := waits (Multiset.mem_add.mpr (.inl hid)) running
    rw [nothing] at charged
    exact Multiset.notMem_zero id charged
  exact ⟨⟨input, idle⟩, middle, idle'⟩

end Conveyor.Tandem
