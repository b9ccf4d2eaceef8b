import Conveyor.Proofs.Bench

/-!
# The worker comes to rest

As long as nobody sends, the worker and a consumer that receives the results and answers or drops
them cannot go on forever (`Bench.wellFounded_drives`). When neither of them can do anything, the
worker waits for a transaction with an empty input, or it has ended (`Bench.Invariant.idle`).
-/

namespace Conveyor

variable {σ : Type} {process : Behaviour σ}

/-! ### What is left to be done -/

namespace Processor

/-- How many transactions the worker is at. -/
def Phase.current : Phase → Nat
  | .running _ | .emitting _ _ _ | .joining _ _ _ _ => 1
  | _                                               => 0

/-- How many parts of the treatment of the current transaction are to come. -/
def Phase.ahead : Phase → Nat
  | .running _       => 2
  | .emitting _ _ _  => 1
  | _                => 0

/-- What is left to be done in the current part. A result that is made has to be received and
answered too. -/
def Phase.rest : Phase → Nat
  | .emitting _ later _        => 3 * later.length
  | .joining _ unread watched _ => 2 * unread.length + watched.length
  | _                          => 0

/-- Whether the worker still goes on after the transactions in its input. -/
def Phase.lasts : Phase → Nat
  | .ended => 0
  | _      => 1

end Processor

namespace Bench

/-- Smaller in the first number that differs. -/
abbrev Less : ℕ × ℕ × ℕ → ℕ × ℕ × ℕ → Prop := Prod.Lex (· < ·) (Prod.Lex (· < ·) (· < ·))

namespace Less

variable {m m' : ℕ × ℕ × ℕ}

lemma of_fst (h : m'.1 < m.1) : Less m' m := Prod.lex_def.mpr (.inl h)

lemma of_snd (h₁ : m'.1 ≤ m.1) (h₂ : m'.2.1 < m.2.1) : Less m' m := by
  rcases h₁.lt_or_eq with h₁ | h₁
  · exact of_fst h₁
  · exact Prod.lex_def.mpr (.inr ⟨h₁, Prod.lex_def.mpr (.inl h₂)⟩)

lemma of_thd (h₁ : m'.1 ≤ m.1) (h₂ : m'.2.1 ≤ m.2.1) (h₃ : m'.2.2 < m.2.2) : Less m' m := by
  rcases h₂.lt_or_eq with h₂ | h₂
  · exact of_snd h₁ h₂
  · rcases h₁.lt_or_eq with h₁ | h₁
    · exact of_fst h₁
    · exact Prod.lex_def.mpr (.inr ⟨h₁, Prod.lex_def.mpr (.inr ⟨h₂, h₃⟩)⟩)

lemma eq_or_less_of_le (h₁ : m'.1 ≤ m.1) (h₂ : m'.2.1 ≤ m.2.1) (h₃ : m'.2.2 ≤ m.2.2) :
    m' = m ∨ Less m' m := by
  rcases h₁.lt_or_eq with h₁ | e₁
  · exact .inr (of_fst h₁)
  · rcases h₂.lt_or_eq with h₂ | e₂
    · exact .inr (of_snd e₁.le h₂)
    · rcases h₃.lt_or_eq with h₃ | e₃
      · exact .inr (of_thd e₁.le e₂.le h₃)
      · exact .inl (Prod.ext e₁ (Prod.ext e₂ e₃))

lemma wellFounded : WellFounded Less :=
  WellFounded.prod_lex Nat.lt_wfRel.wf (WellFounded.prod_lex Nat.lt_wfRel.wf Nat.lt_wfRel.wf)

end Less

end Bench

namespace Processor

/-- What is left to be done for a worker: in the whole, for the current transaction, and for the current
part of its treatment, which includes the results in the output and those `beyond`. -/
def prospect (p : Processor σ) (s : Surroundings) (beyond : ℕ) : ℕ × ℕ × ℕ :=
  (2 * s.input.queue.length + p.phase.current + p.phase.lasts + (!p.closing).toNat, p.phase.ahead,
    p.phase.rest + 2 * s.output.queue.length + beyond)

/-- A worker gets on with every move. -/
lemma Move.less {p p' : Processor σ} {s s' : Surroundings} {reports : List (Report σ)}
    (m : Move process p s reports p' s') (beyond : ℕ) :
    Bench.Less (p'.prospect s' beyond) (p.prospect s beyond) := by
  simp only [prospect]
  cases m with
  | hear hp asked hc =>
    apply Bench.Less.of_fst
    simp [hp, hc]
  | take hp hq =>
    -- a transaction that waits counts twice, the current one only once
    apply Bench.Less.of_fst
    simp [hp, hq, Phase.current, Phase.lasts]
    omega
  | leave hp hq =>
    apply Bench.Less.of_fst
    simp [hp, hq, Phase.current, Phase.lasts, Channel.shut]
  | finish hp | answer hp =>
    apply Bench.Less.of_fst
    simp [hp, Phase.current, Phase.lasts]
  | fan hp | sent hp =>
    -- any number of messages may come out, but a part of the treatment is behind
    apply Bench.Less.of_snd
    · simp [hp, Phase.current, Phase.lasts]
    · simp [hp, Phase.ahead]
  | put hp | lose hp | watch hp | collect hp =>
    -- a message counts three times, the result in the output twice, and a path is looked at twice
    apply Bench.Less.of_thd
    · simp [hp, Phase.current, Phase.lasts]
    · simp [hp, Phase.ahead]
    · simp [hp, Phase.rest]
      try omega
  | collectWatched hp hf =>
    obtain ⟨hmem, -⟩ := Ledger.mem_of_firstSettled hf
    have shorter := List.length_erase_of_mem hmem
    have nonempty := List.length_pos_of_mem hmem
    apply Bench.Less.of_thd
    · simp [hp, Phase.current, Phase.lasts]
    · simp [hp, Phase.ahead]
    · simp only [hp, Phase.rest]
      omega

end Processor

namespace Bench

/-- What is left to be done, in the whole, for the current transaction, and for the current part of
its treatment. -/
def outlook (bench : Bench σ) : ℕ × ℕ × ℕ :=
  (2 * bench.dock.around.input.queue.length + bench.processor.phase.current +
      bench.processor.phase.lasts + (!bench.processor.closing).toNat,
    bench.processor.phase.ahead,
    bench.processor.phase.rest + 2 * bench.dock.around.output.queue.length +
      bench.dock.held.length)

/-- The events that carry transactions on: the worker moves, and the consumer receives results and
answers or drops them. -/
def Event.drives : Event → Bool
  | .work | .user .receive | .user (.answer _ _) | .user (.discard _) => true
  | _ => false

variable {chain : List σ} {bench bench' : Bench σ} {e : Event}

lemma less_of_work (he : bench.step process .work = some bench') :
    Less bench'.outlook bench.outlook := by
  obtain ⟨new, m, hdock, -⟩ := move_of_work he
  obtain ⟨p, dock, journal⟩ := bench'
  obtain ⟨around, held, accepted, received⟩ := dock
  cases hdock
  exact m.less bench.dock.held.length

/-- The consumer gets on with what it does, and leaves the input alone. -/
lemma consumer_less {dock dock' : Dock} {e : Dock.Event} (hd : Event.drives (.user e))
    (he : dock.step e = some dock') :
    dock'.around.input = dock.around.input ∧
      2 * dock'.around.output.queue.length + dock'.held.length <
        2 * dock.around.output.queue.length + dock.held.length := by
  cases e with
  | receive =>
    simp only [Dock.step] at he
    split at he
    next => cases he
    next t queue hq =>
      cases he
      refine ⟨rfl, ?_⟩
      simp [hq]
      omega
  | answer t | discard t =>
    simp only [Dock.step] at he
    split at he
    next ht =>
      cases he
      have shorter := List.length_erase_of_mem ht
      have nonempty := List.length_pos_of_mem ht
      refine ⟨rfl, ?_⟩
      simp only
      omega
    next => cases he
  | _ => cases hd

lemma less_of_drives (hd : e.drives) (he : bench.step process e = some bench') :
    Less bench'.outlook bench.outlook := by
  cases e with
  | work => exact less_of_work he
  | close => cases hd
  | user e =>
    obtain ⟨dock, hdock, rfl⟩ := Option.map_eq_some_iff.mp he
    obtain ⟨input, fewer⟩ := consumer_less hd hdock
    apply Less.of_thd
    · simp [outlook, input]
    · exact Nat.le_refl _
    · simp only [outlook]
      omega

/-- The worker and the consumer cannot go on forever by themselves. -/
lemma wellFounded_drives (process : Behaviour σ) :
    WellFounded fun bench' bench : Bench σ =>
      ∃ e : Event, e.drives ∧ bench.step process e = some bench' := by
  refine Subrelation.wf (r := InvImage Less outlook) ?_ (InvImage.wf outlook Less.wellFounded)
  rintro bench' bench ⟨e, hd, he⟩
  exact less_of_drives hd he

/-! ### Rest -/

/-- Neither the worker nor the consumer can do anything. -/
def Rests (process : Behaviour σ) (bench : Bench σ) : Prop :=
  ∀ e : Event, e.drives → bench.step process e = none

/-- The consumer can do nothing exactly if there is nothing for it. -/
lemma consumer_rests_iff {dock : Dock} :
    (∀ e : Dock.Event, Event.drives (.user e) → dock.step e = none) ↔
      dock.around.output.queue = [] ∧ dock.held = [] := by
  constructor
  · intro h
    exact Dock.consumer_rests_iff.mp ⟨h .receive rfl, fun t => h (.discard t) rfl⟩
  · rintro ⟨output, held⟩ e hd
    cases e with
    | receive => simp [Dock.step, output]
    | answer | discard => simp [Dock.step, held]
    | _ => cases hd

/-- The worker cannot move, and there is nothing for the consumer. -/
lemma rests_iff :
    bench.Rests process ↔ bench.processor.step process bench.dock.around = none ∧
      bench.dock.around.output.queue = [] ∧ bench.dock.held = [] := by
  constructor
  · intro h
    refine ⟨Option.map_eq_none_iff.mp (h .work rfl), consumer_rests_iff.mp fun e hd => ?_⟩
    exact Option.map_eq_none_iff.mp (h (.user e) hd)
  · rintro ⟨stuck, consumer⟩ e hd
    cases e with
    | work => exact Option.map_eq_none_iff.mpr stuck
    | close => cases hd
    | user e => exact Option.map_eq_none_iff.mpr (consumer_rests_iff.mpr consumer e hd)

/-- A worker that is at rest has dealt with its whole input, and it has ended if it was asked to. -/
lemma Invariant.idle (h : Invariant process chain bench) (rests : bench.Rests process) :
    bench.dock.around.input.queue = [] ∧
      (bench.processor.phase = .waiting ∨ bench.processor.phase = .ended) ∧
      (bench.processor.stopRequested = true → bench.processor.phase = .ended) := by
  obtain ⟨stuck, output, held⟩ := rests_iff.mp rests
  refine h.post.idle stuck (fun hc => ?_) fun id hid => ?_
  · simp [Channel.hasRoom, hc, output, h.room]
  · -- a result that has not come to an end would be in the output or with the consumer
    have awaited : id ∈ bench.books.awaited := Multiset.mem_add.mpr (.inl hid)
    by_contra running
    have goods := h.balanced.mem_goods (h.balanced.awaited_emitted awaited) running
    simp [books, Processor.books, output, held] at goods

end Bench

end Conveyor
