import Conveyor.Proofs.Processor.Results

/-!
# A worker at its post

What holds of a bound worker between its two channels at any time, if it is known what was sent on its
input (`Processor.Post`). The moves of the worker keep it (`Processor.Post.move`), and so does whoever
else uses the channels, as long as nothing is sent on an input that is closed
(`Processor.Post.around`).
-/

namespace Conveyor.Processor

variable {σ : Type} {process : Behaviour σ} {chain : List σ} {p p' : Processor σ}
  {s s' : Surroundings} {journal new : List (Report σ)} {inputs : List Transaction}

/-- The worker takes what was sent on its input in the order of sending, and it leaves nothing there
when it ends. -/
structure Post (process : Behaviour σ) (chain : List σ) (p : Processor σ) (s : Surroundings)
    (journal : List (Report σ)) (inputs : List Transaction) : Prop where
  transcript : ∃ taken, p.Transcript process s.ledger.settled chain taken journal ∧
    taken ++ s.input.queue = inputs
  bound : p.phase ≠ .idle ∧ p.phase ≠ .closed
  closing : p.closing = true → s.input.closed = true
  ended : p.phase = .ended → s.input.closed = true ∧ s.input.queue = []

namespace Post

lemma of_waiting (hp : p.phase = .waiting) (hc : p.closing = false) :
    Post process p.chain p s [] s.input.queue where
  transcript := ⟨[], .of_waiting hp, rfl⟩
  bound := by simp [hp]
  closing := by simp [hc]
  ended := by simp [hp]

lemma move (h : Post process chain p s journal inputs) (m : Move process p s new p' s')
    (reads : p.Reads s) : Post process chain p' s' (journal ++ new) inputs := by
  obtain ⟨taken, transcript, htaken⟩ := h.transcript
  obtain ⟨taken', transcript', htaken'⟩ := transcript.move m reads
  obtain ⟨bound, ended⟩ := m.phase
  exact ⟨⟨taken', transcript', htaken'.trans htaken⟩, bound, (m.closing h.closing).1, ended⟩

/-- Others may send more, unless the input is closed. -/
lemma around (h : Post process chain p s journal inputs) {more : List Transaction}
    (log : s.ledger.settled <+: s'.ledger.settled) (input : s'.input.queue = s.input.queue ++ more)
    (closed : s.input.closed = true → s'.input.closed = true ∧ more = []) :
    Post process chain p s' journal (inputs ++ more) := by
  obtain ⟨taken, transcript, htaken⟩ := h.transcript
  refine ⟨⟨taken, transcript.mono log, ?_⟩, h.bound, fun hc => (closed (h.closing hc)).1,
    fun hp => ?_⟩
  · rw [input, ← List.append_assoc, htaken]
  · obtain ⟨was, empty⟩ := h.ended hp
    obtain ⟨stays, rfl⟩ := closed was
    exact ⟨stays, by rw [input, empty, List.append_nil]⟩

/-- What others do elsewhere does not matter. -/
lemma elsewhere (h : Post process chain p s journal inputs)
    (log : s.ledger.settled <+: s'.ledger.settled) (input : s'.input = s.input) :
    Post process chain p s' journal inputs := by
  rw [← List.append_nil inputs]
  exact h.around log (by rw [input, List.append_nil]) fun closed => ⟨input ▸ closed, rfl⟩

lemma close (h : Post process chain p s journal inputs) :
    Post process chain p.close s journal inputs := by
  rw [close_of_bound h.bound.1]
  obtain ⟨taken, transcript, htaken⟩ := h.transcript
  exact ⟨⟨taken, transcript.congr rfl rfl, htaken⟩, h.bound, h.closing, h.ended⟩

end Post

/-- As long as somebody takes the results none of them is lost, and otherwise no more of them come. -/
lemma Move.stream (m : Move process p s new p' s') {out made : List Transaction}
    (stream : out ++ s.output.queue <+: made)
    (whole : s.output.closed = false → out ++ s.output.queue = made) :
    out ++ s'.output.queue <+: made ++ Report.results new ∧
      (s'.output.closed = false → out ++ s'.output.queue = made ++ Report.results new) := by
  obtain ⟨-, hclosed, hopen, hshut⟩ := m.output
  have all (closed : s.output.closed = false) :
      out ++ s'.output.queue = made ++ Report.results new := by
    rw [hopen closed, ← List.append_assoc, whole closed]
  refine ⟨?_, fun closed => all (hclosed ▸ closed)⟩
  cases closed : s.output.closed with
  | false => rw [all closed]
  | true =>
    rw [hshut closed]
    exact stream.trans (List.prefix_append _ _)

/-- What a worker has to answer was sent to it. -/
lemma Post.mem_inputs (h : Post process chain p s journal inputs) {id : Nat}
    (hid : id ∈ p.charge s) : id ∈ replies inputs := by
  obtain ⟨taken, ⟨xs, current, ts, rs, -, progress, rfl, -⟩, rfl⟩ := h.transcript
  rw [replies_append, replies_append]
  rcases Multiset.mem_add.mp hid with busy | waits
  · obtain ⟨t, rfl, rfl⟩ := progress.of_mem_work busy
    simp
  · exact Multiset.mem_add.mpr (.inr waits)

/-- The results carry the first messages that the interpreter finds. -/
lemma Post.messages_grow (h : Post process chain p s journal inputs) :
    (Report.results journal).map Transaction.payload <+:
      messagesOf (interpret process chain inputs) := by
  obtain ⟨taken, transcript, rfl⟩ := h.transcript
  exact transcript.messages_grow.trans ((interpret_grows (List.prefix_append _ _)).flatMap _)

/-! ### Rest -/

/-- A worker that is not at any transaction, and has none left, has done all that the interpreter
does. -/
lemma Post.complete (h : Post process chain p s journal inputs)
    (idle : p.phase = .waiting ∨ p.phase = .ended) (empty : s.input.queue = []) :
    (Report.results journal).map Transaction.payload = messagesOf (interpret process chain inputs) ∧
      p.chain = chainAfter process chain inputs := by
  obtain ⟨taken, transcript, rfl⟩ := h.transcript
  rw [empty, List.append_nil]
  exact ⟨(transcript.complete_of_idle idle).2, transcript.chain_of_idle idle⟩

/-- What a worker awaits are results that it made. -/
lemma Transcript.results_of_awaited {settled : List (Nat × Ending)} {taken : List Transaction}
    (h : Transcript process settled chain p taken journal) {id : Nat} (hid : id ∈ p.awaited) :
    ∃ result ∈ Report.results journal, result.reply = id := by
  obtain ⟨xs, current, ts, rs, -, progress, -, rfl⟩ := h
  suffices now : ∃ result ∈ Report.results rs, result.reply = id by
    obtain ⟨result, hresult, hreply⟩ := now
    exact ⟨result, by simp [hresult], hreply⟩
  unfold awaited at hid
  generalize p.phase = phase at progress hid
  generalize p.chain = stages at progress
  cases progress with
  | wait | ended | run => exact absurd hid (Multiset.notMem_zero id)
  | emit results messages some hsent =>
    subst hsent
    simpa using hid
  | @join t results unread watched failure messages some tally =>
    have pending : id ∈ unread ++ watched := by simpa using hid
    simpa using tally.owned id pending

/-- A worker that cannot move, although there is room for its results and all that it awaits has come to
an end, has dealt with its whole input, and it has ended if it was asked to. -/
lemma Post.idle (h : Post process chain p s journal inputs) (stuck : p.step process s = none)
    (room : s.output.closed = false → s.output.hasRoom = true)
    (settled : ∀ id ∈ p.awaited, id ∈ s.ledger.ended) :
    s.input.queue = [] ∧ (p.phase = .waiting ∨ p.phase = .ended) ∧
      (p.stopRequested = true → p.phase = .ended) := by
  cases Stuck.of_step stuck with
  | waiting hp hq heard hc =>
    refine ⟨hq, .inl hp, fun asked => ?_⟩
    rw [h.closing (heard asked)] at hc
    cases hc
  | emitting hp hc full =>
    rw [room hc] at full
    cases full
  | @joining origin watched failure hp hw hf =>
    obtain ⟨id, hid⟩ := List.exists_mem_of_ne_nil _ hw
    have ended := settled id (by simp [awaited, hp, hid])
    obtain ⟨e, he⟩ := Ledger.mem_ended.mp ended
    exact absurd hid (Ledger.firstSettled_eq_none hf _ he)
  | rests hp =>
    obtain hp | hp | hp := hp
    · exact absurd hp h.bound.1
    · exact ⟨(h.ended hp).2, .inr hp, fun _ => hp⟩
    · exact absurd hp h.bound.2

end Conveyor.Processor
