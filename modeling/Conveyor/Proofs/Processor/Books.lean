import Conveyor.Proofs.Books
import Conveyor.Proofs.Processor.Moves

/-!
# The books of a worker

What a worker holds, and the entries that its moves make in the books of the pipeline that it
belongs to (`Processor.Move.books`).
-/

namespace Conveyor.Processor

variable {σ : Type}

/-- The transaction that the worker is busy with. -/
def work (p : Processor σ) : Multiset Nat :=
  match p.phase with
  | .running t           => {t.reply}
  | .emitting origin _ _ => {origin}
  | .joining origin _ _ _ => {origin}
  | _                    => 0

/-- The results whose answers the worker is still going to read. -/
def awaited (p : Processor σ) : Multiset Nat :=
  match p.phase with
  | .emitting _ _ sent          => sent
  | .joining _ unread watched _ => ↑unread + ↑watched
  | _                           => 0

/-- The books of a worker between its two channels, on top of what the rest of the pipeline has in
its books. -/
def books (p : Processor σ) (s : Surroundings) (rest : Books) : Books where
  work := p.work + (replies s.input.queue + rest.work)
  goods := replies s.output.queue + rest.goods
  awaited := p.awaited + rest.awaited
  accepted := rest.accepted
  emitted := rest.emitted
  ledger := s.ledger

variable {process : Behaviour σ} {p p' : Processor σ} {s s' : Surroundings}
  {reports : List (Report σ)}

@[simp] lemma work_close (p : Processor σ) : p.close.work = p.work := by
  unfold close closeIfIdle requestStop
  split
  · rfl
  · split <;> simp_all [work]

@[simp] lemma awaited_close (p : Processor σ) : p.close.awaited = p.awaited := by
  unfold close closeIfIdle requestStop
  split
  · rfl
  · split <;> simp_all [awaited]

lemma coe_concat (ids : List Nat) (id : Nat) :
    ((ids ++ [id] : List Nat) : Multiset Nat) = id ::ₘ ids := by
  simp [Multiset.cons_coe, List.perm_append_singleton]

/-- The worker reports only about the transaction that it is busy with. -/
lemma Move.origin_mem_work (m : Move process p s reports p' s') {report : Report σ}
    (h : report ∈ reports) : report.origin ∈ p.work := by
  cases m with
  | finish hp ho metrics =>
    rcases List.mem_pair.mp h with rfl | rfl
    all_goals simp [work, hp, Report.origin]
  | fan hp | put hp | lose hp | answer hp =>
    obtain rfl := List.mem_singleton.mp h
    simp [work, hp, Report.origin]
  | _ => cases h

/-! ### Reading what is awaited -/

/-- Whether what the worker awaits can be read when it came to an end, and only then, as that end. -/
def Reads (p : Processor σ) (s : Surroundings) : Prop :=
  ∀ id ∈ p.awaited, (s.ledger.read id).1 ≠ .pending ∨ id ∈ s.ledger.ended →
    ∃ e, (id, e) ∈ s.ledger.settled ∧ (s.ledger.read id).1.failure? = e.failure?

/-- As long as the books balance the worker can read what it awaits. -/
lemma reads_of_awaited {b : Books} (hb : b.Balanced) (ledger : b.ledger = s.ledger)
    (awaited : p.awaited ⊆ b.awaited) : p.Reads s := by
  intro id hid hr
  have hmem := awaited hid
  rw [← ledger] at hr ⊢
  rcases hb.ledger.read_cases (hb.awaited_lt hmem) (hb.listening id hmem) with hp | ⟨-, h⟩
  · rcases hr with hr | hr
    · exact absurd hp.1 hr
    · obtain ⟨e, he⟩ := Ledger.mem_ended.mp hr
      exact absurd rfl (hp.2 _ he)
  · exact h

lemma reads_of_books {rest : Books} (hb : (p.books s rest).Balanced) : p.Reads s :=
  reads_of_awaited hb rfl (Multiset.subset_of_le (Multiset.le_add_right _ _))

/-! ### Entries -/

/-- The transactions that a worker has to answer, those in its input included. -/
def charge (p : Processor σ) (s : Surroundings) : Multiset Nat := p.work + replies s.input.queue

/-- What a move of a worker means for the books: nothing, an answer, a result, a result that is lost at
once, or the end of a result that it looks at. -/
inductive Entry (p : Processor σ) (s : Surroundings) (results : List Transaction)
    (p' : Processor σ) (s' : Surroundings) : Prop where
  | still (charge : p'.charge s' = p.charge s) (awaited : p'.awaited = p.awaited)
      (output : s'.output.queue = s.output.queue) (made : results = [])
      (ledger : s'.ledger = s.ledger)
  | answer (id : Nat) (response : Response) (charge : p.charge s = id ::ₘ p'.charge s')
      (awaited : p'.awaited = p.awaited) (output : s'.output.queue = s.output.queue)
      (made : results = []) (ledger : s'.ledger = (s.ledger.respond id response).2)
  | emit (message : Message) (charge : p'.charge s' = p.charge s)
      (awaited : p'.awaited = s.ledger.paths.length ::ₘ p.awaited)
      (output : s'.output.queue = s.output.queue ++ [⟨message, s.ledger.paths.length⟩])
      (made : results = [⟨message, s.ledger.paths.length⟩]) (ledger : s'.ledger = s.ledger.fresh.2)
  | lose (message : Message) (charge : p'.charge s' = p.charge s)
      (awaited : p'.awaited = s.ledger.paths.length ::ₘ p.awaited)
      (output : s'.output.queue = s.output.queue)
      (made : results = [⟨message, s.ledger.paths.length⟩])
      (ledger : s'.ledger = s.ledger.fresh.2.abandon s.ledger.paths.length)
  | collect (id : Nat) (charge : p'.charge s' = p.charge s)
      (awaited : p.awaited = id ::ₘ p'.awaited) (output : s'.output.queue = s.output.queue)
      (made : results = []) (ended : id ∈ s.ledger.ended) (ledger : s'.ledger = (s.ledger.read id).2)

/-- Every move of a worker means one of these. -/
lemma Move.entry (h : Move process p s reports p' s') (reads : p.Reads s) :
    Entry p s (Report.results reports) p' s' := by
  cases h with
  | hear hp => exact .still (by simp [charge, work, hp]) (by simp [awaited, hp]) rfl rfl rfl
  | take hp hq =>
    exact .still (by simp [charge, work, hp, hq]) (by simp [awaited, hp]) rfl rfl rfl
  | leave hp hq =>
    exact .still (by simp [charge, work, hp, hq, Channel.shut]) (by simp [awaited, hp]) rfl rfl rfl
  | @finish t rejection hp =>
    exact .answer t.reply (.ofFailure? rejection) (by simp [charge, work, hp])
      (by simp [awaited, hp]) rfl rfl rfl
  | fan hp => exact .still (by simp [charge, work, hp]) (by simp [awaited, hp]) rfl rfl rfl
  | @put origin message later sent hp room =>
    exact .emit message (by simp [charge, work, hp])
      (by simp [awaited, hp, coe_concat, -Multiset.cons_coe]) rfl rfl rfl
  | @lose origin message later sent hp closed =>
    exact .lose message (by simp [charge, work, hp])
      (by simp [awaited, hp, coe_concat, -Multiset.cons_coe]) rfl rfl rfl
  | sent hp => exact .still (by simp [charge, work, hp]) (by simp [awaited, hp]) rfl rfl rfl
  | watch hp hr =>
    exact .still (by simp [charge, work, hp])
      (by simp [awaited, hp, coe_concat, ← Multiset.cons_coe]) rfl rfl rfl
  | @collect origin id unread watched failure hp hr =>
    have hid : p.awaited = id ::ₘ (↑unread + ↑watched) := by
      simp [awaited, hp, ← Multiset.cons_coe]
    obtain ⟨e, he, -⟩ := reads id (hid ▸ Multiset.mem_cons_self _ _) (.inl hr)
    exact .collect id (by simp [charge, work, hp]) hid rfl rfl (Ledger.mem_ended.mpr ⟨e, he⟩) rfl
  | @collectWatched origin id watched failure hp hf =>
    obtain ⟨hmem, he⟩ := Ledger.mem_of_firstSettled hf
    have hid : p.awaited = id ::ₘ (watched.erase id : List Nat) := by
      simp only [awaited, hp, Multiset.cons_coe, Multiset.coe_nil]
      exact Multiset.coe_eq_coe.mpr (List.perm_cons_erase hmem)
    exact .collect id (by simp [charge, work, hp]) (hid.trans (by simp [awaited])) rfl rfl
      (Ledger.mem_ended.mpr he) rfl
  | @answer origin failure hp =>
    exact .answer origin (.ofFailure? failure) (by simp [charge, work, hp])
      (by simp [awaited, hp]) rfl rfl rfl

/-- The books of a worker, on top of what the rest of the pipeline has in its books. The transactions
that the worker has to answer may be results of another worker of the pipeline, so that they are goods for
the pipeline, and the worker is among those who take them out of its hands. -/
def booksAs (consumer : Bool) (p : Processor σ) (s : Surroundings) (rest : Books) : Books where
  work := (if consumer then 0 else p.charge s) + rest.work
  goods := (if consumer then p.charge s else 0) + (replies s.output.queue + rest.goods)
  awaited := p.awaited + rest.awaited
  accepted := rest.accepted
  emitted := rest.emitted
  ledger := s.ledger

lemma booksAs_false (p : Processor σ) (s : Surroundings) (rest : Books) :
    p.booksAs false s rest = p.books s rest := by
  simp [booksAs, books, charge, Multiset.add_assoc]

/-- The moves of a worker are entries in the books, on either side of them. -/
lemma Move.books_as (h : Move process p s reports p' s') (reads : p.Reads s) (consumer : Bool)
    (rest : Books) :
    Books.Steps (p.booksAs consumer s rest)
      (p'.booksAs consumer s'
        { rest with emitted := replies (Report.results reports) + rest.emitted }) := by
  have entry := h.entry reads
  generalize Report.results reports = results at entry ⊢
  cases entry with
  | still charge awaited output made ledger =>
    exact .of_eq (by simp [booksAs, charge, awaited, output, made, ledger])
  | answer id response charge awaited output made ledger =>
    refine .single ?_
    cases consumer with
    | false =>
      convert Books.Step.answer (b := p.booksAs false s rest) id (p'.charge s' + rest.work)
        (by simp [booksAs, charge]) response using 1
      simp [booksAs, awaited, output, made, ledger]
    | true =>
      convert Books.Step.resolve (b := p.booksAs true s rest) id
        (p'.charge s' + (replies s.output.queue + rest.goods)) (by simp [booksAs, charge]) response
        using 1
      simp [booksAs, awaited, output, made, ledger]
  | emit message charge awaited output made ledger =>
    refine .single ?_
    convert Books.Step.emit (b := p.booksAs consumer s rest) using 1
    simp [booksAs, charge, awaited, output, made, ledger]
  | lose message charge awaited output made ledger =>
    convert Books.Steps.lose (p.booksAs consumer s rest) using 1
    simp [booksAs, charge, awaited, output, made, ledger]
  | collect id charge awaited output made ended ledger =>
    refine .single ?_
    convert Books.Step.collect (b := p.booksAs consumer s rest) id (p'.awaited + rest.awaited)
      (by simp [booksAs, awaited]) ended using 1
    simp [booksAs, charge, output, made, ledger]

/-- The moves of a worker are entries in the books. -/
lemma Move.books (h : Move process p s reports p' s') (rest : Books)
    (hb : (p.books s rest).Balanced) :
    Books.Steps (p.books s rest)
      (p'.books s'
        { rest with emitted := replies (Report.results reports) + rest.emitted }) := by
  rw [← booksAs_false, ← booksAs_false]
  exact h.books_as (reads_of_books hb) false rest

end Conveyor.Processor
