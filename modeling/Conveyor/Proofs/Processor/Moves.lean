import Conveyor.Processor
import Mathlib.Tactic.Common

/-!
# The moves of a worker

`Processor.Move` lists everything that one step of a worker can do, with the reports that an
observer of the worker gets, and `Processor.Move.of_step` says that the list is complete. What is
proved about processors is proved by cases on it.
-/

namespace Conveyor

/-- What an observer of a worker gets to know: the stages, in the states `chain`, were run on a
transaction; a result was made for the transaction with the path `origin`; or this transaction was
answered. -/
inductive Report (σ : Type) where
  | ran (t : Transaction) (chain : List σ)
  | emitted (origin : Nat) (result : Transaction)
  | answered (origin : Nat) (response : Response)

/-- The path of the transaction that a report is about. -/
def Report.origin {σ : Type} : Report σ → Nat
  | .ran t _           => t.reply
  | .emitted origin _  => origin
  | .answered origin _ => origin

/-- The result that a report tells of. -/
def Report.result? {σ : Type} : Report σ → Option Transaction
  | .emitted _ result => some result
  | _                 => none

/-- The results that reports tell of. -/
def Report.results {σ : Type} (reports : List (Report σ)) : List Transaction :=
  reports.filterMap result?

namespace Report

variable {σ : Type}

@[simp] lemma results_nil : results ([] : List (Report σ)) = [] := rfl

@[simp] lemma results_ran (t : Transaction) (chain : List σ) (reports : List (Report σ)) :
    results (.ran t chain :: reports) = results reports := rfl

@[simp] lemma results_emitted (origin : Nat) (result : Transaction) (reports : List (Report σ)) :
    results (.emitted origin result :: reports) = result :: results reports := rfl

@[simp] lemma results_answered (origin : Nat) (response : Response) (reports : List (Report σ)) :
    results (.answered origin response :: reports) = results reports := rfl

@[simp] lemma results_append (reports reports' : List (Report σ)) :
    results (reports ++ reports') = results reports ++ results reports' :=
  List.filterMap_append

end Report

namespace Processor

variable {σ : Type}

/-- What the next step of the worker, if it can make one, lets an observer know. -/
def report (process : Behaviour σ) (p : Processor σ) (s : Surroundings) : List (Report σ) :=
  match p.phase with
  | .running t =>
    let outcome := (runChain process p.chain t.payload).outcome
    if outcome.messages.isEmpty then
      [.ran t p.chain, .answered t.reply (.ofFailure? outcome.rejection)]
    else [.ran t p.chain]
  | .emitting origin (message :: _) _ => [.emitted origin ⟨message, s.ledger.paths.length⟩]
  | .joining origin [] [] failure     => [.answered origin (.ofFailure? failure)]
  | _                                 => []

/-- The moves of a worker. While it waits it hears of a shutdown and closes its input, takes the next
transaction, or leaves, because none is there and none can come. After a run of the stages it either
finishes with the transaction, of which nothing is left, or fans the messages out: it puts each of
them into the output as a result, or loses it because nobody takes it, until all are sent. Then it
watches the paths of those results that have not come to an end, collects the answers to the others
and to the watched ones, and answers in its turn when none is left. -/
inductive Move (process : Behaviour σ) (p : Processor σ) (s : Surroundings) :
    List (Report σ) → Processor σ → Surroundings → Prop where
  | hear (hp : p.phase = .waiting) (asked : p.stopRequested = true) (hc : p.closing = false) :
      Move process p s [] { p with closing := true } { s with input := s.input.close }
  | take {t : Transaction} {rest : List Transaction} (hp : p.phase = .waiting)
      (hq : s.input.queue = t :: rest) (metrics : Metrics.Store) :
      Move process p s [] { p with phase := .running t }
        { s with input := { s.input with queue := rest }, metrics }
  | leave (hp : p.phase = .waiting) (hq : s.input.queue = [])
      (spent : s.input.closed = true ∨ s.fed = false) :
      Move process p s [] { p with phase := .ended, done := true }
        { s with input := s.input.shut }
  | finish {t : Transaction} {rejection : Option Failure} (hp : p.phase = .running t)
      (ho : (runChain process p.chain t.payload).outcome = ⟨[], rejection⟩)
      (metrics : Metrics.Store) :
      Move process p s [.ran t p.chain, .answered t.reply (.ofFailure? rejection)]
        { p with chain := (runChain process p.chain t.payload).chain, phase := .waiting }
        { s with ledger := (s.ledger.respond t.reply (.ofFailure? rejection)).2, metrics }
  | fan {t : Transaction} (hp : p.phase = .running t)
      (hm : (runChain process p.chain t.payload).outcome.messages ≠ [])
      (metrics : Metrics.Store) :
      Move process p s [.ran t p.chain]
        { p with
          chain := (runChain process p.chain t.payload).chain
          phase := .emitting t.reply (runChain process p.chain t.payload).outcome.messages [] }
        { s with metrics }
  | put {origin : Nat} {message : Message} {later : List Message} {sent : List Nat}
      (hp : p.phase = .emitting origin (message :: later) sent) (room : s.output.hasRoom = true) :
      Move process p s [.emitted origin ⟨message, s.ledger.paths.length⟩]
        { p with phase := .emitting origin later (sent ++ [s.ledger.paths.length]) }
        { s with
          ledger := s.ledger.fresh.2
          output := s.output.push ⟨message, s.ledger.paths.length⟩ }
  | lose {origin : Nat} {message : Message} {later : List Message} {sent : List Nat}
      (hp : p.phase = .emitting origin (message :: later) sent)
      (closed : s.output.closed = true) :
      Move process p s [.emitted origin ⟨message, s.ledger.paths.length⟩]
        { p with phase := .emitting origin later (sent ++ [s.ledger.paths.length]) }
        { s with ledger := s.ledger.fresh.2.abandon s.ledger.paths.length }
  | sent {origin : Nat} {sent : List Nat} (hp : p.phase = .emitting origin [] sent)
      (metrics : Metrics.Store) :
      Move process p s [] { p with phase := .joining origin sent [] none } { s with metrics }
  | watch {origin id : Nat} {unread watched : List Nat} {failure : Option Failure}
      (hp : p.phase = .joining origin (id :: unread) watched failure)
      (hr : (s.ledger.read id).1 = .pending) :
      Move process p s [] { p with phase := .joining origin unread (watched ++ [id]) failure } s
  | collect {origin id : Nat} {unread watched : List Nat} {failure : Option Failure}
      (hp : p.phase = .joining origin (id :: unread) watched failure)
      (hr : (s.ledger.read id).1 ≠ .pending) :
      Move process p s []
        { p with
          phase := .joining origin unread watched (failure <|> (s.ledger.read id).1.failure?) }
        { s with ledger := (s.ledger.read id).2 }
  | collectWatched {origin id : Nat} {watched : List Nat} {failure : Option Failure}
      (hp : p.phase = .joining origin [] watched failure)
      (hf : s.ledger.firstSettled watched = some id) :
      Move process p s []
        { p with
          phase := .joining origin [] (watched.erase id)
            (failure <|> (s.ledger.read id).1.failure?) }
        { s with ledger := (s.ledger.read id).2 }
  | answer {origin : Nat} {failure : Option Failure} (hp : p.phase = .joining origin [] [] failure)
      (metrics : Metrics.Store) :
      Move process p s [.answered origin (.ofFailure? failure)] { p with phase := .waiting }
        { s with ledger := (s.ledger.respond origin (.ofFailure? failure)).2, metrics }

variable {process : Behaviour σ} {p p' : Processor σ} {s s' : Surroundings}

lemma Move.of_listen (hp : p.phase = .waiting) (h : p.listen s = some (p', s')) :
    Move process p s [] p' s' := by
  unfold listen at h
  split at h
  next hstop =>
    cases h
    simp only [Bool.and_eq_true, Bool.not_eq_true'] at hstop
    exact .hear hp hstop.1 hstop.2
  next =>
    split at h
    next hq =>
      cases h
      exact .take hp hq _
    next hq =>
      split at h
      next spent =>
        cases h
        exact .leave hp hq (by simpa using spent)
      next => cases h

lemma Move.of_runStages {t : Transaction} (hp : p.phase = .running t)
    (h : p.runStages process t s = (p', s')) : Move process p s (p.report process s) p' s' := by
  simp only [runStages] at h
  simp only [report, hp]
  split at h
  next he =>
    cases h
    simp only [he, if_true]
    exact .finish hp (by simp [← List.isEmpty_iff.mp he]) _
  next he =>
    cases h
    simp only [he, if_false, Bool.false_eq_true]
    exact .fan hp (fun hm => he (by simp [hm])) _

lemma Move.of_emit {origin : Nat} {results : List Message} {sent : List Nat}
    (hp : p.phase = .emitting origin results sent)
    (h : p.emit origin results sent s = some (p', s')) :
    Move process p s (p.report process s) p' s' := by
  simp only [report, hp]
  cases results with
  | nil =>
    cases h
    exact .sent hp _
  | cons message later =>
    simp only [emit] at h
    split at h
    next closed =>
      cases h
      exact .lose hp closed
    next =>
      split at h
      next room =>
        cases h
        exact .put hp room
      next => cases h

lemma Move.of_join {origin : Nat} {unread watched : List Nat} {failure : Option Failure}
    (hp : p.phase = .joining origin unread watched failure)
    (h : p.join origin unread watched failure s = some (p', s')) :
    Move process p s (p.report process s) p' s' := by
  cases unread with
  | cons id unread =>
    simp only [report, hp]
    simp only [join] at h
    split at h
    next ledger hr =>
      cases h
      exact .watch hp (by rw [hr])
    next reading ledger hne hr =>
      cases h
      obtain rfl : reading = (s.ledger.read id).1 := by rw [hr]
      obtain rfl : ledger = (s.ledger.read id).2 := by rw [hr]
      exact .collect hp hne
  | nil =>
    simp only [join] at h
    split at h
    next he =>
      obtain rfl : watched = [] := List.isEmpty_iff.mp he
      cases h
      simp only [report, hp]
      exact .answer hp _
    next he =>
      obtain ⟨id, hf, h⟩ := Option.map_eq_some_iff.mp h
      cases h
      cases watched with
      | nil => exact absurd rfl he
      | cons first watched =>
        simp only [report, hp]
        exact .collectWatched hp hf

/-- There are no other moves. -/
theorem Move.of_step (h : p.step process s = some (p', s')) :
    Move process p s (p.report process s) p' s' := by
  unfold step at h
  split at h
  next hp =>
    have : p.report process s = [] := by simp [report, hp]
    exact this ▸ .of_listen hp h
  next hp => exact .of_runStages hp (Option.some.inj h)
  next hp => exact .of_emit hp h
  next hp => exact .of_join hp h
  all_goals cases h

/-- A worker that waits hears of a shutdown before anything else. -/
lemma step_of_asked (process : Behaviour σ) (hp : p.phase = .waiting)
    (asked : p.stopRequested = true) (hc : p.closing = false) (s : Surroundings) :
    p.step process s = some ({ p with closing := true }, { s with input := s.input.close }) := by
  simp [step, hp, listen, asked, hc]

/-- Why a worker cannot move: it waits for a transaction, for room in the output or for one of the
results to come to an end, or it is not at work. -/
inductive Stuck (p : Processor σ) (s : Surroundings) : Prop where
  | waiting (hp : p.phase = .waiting) (hq : s.input.queue = [])
      (heard : p.stopRequested = true → p.closing = true) (hc : s.input.closed = false)
  | emitting {origin : Nat} {results : List Message} {sent : List Nat}
      (hp : p.phase = .emitting origin results sent) (hc : s.output.closed = false)
      (full : s.output.hasRoom = false)
  | joining {origin : Nat} {watched : List Nat} {failure : Option Failure}
      (hp : p.phase = .joining origin [] watched failure) (hw : watched ≠ [])
      (hf : s.ledger.firstSettled watched = none)
  | rests (hp : p.phase = .idle ∨ p.phase = .ended ∨ p.phase = .closed)

lemma Stuck.of_listen (hp : p.phase = .waiting) (h : p.listen s = none) : p.Stuck s := by
  unfold listen at h
  split at h
  next => cases h
  next heard =>
    split at h
    next => cases h
    next hq =>
      split at h
      next => cases h
      next hc =>
        simp only [Bool.or_eq_true, not_or, Bool.not_eq_true] at hc
        exact .waiting hp hq (by simpa using heard) hc.1

lemma Stuck.of_emit {origin : Nat} {results : List Message} {sent : List Nat}
    (hp : p.phase = .emitting origin results sent) (h : p.emit origin results sent s = none) :
    p.Stuck s := by
  unfold emit at h
  split at h
  next => cases h
  next =>
    dsimp only at h
    split at h
    next => cases h
    next hc =>
      split at h
      next => cases h
      next full => exact .emitting hp (by simpa using hc) (by simpa using full)

lemma Stuck.of_join {origin : Nat} {unread watched : List Nat} {failure : Option Failure}
    (hp : p.phase = .joining origin unread watched failure)
    (h : p.join origin unread watched failure s = none) : p.Stuck s := by
  unfold join at h
  split at h
  next => split at h <;> cases h
  next =>
    split at h
    next => cases h
    next hw => exact .joining hp (by simpa using hw) (Option.map_eq_none_iff.mp h)

/-- There is no other reason. -/
lemma Stuck.of_step (h : p.step process s = none) : p.Stuck s := by
  unfold step at h
  split at h
  next hp => exact .of_listen hp h
  next => cases h
  next hp => exact .of_emit hp h
  next hp => exact .of_join hp h
  next hp => exact .rests (.inl hp)
  next hp => exact .rests (.inr (.inl hp))
  next hp => exact .rests (.inr (.inr hp))

/-- A worker that waits for a transaction can still be sent one. -/
lemma fed_of_waiting (hp : p.phase = .waiting) (h : p.step process s = none) : s.fed = true := by
  simp only [step, hp, listen] at h
  split at h
  next => cases h
  next =>
    split at h
    next => cases h
    next =>
      split at h
      next => cases h
      next spent =>
        simp only [Bool.or_eq_true, not_or, Bool.not_eq_true, Bool.not_eq_false'] at spent
        exact spent.2

/-! ### What moves leave alone -/

section Frame

variable {reports : List (Report σ)}

/-- A worker touches its output only by sending results, and cannot send when nobody takes them. -/
lemma Move.output (m : Move process p s reports p' s') :
    s'.output.capacity = s.output.capacity ∧ s'.output.closed = s.output.closed ∧
      (s.output.closed = false →
        s'.output.queue = s.output.queue ++ Report.results reports) ∧
      (s.output.closed = true → s'.output.queue = s.output.queue) := by
  cases m with
  | put hp room =>
    simp only [Channel.hasRoom, Bool.and_eq_true, Bool.not_eq_true'] at room
    refine ⟨rfl, rfl, fun _ => by simp, fun closed => ?_⟩
    rw [room.1] at closed
    cases closed
  | lose hp closed => exact ⟨rfl, rfl, by simp [closed], fun _ => rfl⟩
  | _ => exact ⟨rfl, rfl, fun _ => by simp, fun _ => rfl⟩

/-- A worker that has seen the shutdown has closed its input, and does not forget it. -/
lemma Move.closing (m : Move process p s reports p' s')
    (h : p.closing = true → s.input.closed = true) :
    (p'.closing = true → s'.input.closed = true) ∧ (p.closing = true → p'.closing = true) := by
  cases m with
  | hear => exact ⟨fun _ => rfl, fun _ => rfl⟩
  | leave => exact ⟨fun _ => rfl, id⟩
  | _ => exact ⟨h, id⟩

/-- A bound worker stays so, and when it ends it leaves nothing in its input. -/
lemma Move.phase (m : Move process p s reports p' s') :
    (p'.phase ≠ .idle ∧ p'.phase ≠ .closed) ∧
      (p'.phase = .ended → s'.input.closed = true ∧ s'.input.queue = []) := by
  cases m with
  | hear hp => simp [hp]
  | leave => exact ⟨⟨nofun, nofun⟩, fun _ => ⟨rfl, rfl⟩⟩
  | _ => exact ⟨⟨nofun, nofun⟩, nofun⟩

/-- A worker that moves has not ended. It never asks itself for a shutdown, and does not touch those who
send to it. -/
lemma Move.frame (m : Move process p s reports p' s') :
    p.phase ≠ .ended ∧ p'.stopRequested = p.stopRequested ∧ s'.fed = s.fed ∧
      s'.input.capacity = s.input.capacity := by
  cases m with
  | hear hp | take hp | leave hp | finish hp | fan hp | put hp | lose hp | sent hp | watch hp
  | collect hp | collectWatched hp | answer hp => exact ⟨by simp [hp], rfl, rfl, rfl⟩

/-- An input is closed by its worker when it was asked to, or when nobody can send. -/
lemma Move.input_closed (m : Move process p s reports p' s') (h : s'.input.closed = true) :
    s.input.closed = true ∨ s.fed = false ∨ p.stopRequested = true := by
  cases m with
  | hear hp asked => exact .inr (.inr asked)
  | leave hp hq spent => exact spent.imp_right .inl
  | _ => exact .inl h

/-- A worker takes transactions out of its input, if it touches them at all. -/
lemma Move.input_queue (m : Move process p s reports p' s') :
    s'.input.queue = s.input.queue ∨ s'.input.queue.length < s.input.queue.length := by
  cases m with
  | take hp hq => exact .inr (by simp [hq])
  | leave hp hq => exact .inl hq.symm
  | _ => exact .inl rfl

/-- A transaction is answered when nothing is left of it, or when all results were looked at. -/
lemma Move.answered_cases (m : Move process p s reports p' s') {origin : Nat}
    {response : Response} (h : .answered origin response ∈ reports) :
    (∃ t, p.phase = .running t ∧ t.reply = origin ∧ Report.results reports = []) ∨
      p.phase = .joining origin [] [] response.failure? ∧ reports = [.answered origin response] ∧
        s'.ledger.settled = s.ledger.settled ++ [(origin, .answered response)] := by
  cases m with
  | @finish t rejection hp ho metrics =>
    obtain ⟨rfl, -⟩ : origin = t.reply ∧ response = .ofFailure? rejection := by simpa using h
    exact .inl ⟨t, hp, rfl, rfl⟩
  | @answer _ failure hp metrics =>
    cases List.mem_singleton.mp h
    have same : (Response.ofFailure? failure).failure? = failure := by cases failure <;> rfl
    exact .inr ⟨by rw [same, hp], rfl, rfl⟩
  | fan | put | lose => cases List.mem_singleton.mp h
  | _ => cases h

end Frame

/-! ### Shutdown -/

/-- A processor that was bound takes note of a shutdown, and nothing else. -/
lemma close_of_bound (h : p.phase ≠ .idle) : p.close = { p with stopRequested := true } := by
  unfold close
  split
  next asked => rw [← asked]
  next =>
    unfold closeIfIdle requestStop
    split
    next hp => exact absurd hp h
    next => rfl

lemma phase_close (h : p.phase ≠ .idle) : p.close.phase = p.phase := by
  rw [close_of_bound h]

@[simp] lemma chain_close (p : Processor σ) : p.close.chain = p.chain := by
  unfold close closeIfIdle requestStop
  split
  · rfl
  · split <;> rfl

end Processor

end Conveyor
