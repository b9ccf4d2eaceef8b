import Conveyor.Proofs.Metrics
import Conveyor.Proofs.Processor.Transcript
import Mathlib.Data.List.Induction
import Mathlib.Algebra.Group.Int.Defs

/-!
# What a worker records

The counters of a processor are counted up in different moves of its worker. What they read at any
time follows from the reports of the worker: how often the stages ran, how many transactions were
answered with a failure before and after results were made for them, and how many results were made
(`Processor.Recorded`). The results of the current transaction are counted when all of them are out.
-/

namespace Conveyor

open Metrics (LaneCounter LaneReadings latencyStat)

variable {σ : Type} {process : Behaviour σ}

/-! ### Turnovers -/

/-- What the reports of a worker amount to. -/
@[ext] structure Turnover where
  /-- The runs of the stages. -/
  runs : Nat := 0
  /-- The transactions that failed without a result. -/
  dropped : Nat := 0
  /-- The transactions with results that failed. -/
  failed : Nat := 0
  /-- The results made since the last run of the stages. -/
  current : Nat := 0

namespace Turnover

def next (x : Turnover) : Report σ → Turnover
  | .ran _ _                => { x with runs := x.runs + 1, current := 0 }
  | .emitted _ _            => { x with current := x.current + 1 }
  | .answered _ .ack        => x
  | .answered _ (.error _) =>
    if x.current = 0 then { x with dropped := x.dropped + 1 }
    else { x with failed := x.failed + 1 }

/-- The turnover of the reports of a worker. -/
def of (reports : List (Report σ)) : Turnover := reports.foldl next {}

@[simp] lemma of_nil : of ([] : List (Report σ)) = {} := rfl

lemma of_concat (reports : List (Report σ)) (report : Report σ) :
    of (reports ++ [report]) = (of reports).next report := by
  rw [of, List.foldl_append]
  rfl

lemma of_append (reports new : List (Report σ)) : of (reports ++ new) = new.foldl next (of reports) :=
  List.foldl_append

/-- The results that are made are counted one by one. -/
lemma foldl_emitted (x : Turnover) (origin : Nat) (results : List Transaction) :
    (results.map (Report.emitted (σ := σ) origin)).foldl next x =
      { x with current := x.current + results.length } := by
  induction results generalizing x with
  | nil => rfl
  | cons result results ih =>
    rw [List.map_cons, List.foldl_cons, ih]
    simp [next, Nat.add_assoc, Nat.add_comm 1]

/-- The turnover of the reports up to the answer. -/
lemma of_ran (reports : List (Report σ)) (t : Transaction) (chain : List σ) (origin : Nat)
    (results : List Transaction) :
    of (reports ++ .ran t chain :: results.map (.emitted origin)) =
      { of reports with runs := (of reports).runs + 1, current := results.length } := by
  rw [of_append, List.foldl_cons, foldl_emitted]
  simp [next]

/-- The turnover of one more treatment. -/
lemma of_treatment (reports : List (Report σ)) (x : Treatment σ) :
    of (reports ++ x.reports) =
      { runs := (of reports).runs + 1
        dropped := (of reports).dropped + if x.results.isEmpty && !x.response.isAck then 1 else 0
        failed := (of reports).failed + if !x.results.isEmpty && !x.response.isAck then 1 else 0
        current := x.results.length } := by
  rw [Treatment.reports, ← List.cons_append, ← List.append_assoc, of_concat, of_ran]
  cases hr : x.response with
  | ack => simp [next, Response.isAck, Response.failure?]
  | error failure =>
    cases results : x.results with
    | nil => simp [next, Response.isAck, Response.failure?]
    | cons => simp [next, Response.isAck, Response.failure?]

/-- The turnover of treatments one after the other. -/
lemma of_treatments (xs : List (Treatment σ)) :
    (of (xs.flatMap Treatment.reports)).runs = xs.length ∧
      (of (xs.flatMap Treatment.reports)).dropped =
        xs.countP (fun x => x.results.isEmpty && !x.response.isAck) ∧
      (of (xs.flatMap Treatment.reports)).failed =
        xs.countP (fun x => !x.results.isEmpty && !x.response.isAck) := by
  induction xs using List.reverseRecOn with
  | nil => exact ⟨rfl, rfl, rfl⟩
  | append_singleton xs x ih =>
    obtain ⟨runs, dropped, failed⟩ := ih
    rw [List.flatMap_append, List.flatMap_singleton, of_treatment]
    refine ⟨?_, ?_, ?_⟩
    · rw [runs, List.length_append, List.length_singleton]
    · rw [dropped, List.countP_append, List.countP_singleton]
    · rw [failed, List.countP_append, List.countP_singleton]

/-- A transaction is rejected, or has no results and is acked, or has results. -/
lemma length_treatments (xs : List (Treatment σ)) :
    xs.length = xs.countP (fun x => x.results.isEmpty && !x.response.isAck) +
      xs.countP (fun x => x.results.isEmpty && x.response.isAck) +
      xs.countP fun x => !x.results.isEmpty := by
  induction xs with
  | nil => rfl
  | cons x xs ih =>
    simp only [List.length_cons, List.countP_cons, ih]
    cases x.results.isEmpty <;> cases x.response.isAck <;> simp <;> omega

end Turnover

/-! ### The records of a worker -/

namespace Processor

variable {p p' : Processor σ} {s s' : Surroundings} {reports : List (Report σ)}

lemma stat_counter (metered : p.metered = true) {path : String} {c : LaneCounter}
    (hc : "pipeline.processor." ++ path = c.path) : p.stat path = c.stat p.lane := by
  rw [stat, if_pos metered, hc, LaneCounter.stat]

lemma stat_latency (metered : p.metered = true) : p.stat "latency" = latencyStat p.lane := by
  rw [stat, if_pos metered]
  rfl

/-- The metrics after a step of the worker. -/
def recorded (process : Behaviour σ) (p p' : Processor σ) (m : Metrics.Store) : Metrics.Store :=
  match p.phase, p'.phase with
  | .waiting, .running _ => m.count (p.stat "received") 1
  | .running t, _ =>
    let outcome := (runChain process p.chain t.payload).outcome
    let timed := (m.time (p.stat "latency") .zero).2
    if outcome.messages.isEmpty && outcome.rejection.isSome then
      timed.count (p.stat "dropped") 1
    else timed
  | .emitting _ [] sent, _ => m.count (p.stat "sent") sent.length
  | .joining _ [] [] failure, _ => if failure.isSome then m.count (p.stat "failed") 1 else m
  | _, _ => m

lemma metrics_of_listen (hp : p.phase = .waiting) (h : p.listen s = some (p', s')) :
    s'.metrics = p.recorded process p' s.metrics := by
  simp only [recorded, hp]
  unfold listen at h
  split at h
  next =>
    cases h
    simp [hp]
  next =>
    split at h
    next => cases h; rfl
    next =>
      split at h
      next => cases h; rfl
      next => cases h

lemma metrics_of_runStages {t : Transaction} (hp : p.phase = .running t)
    (h : p.runStages process t s = (p', s')) :
    s'.metrics = p.recorded process p' s.metrics := by
  simp only [recorded, hp]
  simp only [runStages] at h
  split at h
  next => cases h; simp_all
  next => cases h; simp_all

lemma metrics_of_emit {origin : Nat} {results : List Message} {sent : List Nat}
    (hp : p.phase = .emitting origin results sent)
    (h : p.emit origin results sent s = some (p', s')) :
    s'.metrics = p.recorded process p' s.metrics := by
  simp only [recorded, hp]
  cases results with
  | nil =>
    cases h
    rfl
  | cons message later =>
    simp only [emit] at h
    split at h
    next => cases h; rfl
    next =>
      split at h
      next => cases h; rfl
      next => cases h

lemma metrics_of_join {origin : Nat} {unread watched : List Nat} {failure : Option Failure}
    (hp : p.phase = .joining origin unread watched failure)
    (h : p.join origin unread watched failure s = some (p', s')) :
    s'.metrics = p.recorded process p' s.metrics := by
  simp only [recorded, hp]
  cases unread with
  | cons id unread =>
    simp only [join] at h
    split at h
    next => cases h; rfl
    next => cases h; rfl
  | nil =>
    cases watched with
    | nil =>
      cases h
      rfl
    | cons first watched =>
      obtain ⟨id, hf, h⟩ := Option.map_eq_some_iff.mp h
      cases h
      rfl

lemma metrics_of_step (h : p.step process s = some (p', s')) :
    s'.metrics = p.recorded process p' s.metrics := by
  unfold step at h
  split at h
  next hp => exact metrics_of_listen hp h
  next hp => exact metrics_of_runStages hp (Option.some.inj h)
  next hp => exact metrics_of_emit hp h
  next hp => exact metrics_of_join hp h
  all_goals cases h

/-- What is kept by all records under the name of a processor is kept by those of its steps. -/
lemma recorded_induction {P : Metrics.Store → Prop} (metered : p.metered = true)
    (count : ∀ (c : LaneCounter) m n, P m → P (m.count (c.stat p.lane) n))
    (time : ∀ m, P m → P (m.time (latencyStat p.lane) .zero).2) {m : Metrics.Store} (h : P m) :
    P (p.recorded process p' m) := by
  have count {path : String} (c : LaneCounter) (hc : "pipeline.processor." ++ path = c.path)
      {m : Metrics.Store} (n : Int) (h : P m) : P (m.count (p.stat path) n) := by
    rw [stat_counter metered hc]
    exact count c m n h
  have time : P (m.time (p.stat "latency") .zero).2 := by
    rw [stat_latency metered]
    exact time m h
  unfold recorded
  split
  · exact count .received rfl 1 h
  · dsimp only
    split
    · exact count .dropped rfl 1 time
    · exact time
  · exact count .sent rfl _ h
  · split
    · exact count .failed rfl 1 h
    · exact h
  · exact h

/-- What a step records does not show in the readings for other processors. -/
lemma readings_recorded_of_ne (metered : p.metered = true) {lane : Nat} (h : lane ≠ p.lane)
    (m : Metrics.Store) : (p.recorded process p' m).readings lane = m.readings lane := by
  refine recorded_induction (P := fun m' => m'.readings lane = m.readings lane) metered ?_ ?_ rfl
  · intro c m' n same
    rw [Metrics.Store.readings_count_of_ne h, same]
  · intro m' same
    rw [Metrics.Store.readings_time_of_ne h, same]

/-- A step counts nothing up but the counters of its processor. -/
lemma counter_recorded_of_ne (metered : p.metered = true) {stat : Metrics.Stat}
    (h : ∀ c : LaneCounter, stat ≠ c.stat p.lane) (m : Metrics.Store) :
    (p.recorded process p' m).counter stat = m.counter stat := by
  refine recorded_induction (P := fun m' => m'.counter stat = m.counter stat) metered ?_ ?_ rfl
  · intro c m' n same
    rw [Metrics.Store.counter_count (c.stat_ne_discarded p.lane), if_neg (h c), add_zero, same]
  · intro m' same
    rw [Metrics.Store.counter_congr (Metrics.Store.counters_time _ _), same]

/-- The results of the current transaction that were not counted yet. -/
def uncounted (p : Processor σ) : Nat :=
  match p.phase with
  | .emitting _ _ sent => sent.length
  | _                  => 0

/-- What the metrics read for a processor follows from its reports. -/
structure Recorded (p : Processor σ) (x : LaneReadings) (reports : List (Report σ)) : Prop where
  latency : x.timed = (Turnover.of reports).runs
  dropped : x.counter .dropped = (Turnover.of reports).dropped
  failed : x.counter .failed = (Turnover.of reports).failed
  sent : x.counter .sent + p.uncounted = (Report.results reports).length

/-- When the answers are collected, some results were made since the last run of the stages. -/
lemma Transcript.current_ne_zero {start : List σ} {settled : List (Nat × Ending)}
    {taken : List Transaction} (h : Transcript process settled start p taken reports) {origin : Nat}
    {unread watched : List Nat} {failure : Option Failure}
    (hp : p.phase = .joining origin unread watched failure) :
    (Turnover.of reports).current ≠ 0 := by
  obtain ⟨xs, chain, ts, rs, treated, progress, rfl, rfl⟩ := h
  rw [hp] at progress
  generalize p.chain = c at progress
  cases progress with
  | join results messages some tally => simpa [Turnover.of_ran] using some

/-- A step of the worker records what it reports. -/
lemma Recorded.step (h : p.Recorded (s.metrics.readings p.lane) reports)
    (metered : p.metered = true)
    (joined : ∀ origin unread watched failure, p.phase = .joining origin unread watched failure →
      (Turnover.of reports).current ≠ 0)
    (hs : p.step process s = some (p', s')) :
    p'.Recorded (s'.metrics.readings p.lane) (reports ++ p.report process s) := by
  obtain ⟨latency, dropped, failed, sent⟩ := h
  have records := metrics_of_step hs
  have m := Move.of_step hs
  generalize p.report process s = new at m
  have received : p.stat "received" = LaneCounter.received.stat p.lane := stat_counter metered rfl
  have drops : p.stat "dropped" = LaneCounter.dropped.stat p.lane := stat_counter metered rfl
  have sends : p.stat "sent" = LaneCounter.sent.stat p.lane := stat_counter metered rfl
  have fails : p.stat "failed" = LaneCounter.failed.stat p.lane := stat_counter metered rfl
  have time := stat_latency metered
  have ack : Response.ofFailure? none = .ack := rfl
  have error (failure : Failure) : Response.ofFailure? (some failure) = .error failure := rfl
  rw [records]
  cases m with
  | hear hp | leave hp | watch hp | collect hp =>
    simp only [recorded, hp, uncounted, List.append_nil] at sent ⊢
    exact ⟨latency, dropped, failed, by simpa [uncounted, hp] using sent⟩
  | @collectWatched origin id watched failure hp hf =>
    cases watched with
    | nil => exact absurd (Ledger.mem_of_firstSettled hf).1 List.not_mem_nil
    | cons first watched =>
      simp only [recorded, hp, uncounted, List.append_nil] at sent ⊢
      exact ⟨latency, dropped, failed, by simpa [uncounted] using sent⟩
  | take hp =>
    simp only [recorded, hp, received, uncounted, List.append_nil] at sent ⊢
    exact ⟨by simp [latency], by simp [dropped], by simp [failed], by simpa [uncounted] using sent⟩
  | @finish t rejection hp ho =>
    simp only [uncounted, hp] at sent
    simp only [recorded, hp, ho, time, drops]
    cases rejection with
    | none =>
      constructor <;>
        simp [Turnover.of_append, Turnover.next, ack, uncounted, latency, dropped, failed, ← sent]
    | some failure =>
      constructor <;>
        simp [Turnover.of_append, Turnover.next, error, uncounted, latency, dropped, failed, ← sent]
  | @fan t hp hm =>
    simp only [uncounted, hp] at sent
    simp only [recorded, hp, time]
    constructor <;>
      simp [Turnover.of_concat, Turnover.next, uncounted, hm, latency, dropped, failed, ← sent]
  | put hp | lose hp =>
    simp only [uncounted, hp] at sent
    simp only [recorded, hp]
    constructor <;>
      simp [Turnover.of_concat, Turnover.next, uncounted, latency, dropped, failed, ← sent, add_assoc]
  | sent hp =>
    simp only [uncounted, hp] at sent
    simp only [recorded, hp, sends, List.append_nil]
    constructor <;> simp [uncounted, latency, dropped, failed, sent]
  | @answer origin failure hp =>
    have some := joined _ _ _ _ hp
    simp only [uncounted, hp] at sent
    simp only [recorded, hp, fails]
    cases failure with
    | none =>
      constructor <;>
        simp [Turnover.of_concat, Turnover.next, ack, uncounted, latency, dropped, failed, ← sent]
    | some failure =>
      constructor <;>
        simp [Turnover.of_concat, Turnover.next, error, uncounted, some, latency, dropped, failed,
          ← sent]

/-- Every transaction that leaves the input is counted as received, and nothing else is. -/
lemma received_of_step (metered : p.metered = true) (hs : p.step process s = some (p', s')) :
    (s'.metrics.readings p.lane).counter .received + s'.input.queue.length =
      (s.metrics.readings p.lane).counter .received + s.input.queue.length ∧
    (s'.metrics.readings p.lane).counter .dispatched =
      (s.metrics.readings p.lane).counter .dispatched := by
  have records := metrics_of_step hs
  have m := Move.of_step hs
  generalize p.report process s = new at m
  rw [records]
  cases m with
  | take hp hq =>
    have received : p.stat "received" = LaneCounter.received.stat p.lane := stat_counter metered rfl
    simp [recorded, hp, received, hq]
    omega
  | leave hp hq => simp [recorded, hp, hq, Channel.shut]
  | @finish t rejection hp ho =>
    have drops : p.stat "dropped" = LaneCounter.dropped.stat p.lane := stat_counter metered rfl
    cases rejection <;> simp [recorded, hp, ho, drops]
  | fan hp hm => simp [recorded, hp, hm]
  | sent hp =>
    have sends : p.stat "sent" = LaneCounter.sent.stat p.lane := stat_counter metered rfl
    simp [recorded, hp, sends]
  | @collectWatched origin id watched failure hp hf =>
    cases watched with
    | nil => exact absurd (Ledger.mem_of_firstSettled hf).1 List.not_mem_nil
    | cons first watched => simp [recorded, hp]
  | @answer origin failure hp =>
    have fails : p.stat "failed" = LaneCounter.failed.stat p.lane := stat_counter metered rfl
    cases failure <;> simp [recorded, hp, fails]
  | hear hp | put hp | lose hp | watch hp | collect hp => simp [recorded, hp]

/-- A worker keeps its name in the metrics. -/
lemma Move.name {new : List (Report σ)} (m : Move process p s new p' s') :
    p'.lane = p.lane ∧ p'.metered = p.metered := by
  cases m <;> exact ⟨rfl, rfl⟩

end Processor

end Conveyor
