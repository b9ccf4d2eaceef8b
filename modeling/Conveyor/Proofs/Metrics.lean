import Conveyor.Pool
import Conveyor.Processor
import Mathlib.Data.List.TakeWhile
import Mathlib.Tactic.Common

/-!
# What the metrics read

A stat reads what was recorded under its key. Stats with different paths, or with the same path and
the numbers of different lanes, have different keys (`LaneCounter.stat_inj`), so what is recorded for
one lane leaves all readings for the others as they are.
-/

namespace Conveyor

namespace Metrics

/-! ### Keys -/

/-- The path can be read off a key, whatever its labels are. -/
lemma Store.pathOf_renderKey {path : String} (plain : '\x7b' ∉ path.toList)
    (labels : List (String × String)) : pathOf (renderKey path labels) = path := by
  have whole : ∀ c ∈ path.toList, decide (c ≠ '\x7b') = true := by
    intro c hc
    rw [decide_eq_true_eq]
    rintro rfl
    exact plain hc
  have path_eq : String.ofList path.toList = path := String.ofList_toList
  unfold pathOf renderKey
  split
  next => rw [List.takeWhile_eq_self_iff.mpr whole, path_eq]
  next =>
    rw [String.append_assoc, String.append_assoc, String.toList_append,
      List.takeWhile_append_of_pos whole, String.toList_append]
    simp [path_eq]

/-- Stats that are labelled with different numbers are different. -/
lemma Stat.labelled_injective (path name : String) :
    Function.Injective fun i : Nat => Stat.labelled path [name] [toString i] := by
  intro i j h
  have keys : path ++ "\x7b" ++ (name ++ "=" ++ toString i) ++ "\x7d" =
      path ++ "\x7b" ++ (name ++ "=" ++ toString j) ++ "\x7d" := by
    simpa [Stat.labelled, pairLabels, renderKey] using h
  rw [String.append_left_inj, String.append_right_inj, String.append_right_inj] at keys
  have digits : Nat.toDigits 10 i = Nat.toDigits 10 j := by
    apply String.ofList_injective
    rwa [← Nat.repr_eq_ofList_toDigits, ← Nat.repr_eq_ofList_toDigits]
  calc i = Nat.ofDigitChars 10 (Nat.toDigits 10 i) 0 := Nat.ofDigitChars_ten_toDigits.symm
    _ = Nat.ofDigitChars 10 (Nat.toDigits 10 j) 0 := by rw [digits]
    _ = j := Nat.ofDigitChars_ten_toDigits

/-! ### Readings -/

namespace Store

variable {s s' : Store} {stat stat' : Stat}

/-- What a counter reads. One that was never counted up reads 0. -/
def counter (s : Store) : Stat → Int
  | .recorded key => (s.counters.get? key).getD 0
  | .discarded    => 0

/-- How many timings a stat has recorded. -/
def timed (s : Store) : Stat → Nat
  | .recorded key => ((s.timings.get? key).map TimingSummary.count).getD 0
  | .discarded    => 0

lemma counter_congr (h : s'.counters = s.counters) : s'.counter stat = s.counter stat := by
  cases stat with
  | recorded key => rw [counter, counter, h]
  | discarded => rfl

lemma timed_congr (h : s'.timings = s.timings) : s'.timed stat = s.timed stat := by
  cases stat with
  | recorded key => rw [timed, timed, h]
  | discarded => rfl

lemma counter_count (recorded : stat ≠ .discarded) (n : Int) (stat' : Stat) :
    (s.count stat n).counter stat' = s.counter stat' + if stat' = stat then n else 0 := by
  cases stat with
  | discarded => exact absurd rfl recorded
  | recorded key =>
    cases stat' with
    | discarded => simp [counter]
    | recorded key' =>
      by_cases h : key' = key
      · subst h
        simp [counter, count, Dict.upsert]
      · simp [counter, count, Dict.upsert, h]

lemma timings_count (stat : Stat) (n : Int) : (s.count stat n).timings = s.timings := by
  cases stat <;> rfl

lemma counters_time (stat : Stat) (delta : Duration) :
    (s.time stat delta).2.counters = s.counters := by
  cases stat with
  | discarded => rfl
  | recorded key =>
    unfold time
    dsimp only
    split <;> rfl

/-- A timing counts even if the sum of all timings does not fit any more. -/
lemma timed_time (recorded : stat ≠ .discarded) (delta : Duration) (stat' : Stat) :
    (s.time stat delta).2.timed stat' = s.timed stat' + if stat' = stat then 1 else 0 := by
  cases stat with
  | discarded => exact absurd rfl recorded
  | recorded key =>
    cases stat' with
    | discarded => simp [timed]
    | recorded key' =>
      have old : (((s.timings.get? key).getD {}).count = s.timed (.recorded key)) := by
        cases h : s.timings.get? key <;> simp [timed, h]
      unfold time
      dsimp only
      by_cases h : key' = key
      · subst h
        split <;> simp [timed, old]
      · split <;> simp [timed, h]

lemma counters_setGauge (stat : Stat) (value : Int) :
    (s.setGauge stat value).counters = s.counters := by
  cases stat <;> rfl

lemma timings_setGauge (stat : Stat) (value : Int) :
    (s.setGauge stat value).timings = s.timings := by
  cases stat <;> rfl

end Store

/-! ### The counters of lanes -/

/-- The counters that are kept for each lane. -/
inductive LaneCounter
  | dispatched
  | received
  | dropped
  | sent
  | failed
deriving DecidableEq

namespace LaneCounter

def path : LaneCounter → String
  | dispatched => "pipeline.pool.dispatched"
  | received   => "pipeline.processor.received"
  | dropped    => "pipeline.processor.dropped"
  | sent       => "pipeline.processor.sent"
  | failed     => "pipeline.processor.failed"

/-- The stat for the lane with a number. -/
def stat (c : LaneCounter) (lane : Nat) : Stat := .labelled c.path ["lane"] [toString lane]

variable {c c' : LaneCounter} {lane lane' : Nat}

lemma stat_eq (c : LaneCounter) (lane : Nat) :
    c.stat lane = .recorded (renderKey c.path [("lane", toString lane)]) := rfl

lemma stat_ne_discarded (c : LaneCounter) (lane : Nat) : c.stat lane ≠ .discarded := by
  simp [stat_eq]

lemma plain_path (c : LaneCounter) : '\x7b' ∉ c.path.toList := by
  cases c <;> decide

@[simp] lemma stat_inj : c.stat lane = c'.stat lane' ↔ c = c' ∧ lane = lane' := by
  constructor
  · intro h
    have keys := congrArg Store.pathOf (Stat.recorded.inj h)
    rw [Store.pathOf_renderKey c.plain_path, Store.pathOf_renderKey c'.plain_path] at keys
    obtain rfl : c = c' := by
      cases c <;> cases c' <;> first | rfl | simp [path] at keys
    exact ⟨rfl, Stat.labelled_injective c.path "lane" h⟩
  · rintro ⟨rfl, rfl⟩
    rfl

end LaneCounter

/-- The stat for the transactions that no lane could take. -/
def undeliverable : Stat := .plain "pipeline.pool.undeliverable"

lemma undeliverable_ne_discarded : undeliverable ≠ .discarded := by
  simp [undeliverable, Stat.plain]

lemma LaneCounter.stat_ne_undeliverable (c : LaneCounter) (lane : Nat) :
    c.stat lane ≠ undeliverable := by
  intro same
  have keys := congrArg Store.pathOf (Stat.recorded.inj same)
  rw [Store.pathOf_renderKey c.plain_path, Store.pathOf_renderKey (by decide)] at keys
  cases c <;> simp [path] at keys

/-- The stat for the runs of the stages in the lane with a number. -/
def latencyStat (lane : Nat) : Stat :=
  .labelled "pipeline.processor.latency" ["lane"] [toString lane]

lemma latencyStat_ne_discarded (lane : Nat) : latencyStat lane ≠ .discarded := by
  have recorded : latencyStat lane =
      .recorded (renderKey "pipeline.processor.latency" [("lane", toString lane)]) := rfl
  simp [recorded]

/-- What the metrics read for one lane. -/
@[ext] structure LaneReadings where
  counter : LaneCounter → Int
  /-- How many runs of the stages were timed. -/
  timed : Nat

/-- The readings for a lane for which nothing was recorded. -/
def LaneReadings.blank : LaneReadings := ⟨fun _ => 0, 0⟩

namespace Store

variable {s s' : Store} {c : LaneCounter} {lane other : Nat}

def readings (s : Store) (lane : Nat) : LaneReadings where
  counter c := s.counter (c.stat lane)
  timed := s.timed (latencyStat lane)

lemma readings_congr (hc : s'.counters = s.counters) (ht : s'.timings = s.timings) (lane : Nat) :
    s'.readings lane = s.readings lane := by
  simp only [readings, counter_congr hc, timed_congr ht]

@[simp] lemma counter_readings_count (s : Store) (c c' : LaneCounter) (lane : Nat) (n : Int) :
    ((s.count (c.stat lane) n).readings lane).counter c' =
      (s.readings lane).counter c' + if c' = c then n else 0 := by
  simp [readings, counter_count (LaneCounter.stat_ne_discarded c lane)]

@[simp] lemma timed_readings_count (s : Store) (stat : Stat) (lane : Nat) (n : Int) :
    ((s.count stat n).readings lane).timed = (s.readings lane).timed := by
  simp only [readings, timed_congr (timings_count stat n)]

@[simp] lemma counter_readings_time (s : Store) (stat : Stat) (delta : Duration) (lane : Nat) :
    ((s.time stat delta).2.readings lane).counter = (s.readings lane).counter := by
  simp only [readings, counter_congr (counters_time stat delta)]

@[simp] lemma timed_readings_time (s : Store) (delta : Duration) (lane : Nat) :
    ((s.time (latencyStat lane) delta).2.readings lane).timed = (s.readings lane).timed + 1 := by
  simp [readings, timed_time (latencyStat_ne_discarded lane)]

/-- What is counted for one lane does not show in the readings for another. -/
lemma readings_count_of_ne (h : other ≠ lane) (n : Int) :
    (s.count (c.stat lane) n).readings other = s.readings other := by
  ext c'
  · simp [readings, counter_count (LaneCounter.stat_ne_discarded c lane), h]
  · simp

lemma readings_count_undeliverable (s : Store) (n : Int) (lane : Nat) :
    (s.count undeliverable n).readings lane = s.readings lane := by
  ext c
  · simp [readings, counter_count undeliverable_ne_discarded, c.stat_ne_undeliverable lane]
  · simp

lemma readings_time_of_ne (h : other ≠ lane) (delta : Duration) :
    (s.time (latencyStat lane) delta).2.readings other = s.readings other := by
  ext c'
  · simp
  · have apart : latencyStat other ≠ latencyStat lane := fun same =>
      h (Stat.labelled_injective _ "lane" same)
    simp [readings, timed_time (latencyStat_ne_discarded lane), apart]

end Store

end Metrics

namespace Pool

variable {P : Type} {pool : Pool P}

lemma dispatchedStat_eq (metered : pool.metered = true) (lane : Nat) :
    pool.dispatchedStat lane = Metrics.LaneCounter.dispatched.stat lane := by
  rw [dispatchedStat, if_pos metered]
  rfl

lemma undeliverableStat_eq (metered : pool.metered = true) :
    pool.undeliverableStat = Metrics.undeliverable := by
  rw [undeliverableStat, if_pos metered]
  rfl

end Pool

end Conveyor
