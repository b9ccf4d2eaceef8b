import Conveyor.Proofs.Metrics.Calls

/-!
# Timings whose sum does not fit

A call on a timer panics when the sum of the timings under its key does not fit any more. By then the
call has been counted, so what it leaves behind is half recorded (`half_recorded`): the count under a
key is that of all calls, while the sum and the maximum are those of the calls that returned
(`timings_by_key`). The count is right as long as no call panics.
-/

namespace Conveyor.Metrics

/-! ### Calls on timers -/

/-- A call on a timer. -/
structure Timing where
  handle : Handle
  delta : Duration
deriving DecidableEq

/-- A call on a timer and whether it returned. -/
structure Timed extends Timing where
  returned : Bool
deriving DecidableEq

/-- Make one call more. If it panics the calls after it go on with what it leaves behind. -/
def timeNext (state : List Timed × Store) (t : Timing) : List Timed × Store :=
  let (returned, s) := state.2.time t.handle.stat t.delta
  (state.1 ++ [{ t with returned }], s)

/-- What came of the calls on the timers of a new backend, and what is recorded after them. -/
def timing (calls : List Timing) : List Timed × Store := calls.foldl timeNext ([], {})

/-! ### What the calls tell of one key -/

def Timed.Under (key : String) (t : Timed) : Prop := t.handle.stat = .recorded key

instance (key : String) (t : Timed) : Decidable (t.Under key) :=
  inferInstanceAs (Decidable (_ = _))

/-- The calls with this key, whether or not they returned. -/
def callsUnder (key : String) (log : List Timed) : List Timed := log.filter (·.Under key)

/-- The timings of the calls with this key that returned. -/
def returnedUnder (key : String) (log : List Timed) : List Duration :=
  ((callsUnder key log).filter Timed.returned).map (·.delta)

def sumOfDurations (deltas : List Duration) : Duration := ⟨(deltas.map Duration.nanoseconds).sum⟩

def longestOf (deltas : List Duration) : Duration := deltas.foldl Duration.max .zero

/-- What is recorded under a key: all calls are counted, and those that returned are added up and
compared. -/
def recordedUnder (key : String) (log : List Timed) : Option TimingSummary :=
  if callsUnder key log = [] then none
  else some
    { count := (callsUnder key log).length
      total := sumOfDurations (returnedUnder key log)
      longest := longestOf (returnedUnder key log) }

variable {key other : String} {log : List Timed} {t : Timed} {s s' : Store} {delta : Duration}
  {deltas : List Duration}

/-! ### Sums and maxima -/

lemma sumOfDurations_snoc (deltas : List Duration) (delta : Duration) :
    sumOfDurations (deltas ++ [delta]) =
      ⟨(sumOfDurations deltas).nanoseconds + delta.nanoseconds⟩ := by
  simp [sumOfDurations]

lemma longestOf_snoc (deltas : List Duration) (delta : Duration) :
    longestOf (deltas ++ [delta]) = (longestOf deltas).max delta := by
  simp [longestOf]

/-- A sum is at least its largest part, and at most as many times this part as it has parts. -/
lemma longestOf_le_sumOfDurations (deltas : List Duration) :
    (longestOf deltas).nanoseconds ≤ (sumOfDurations deltas).nanoseconds ∧
      (sumOfDurations deltas).nanoseconds ≤ deltas.length * (longestOf deltas).nanoseconds := by
  induction deltas using List.reverseRecOn with
  | nil => exact ⟨le_rfl, Nat.zero_le _⟩
  | append_singleton deltas delta ih =>
    obtain ⟨lower, upper⟩ := ih
    rw [sumOfDurations_snoc, longestOf_snoc, List.length_append, List.length_singleton, Nat.add_mul,
      Nat.one_mul]
    have left : (longestOf deltas).nanoseconds ≤ ((longestOf deltas).max delta).nanoseconds :=
      Nat.le_max_left ..
    have right : delta.nanoseconds ≤ ((longestOf deltas).max delta).nanoseconds :=
      Nat.le_max_right ..
    refine ⟨Nat.max_le.mpr ⟨?_, ?_⟩, ?_⟩
    · exact lower.trans (Nat.le_add_right ..)
    · exact Nat.le_add_left ..
    · exact Nat.add_le_add (upper.trans (Nat.mul_le_mul_left _ left)) right

/-! ### One call more -/

lemma callsUnder_snoc (key : String) (log : List Timed) (t : Timed) :
    callsUnder key (log ++ [t]) =
      if t.Under key then callsUnder key log ++ [t] else callsUnder key log := by
  by_cases h : t.Under key <;> simp [callsUnder, h]

lemma returnedUnder_snoc (key : String) (log : List Timed) (t : Timed) :
    returnedUnder key (log ++ [t]) =
      if t.Under key ∧ t.returned then returnedUnder key log ++ [t.delta]
      else returnedUnder key log := by
  rw [returnedUnder, callsUnder_snoc]
  by_cases h : t.Under key <;> by_cases hr : t.returned = true <;> simp [returnedUnder, h, hr]

lemma recordedUnder_snoc_of_not_under (h : ¬t.Under key) :
    recordedUnder key (log ++ [t]) = recordedUnder key log := by
  simp [recordedUnder, callsUnder_snoc, returnedUnder_snoc, h]

/-- Where nothing was called yet the summary counts as empty. -/
lemma recordedUnder_getD (key : String) (log : List Timed) :
    (recordedUnder key log).getD {} =
      ⟨(callsUnder key log).length, sumOfDurations (returnedUnder key log),
        longestOf (returnedUnder key log)⟩ := by
  by_cases first : callsUnder key log = []
  · simp [recordedUnder, returnedUnder, first, sumOfDurations, longestOf, Duration.zero]
  · simp [recordedUnder, first]

/-- One call more under a key is counted, and if it returned it is added up and compared. -/
lemma recordedUnder_snoc (h : t.Under key) :
    recordedUnder key (log ++ [t]) =
      let old := (recordedUnder key log).getD {}
      let counted := { old with count := old.count + 1 }
      some (if t.returned then
        { counted with
          total := ⟨old.total.nanoseconds + t.delta.nanoseconds⟩, longest := old.longest.max t.delta }
      else counted) := by
  rw [recordedUnder_getD, recordedUnder, callsUnder_snoc, returnedUnder_snoc]
  by_cases hr : t.returned = true <;> simp [h, hr, sumOfDurations_snoc, longestOf_snoc]

/-- What a call on a timer returns and leaves behind. -/
lemma Store.time_cases (s : Store) (key : String) (delta : Duration) :
    let old := (s.timings.get? key).getD {}
    let counted := { old with count := old.count + 1 }
    let total : Duration := ⟨old.total.nanoseconds + delta.nanoseconds⟩
    s.time (.recorded key) delta = (decide total.Fits, { s with
      timings := s.timings.insert key
        (if total.Fits then { counted with total, longest := old.longest.max delta }
        else counted) }) := by
  by_cases fits : Duration.Fits
      ⟨((s.timings.get? key).getD {}).total.nanoseconds + delta.nanoseconds⟩
  · simp [time, Duration.add?, fits]
  · simp [time, Duration.add?, fits]

/-! ### What is recorded -/

/-- What the log of the calls tells of a backend and of the calls. -/
structure Logged (log : List Timed) (s : Store) : Prop where
  /-- What is held under each key is told by the log. -/
  held : ∀ key, s.timings.get? key = recordedUnder key log
  /-- A call panics if and only if the sum of the timings would not fit. -/
  panics : ∀ before t after, log = before ++ t :: after →
    (t.returned = true ↔ ∀ key, t.Under key →
      Duration.Fits ⟨(sumOfDurations (returnedUnder key before)).nanoseconds + t.delta.nanoseconds⟩)

lemma logged_nil : Logged [] {} where
  held _ := rfl
  panics := by simp

lemma Logged.snoc {log : List Timed} (h : Logged log s) (t : Timing) :
    Logged (timeNext (log, s) t).1 (timeNext (log, s) t).2 := by
  -- the call is judged by what is recorded before it, which the log tells
  have judged {returned : Bool} (now : returned = true ↔ ∀ key, t.handle.stat = .recorded key →
      Duration.Fits ⟨(sumOfDurations (returnedUnder key log)).nanoseconds + t.delta.nanoseconds⟩) :
      ∀ before t' after, log ++ [{ t with returned }] = before ++ t' :: after →
        (t'.returned = true ↔ ∀ key, t'.Under key → Duration.Fits
          ⟨(sumOfDurations (returnedUnder key before)).nanoseconds + t'.delta.nanoseconds⟩) := by
    intro before t' after split
    rcases List.eq_nil_or_concat' after with rfl | ⟨after, last, rfl⟩
    · obtain ⟨rfl, same⟩ := List.append_inj' split rfl
      obtain rfl := List.singleton_inj.mp same
      exact now
    · rw [← List.cons_append, ← List.append_assoc] at split
      exact h.panics _ _ _ (List.append_inj' split rfl).1
  cases hs : t.handle.stat with
  | discarded =>
    have same : timeNext (log, s) t = (log ++ [{ t with returned := true }], s) := by
      simp [timeNext, Store.time, hs]
    rw [same]
    refine ⟨fun key => ?_, judged (by simp [hs])⟩
    rw [recordedUnder_snoc_of_not_under (by simp [Timed.Under, hs]), h.held]
  | recorded key =>
    have next := s.time_cases key t.delta
    rw [h.held] at next
    simp only [timeNext, hs, next]
    refine ⟨fun other => ?_, judged ?_⟩
    · by_cases same : other = key
      · subst same
        rw [Dict.get?_insert, if_pos rfl, recordedUnder_snoc (by simp [Timed.Under, hs])]
        simp
      · have apart : ¬key = other := Ne.symm same
        rw [Dict.get?_insert, if_neg same,
          recordedUnder_snoc_of_not_under (by simp [Timed.Under, hs, apart]), h.held]
    · simp [hs, recordedUnder_getD]

lemma logged_timing (calls : List Timing) : Logged (timing calls).1 (timing calls).2 := by
  induction calls using List.reverseRecOn with
  | nil => exact logged_nil
  | append_singleton calls t ih =>
    rw [timing, List.foldl_concat]
    exact ih.snoc t

lemma toTiming_timing (calls : List Timing) : (timing calls).1.map Timed.toTiming = calls := by
  induction calls using List.reverseRecOn with
  | nil => rfl
  | append_singleton calls t ih =>
    rw [timing, List.foldl_concat, ← timing]
    simp [timeNext, ih]

lemma length_returnedUnder (key : String) (log : List Timed) :
    (returnedUnder key log).length ≤ (callsUnder key log).length := by
  rw [returnedUnder, List.length_map]
  exact List.length_filter_le ..

/-- After any calls on the timers of a backend, of which those whose sum does not fit panic, the
summary under each key has the number of all calls on it, and the sum and the maximum of those that
returned. So a call that panics changes nothing but the count of its own summary, and if none panics
the count is that of the calls that returned. The maximum is at most the sum, and the sum at most as
many times the maximum as the count says. -/
theorem timings_by_key (calls : List Timing) :
    (timing calls).1.map Timed.toTiming = calls ∧
      (∀ before t after, (timing calls).1 = before ++ t :: after →
        (t.returned = true ↔ ∀ key, t.Under key → Duration.Fits
          ⟨(sumOfDurations (returnedUnder key before)).nanoseconds + t.delta.nanoseconds⟩)) ∧
      (∀ key, (timing calls).2.timings.get? key = recordedUnder key (timing calls).1) ∧
      (∀ t : Timing, ((timing calls).2.time t.handle.stat t.delta).1 = false → ∀ key,
        (timing (calls ++ [t])).2.timings.get? key =
          if t.handle.stat = .recorded key then
            let old := ((timing calls).2.timings.get? key).getD {}
            some { old with count := old.count + 1 }
          else (timing calls).2.timings.get? key) ∧
      (∀ key, (∀ t ∈ (timing calls).1, t.Under key → t.returned = true) →
        (timing calls).2.timings.get? key = summaryOf (returnedUnder key (timing calls).1)) ∧
      ∀ key summary, (timing calls).2.timings.get? key = some summary →
        summary.longest.nanoseconds ≤ summary.total.nanoseconds ∧
          summary.total.nanoseconds ≤ summary.count * summary.longest.nanoseconds := by
  have logged := logged_timing calls
  refine ⟨toTiming_timing calls, logged.panics, logged.held, fun t panicked key => ?_,
    fun key none => ?_, fun key summary found => ?_⟩
  · have next : (timing (calls ++ [t])).1 = (timing calls).1 ++ [{ t with returned := false }] := by
      rw [timing, List.foldl_concat, ← timing]
      simp [timeNext, panicked]
    rw [(logged_timing (calls ++ [t])).held, next, logged.held]
    by_cases under : t.handle.stat = .recorded key
    · rw [recordedUnder_snoc (show Timed.Under key { t with returned := false } from under),
        if_pos under]
      rfl
    · have apart : ¬Timed.Under key { t with returned := false } := under
      rw [recordedUnder_snoc_of_not_under apart, if_neg under]
  · have all : (callsUnder key (timing calls).1).filter Timed.returned =
        callsUnder key (timing calls).1 := by
      refine List.filter_eq_self.mpr fun t ht => ?_
      obtain ⟨called, under⟩ := List.mem_filter.mp ht
      exact none t called (of_decide_eq_true under)
    rw [logged.held, recordedUnder, summaryOf, returnedUnder, all]
    simp [sumOfDurations, longestOf]
  · rw [logged.held, recordedUnder] at found
    split at found
    next => cases found
    next =>
      cases found
      obtain ⟨lower, upper⟩ := longestOf_le_sumOfDurations (returnedUnder key (timing calls).1)
      exact ⟨lower, upper.trans (Nat.mul_le_mul_right _ (length_returnedUnder ..))⟩

/-- Two timings under one key whose sum does not fit, and one under another key. -/
def excessive : List Timing :=
  [⟨.plain "t", .of 18446744073709551615 0⟩, ⟨.plain "u", .of 1 0⟩, ⟨.plain "t", .of 1 0⟩]

/-- The second call under a key panics, and has been counted. -/
theorem half_recorded :
    (∀ t ∈ excessive, t.delta.Fits) ∧
      (timing excessive).1.map Timed.returned = [true, true, false] ∧
      (timing (excessive.take 2)).2.timings.get? "t" =
        some ⟨1, .of 18446744073709551615 0, .of 18446744073709551615 0⟩ ∧
      (timing excessive).2.timings.get? "t" =
        some ⟨2, .of 18446744073709551615 0, .of 18446744073709551615 0⟩ ∧
      returnedUnder "t" (timing excessive).1 = [.of 18446744073709551615 0] := by
  decide +kernel

end Conveyor.Metrics
