import Conveyor.Metrics
import Conveyor.Proofs.Dict
import Mathlib.Algebra.Order.BigOperators.Group.List
import Mathlib.Algebra.Order.Group.Nat
import Mathlib.Algebra.Order.Ring.Int
import Mathlib.Data.List.DropRight

/-!
# What a backend has recorded

Many stats can have the same key, and they are called in any order. What a backend holds after all
calls is told key by key and kind by kind: a counter is the sum of what was counted, a gauge is what
it was last set to and moved by since then, and timings are counted, added up and compared
(`recording_by_key`). Of the order of the calls only that of the calls on gauges matters.

Numbers are unbounded here, and so are durations as far as their sums fit.
-/

namespace Conveyor.Metrics

/-! ### Calls -/

/-- How a stat was obtained. It carries nothing but its key, so it does not matter when that was and
from which clone of the backend. -/
inductive Handle
  | plain (path : String)
  /-- From the family with these label names, bound to these values. -/
  | bound (path : String) (names values : List String)
  /-- From the backend that records nothing. -/
  | noop
deriving DecidableEq

def Handle.stat : Handle → Stat
  | .plain path              => .plain path
  | .bound path names values => .labelled path names values
  | .noop                    => .discarded

/-- Whether a stat records nothing: it comes from the backend that records nothing, or a family was
bound to the wrong number of values. -/
def Handle.Discards : Handle → Prop
  | .plain _              => False
  | .bound _ names values => names.length ≠ values.length
  | .noop                 => True

/-- What is asked of a counter, of a gauge or of a timer. -/
inductive Update
  | count (n : Int)
  | set (value : Int)
  | raise (n : Int)
  | lower (n : Int)
  | time (delta : Duration)
deriving DecidableEq

structure Call where
  handle : Handle
  update : Update
deriving DecidableEq

/-- What is recorded after a call; there is nothing if it panics. -/
def Store.call (s : Store) (c : Call) : Option Store :=
  match c.update with
  | .count n    => some (s.count c.handle.stat n)
  | .set value  => some (s.setGauge c.handle.stat value)
  | .raise n    => some (s.moveGauge c.handle.stat n)
  | .lower n    => some (s.moveGauge c.handle.stat (-n))
  | .time delta =>
    let (fits, s') := s.time c.handle.stat delta
    if fits then some s' else none

/-- What a new backend has recorded after some calls; there is nothing if one of them panics. -/
def recording (calls : List Call) : Option Store := calls.foldlM Store.call {}

/-! ### What the calls tell of one key -/

/-- What the stats with this key were asked to do. -/
def updates (key : String) (calls : List Call) : List Update :=
  (calls.filter fun c => c.handle.stat = .recorded key).map Call.update

namespace Update

def increment? : Update → Option Int
  | .count n => some n
  | _        => none

def set? : Update → Option Int
  | .set value => some value
  | _          => none

def raised? : Update → Option Int
  | .raise n => some n
  | _        => none

def lowered? : Update → Option Int
  | .lower n => some n
  | _        => none

def delta? : Update → Option Duration
  | .time delta => some delta
  | _           => none

/-- Whether something is asked of a gauge. -/
def isGauge : Update → Bool
  | .set _ | .raise _ | .lower _ => true
  | .count _ | .time _           => false

end Update

/-- What a counter is after these increments. It exists if there was any. -/
def sumOf (increments : List Int) : Option Int :=
  if increments = [] then none else some increments.sum

def counterOf (updates : List Update) : Option Int := sumOf (updates.filterMap Update.increment?)

/-- What a gauge was last set to. -/
def lastSet? (asked : List Update) : Option Int := asked.reverse.findSome? Update.set?

/-- What was asked of a gauge since it was last set. -/
def sinceSet (asked : List Update) : List Update := asked.rtakeWhile fun update => update.set?.isNone

/-- What a gauge is after all that was asked of it. It exists if there was anything, and it is the
value that it was last set to, or 0, and what it was raised by and lowered by since then. -/
def levelOf (asked : List Update) : Option Int :=
  if asked = [] then none
  else some ((lastSet? asked).getD 0 + ((sinceSet asked).filterMap Update.raised?).sum
    - ((sinceSet asked).filterMap Update.lowered?).sum)

def gaugeOf (updates : List Update) : Option Int := levelOf (updates.filter Update.isGauge)

/-- The sum of the timings with one key. -/
def totalOf (updates : List Update) : Duration :=
  ⟨((updates.filterMap Update.delta?).map Duration.nanoseconds).sum⟩

/-- How timings are summed up. There is a summary if there was any. -/
def summaryOf (deltas : List Duration) : Option TimingSummary :=
  if deltas = [] then none
  else some
    { count := deltas.length
      total := ⟨(deltas.map Duration.nanoseconds).sum⟩
      longest := deltas.foldl Duration.max .zero }

def timingOf (updates : List Update) : Option TimingSummary :=
  summaryOf (updates.filterMap Update.delta?)

/-! ### One call more -/

lemma sumOf_snoc (increments : List Int) (n : Int) :
    sumOf (increments ++ [n]) = some ((sumOf increments).getD 0 + n) := by
  cases increments with
  | nil => simp [sumOf]
  | cons m increments => simp [sumOf, Int.add_assoc]

lemma lastSet?_snoc (asked : List Update) (u : Update) :
    lastSet? (asked ++ [u]) = (u.set? <|> lastSet? asked) := by
  rw [lastSet?, List.reverse_append, List.reverse_singleton, List.singleton_append,
    List.findSome?_cons]
  cases u.set? <;> rfl

lemma sinceSet_snoc (asked : List Update) (u : Update) :
    sinceSet (asked ++ [u]) = if u.set?.isNone then sinceSet asked ++ [u] else [] :=
  List.rtakeWhile_concat ..

/-- A gauge of which nothing was asked yet counts as 0. -/
lemma levelOf_getD (asked : List Update) :
    (levelOf asked).getD 0 =
      (lastSet? asked).getD 0 + ((sinceSet asked).filterMap Update.raised?).sum
        - ((sinceSet asked).filterMap Update.lowered?).sum := by
  rw [levelOf]
  split
  · subst asked
    rfl
  · rfl

lemma levelOf_set (asked : List Update) (value : Int) :
    levelOf (asked ++ [.set value]) = some value := by
  simp [levelOf, lastSet?_snoc, sinceSet_snoc, Update.set?]

lemma levelOf_raise (asked : List Update) (n : Int) :
    levelOf (asked ++ [.raise n]) = some ((levelOf asked).getD 0 + n) := by
  have raised : [Update.raise n].filterMap Update.raised? = [n] := rfl
  have lowered : [Update.raise n].filterMap Update.lowered? = [] := rfl
  rw [levelOf_getD]
  simp [levelOf, lastSet?_snoc, sinceSet_snoc, Update.set?, raised, lowered]
  omega

lemma levelOf_lower (asked : List Update) (n : Int) :
    levelOf (asked ++ [.lower n]) = some ((levelOf asked).getD 0 - n) := by
  have raised : [Update.lower n].filterMap Update.raised? = [] := rfl
  have lowered : [Update.lower n].filterMap Update.lowered? = [n] := rfl
  rw [levelOf_getD]
  simp [levelOf, lastSet?_snoc, sinceSet_snoc, Update.set?, raised, lowered]
  omega

lemma summaryOf_snoc (deltas : List Duration) (delta : Duration) :
    summaryOf (deltas ++ [delta]) =
      let old := (summaryOf deltas).getD {}
      some ⟨old.count + 1, ⟨old.total.nanoseconds + delta.nanoseconds⟩, old.longest.max delta⟩ := by
  by_cases first : deltas = []
  · simp [summaryOf, first, Duration.zero]
  · simp [summaryOf, first]

/-- The sum in a summary is that of all timings. -/
lemma total_timingOf (us : List Update) : ((timingOf us).getD {}).total = totalOf us := by
  rw [timingOf, summaryOf]
  split
  next none => rw [totalOf, none]; rfl
  next => rfl

lemma totalOf_time (us : List Update) (delta : Duration) :
    totalOf (us ++ [.time delta]) = ⟨(totalOf us).nanoseconds + delta.nanoseconds⟩ := by
  simp [totalOf, Update.delta?]

lemma updates_snoc (key : String) (calls : List Call) (c : Call) :
    updates key (calls ++ [c]) =
      if c.handle.stat = .recorded key then updates key calls ++ [c.update]
      else updates key calls := by
  rw [updates, List.filter_append, List.map_append]
  by_cases same : c.handle.stat = .recorded key
  · simp [updates, same]
  · simp [updates, same]

/-- A sum of fewer timings fits, too. -/
lemma fits_of_sublist {us us' : List Update} (h : us.Sublist us') (fits : (totalOf us').Fits) :
    (totalOf us).Fits := by
  have sums : (totalOf us).nanoseconds ≤ (totalOf us').nanoseconds :=
    ((h.filterMap Update.delta?).map Duration.nanoseconds).sum_le_sum fun _ _ => Nat.zero_le _
  exact lt_of_le_of_lt (Nat.div_le_div_right sums) fits

/-- The timings under each key fit if all together do. -/
lemma fits_updates {calls : List Call} (fits : (totalOf (calls.map Call.update)).Fits)
    (key : String) : (totalOf (updates key calls)).Fits :=
  fits_of_sublist (List.filter_sublist.map _) fits

/-! ### What is recorded -/

namespace Update

/-- What an update makes of the counter with its key. -/
def onCounter : Update → Option Int → Option Int
  | .count n, old => some (old.getD 0 + n)
  | _, old        => old

/-- What an update makes of the gauge with its key. -/
def onGauge : Update → Option Int → Option Int
  | .set value, _ => some value
  | .raise n, old => some (old.getD 0 + n)
  | .lower n, old => some (old.getD 0 - n)
  | _, old        => old

/-- What an update makes of the timings with its key. -/
def onTiming : Update → Option TimingSummary → Option TimingSummary
  | .time delta, old =>
    let old := old.getD {}
    some ⟨old.count + 1, ⟨old.total.nanoseconds + delta.nanoseconds⟩, old.longest.max delta⟩
  | _, old           => old

variable (us : List Update) (u : Update)

lemma counterOf_snoc : counterOf (us ++ [u]) = u.onCounter (counterOf us) := by
  rw [counterOf, List.filterMap_append]
  cases u with
  | count n => exact sumOf_snoc _ n
  | set _ | raise _ | lower _ | time _ => exact congrArg sumOf (List.append_nil _)

lemma gaugeOf_snoc : gaugeOf (us ++ [u]) = u.onGauge (gaugeOf us) := by
  rw [gaugeOf, List.filter_append]
  cases u with
  | set value => exact levelOf_set _ value
  | raise n => exact levelOf_raise _ n
  | lower n => exact levelOf_lower _ n
  | count _ | time _ => exact congrArg levelOf (List.append_nil _)

lemma timingOf_snoc : timingOf (us ++ [u]) = u.onTiming (timingOf us) := by
  rw [timingOf, List.filterMap_append]
  cases u with
  | time delta => exact summaryOf_snoc _ delta
  | count _ | set _ | raise _ | lower _ => exact congrArg summaryOf (List.append_nil _)

end Update

namespace Handle

lemma stat_of_discards {h : Handle} (hd : h.Discards) : h.stat = .discarded := by
  cases h with
  | plain path => cases hd
  | bound path names values => simp [stat, Stat.labelled, pairLabels, show _ ≠ _ from hd]
  | noop => rfl

end Handle

namespace Store

variable {s s' : Store}

/-- A call on a stat that records nothing changes nothing. -/
lemma call_of_discarded {c : Call} (h : c.handle.stat = .discarded) (s : Store) :
    s.call c = some s := by
  obtain ⟨handle, update⟩ := c
  rw [call, show handle.stat = .discarded from h]
  cases update <;> rfl

lemma time_of_fits {key : String} {delta : Duration}
    (fits : Duration.Fits
      ⟨((s.timings.get? key).getD {}).total.nanoseconds + delta.nanoseconds⟩) :
    s.time (.recorded key) delta =
      let old := (s.timings.get? key).getD {}
      let summary : TimingSummary :=
        ⟨old.count + 1, ⟨old.total.nanoseconds + delta.nanoseconds⟩, old.longest.max delta⟩
      (true, { s with timings := s.timings.insert key summary }) := by
  simp only [time, Duration.add?, if_pos fits]

/-- A call changes what is held under its key, each kind on its own, and nothing else. -/
lemma call_of_recorded {c : Call} {key : String} (hk : c.handle.stat = .recorded key)
    (fits : ∀ delta, c.update = .time delta → Duration.Fits
      ⟨((s.timings.get? key).getD {}).total.nanoseconds + delta.nanoseconds⟩) :
    ∃ s', s.call c = some s' ∧ ∀ other,
      s'.counters.get? other =
        (if other = key then c.update.onCounter else id) (s.counters.get? other) ∧
      s'.gauges.get? other =
        (if other = key then c.update.onGauge else id) (s.gauges.get? other) ∧
      s'.timings.get? other =
        (if other = key then c.update.onTiming else id) (s.timings.get? other) := by
  obtain ⟨handle, update⟩ := c
  simp only at hk fits
  cases update with
  | count n =>
    refine ⟨s.count (.recorded key) n, by simp [call, hk], fun other => ?_⟩
    by_cases same : other = key <;>
      simp [count, Dict.upsert, same, Update.onCounter, Update.onGauge, Update.onTiming]
  | set value =>
    refine ⟨s.setGauge (.recorded key) value, by simp [call, hk], fun other => ?_⟩
    by_cases same : other = key <;>
      simp [setGauge, same, Update.onCounter, Update.onGauge, Update.onTiming]
  | raise n =>
    refine ⟨s.moveGauge (.recorded key) n, by simp [call, hk], fun other => ?_⟩
    by_cases same : other = key <;>
      simp [moveGauge, Dict.upsert, same, Update.onCounter, Update.onGauge, Update.onTiming]
  | lower n =>
    refine ⟨s.moveGauge (.recorded key) (-n), by simp [call, hk], fun other => ?_⟩
    by_cases same : other = key <;>
      simp [moveGauge, Dict.upsert, same, Update.onCounter, Update.onGauge, Update.onTiming,
        Int.sub_eq_add_neg]
  | time delta =>
    refine ⟨(s.time (.recorded key) delta).2,
      by simp [call, hk, time_of_fits (fits delta rfl)], fun other => ?_⟩
    rw [time_of_fits (fits delta rfl)]
    by_cases same : other = key <;>
      simp [same, Update.onCounter, Update.onGauge, Update.onTiming]

/-- What is held under each key is told by the calls. -/
structure Tells (s : Store) (calls : List Call) : Prop where
  counter : ∀ key, s.counters.get? key = counterOf (updates key calls)
  gauge : ∀ key, s.gauges.get? key = gaugeOf (updates key calls)
  timing : ∀ key, s.timings.get? key = timingOf (updates key calls)

lemma tells_nil : Tells {} [] := ⟨fun _ => rfl, fun _ => rfl, fun _ => rfl⟩

lemma Tells.snoc {calls : List Call} (h : s.Tells calls) {c : Call}
    (fits : ∀ key, (totalOf (updates key (calls ++ [c]))).Fits) :
    ∃ s', s.call c = some s' ∧ s'.Tells (calls ++ [c]) := by
  cases hs : c.handle.stat with
  | discarded =>
    have same (key : String) : updates key (calls ++ [c]) = updates key calls := by
      rw [updates_snoc, if_neg (by simp [hs])]
    refine ⟨s, call_of_discarded hs s, fun key => ?_, fun key => ?_, fun key => ?_⟩
    · rw [same, h.counter]
    · rw [same, h.gauge]
    · rw [same, h.timing]
  | recorded key =>
    have one_more (other : String) : updates other (calls ++ [c]) =
        if other = key then updates other calls ++ [c.update] else updates other calls := by
      rw [updates_snoc, hs]
      simp only [Stat.recorded.injEq, eq_comm]
    obtain ⟨s', called, told⟩ := call_of_recorded (s := s) hs fun delta hd => by
      have sum := fits key
      rw [one_more, if_pos rfl, hd, totalOf_time] at sum
      rwa [h.timing, total_timingOf]
    refine ⟨s', called, fun other => ?_, fun other => ?_, fun other => ?_⟩
    · rw [(told other).1, one_more, h.counter]
      split
      · exact (Update.counterOf_snoc ..).symm
      · rfl
    · rw [(told other).2.1, one_more, h.gauge]
      split
      · exact (Update.gaugeOf_snoc ..).symm
      · rfl
    · rw [(told other).2.2, one_more, h.timing]
      split
      · exact (Update.timingOf_snoc ..).symm
      · rfl

/-- The calls tell everything that is held. -/
lemma Tells.unique {calls : List Call} (h : s.Tells calls) (h' : s'.Tells calls) : s = s' := by
  have counters : s.counters = s'.counters :=
    Dict.ext_get? fun key => (h.counter key).trans (h'.counter key).symm
  have gauges : s.gauges = s'.gauges :=
    Dict.ext_get? fun key => (h.gauge key).trans (h'.gauge key).symm
  have timings : s.timings = s'.timings :=
    Dict.ext_get? fun key => (h.timing key).trans (h'.timing key).symm
  cases s
  cases s'
  simp only at counters gauges timings
  rw [counters, gauges, timings]

end Store

lemma recording_tells {calls : List Call} (fits : ∀ key, (totalOf (updates key calls)).Fits) :
    ∃ s, recording calls = some s ∧ s.Tells calls := by
  induction calls using List.reverseRecOn with
  | nil => exact ⟨{}, rfl, Store.tells_nil⟩
  | append_singleton calls c ih =>
    obtain ⟨s, recorded, told⟩ := ih fun key =>
      fits_of_sublist (((List.sublist_append_left calls [c]).filter _).map _) (fits key)
    obtain ⟨s', called, told'⟩ := told.snoc fits
    refine ⟨s', ?_, told'⟩
    rw [recording, List.foldlM_append, ← recording, recorded]
    simp [called]

/-! ### Calls in another order -/

def Call.isGauge (c : Call) : Bool := c.update.isGauge

section Reordering

lemma sumOf_of_perm {increments increments' : List Int} (h : increments.Perm increments') :
    sumOf increments = sumOf increments' := by
  have first : increments = [] ↔ increments' = [] := by
    rw [← List.length_eq_zero_iff, h.length_eq, List.length_eq_zero_iff]
  simp only [sumOf, first, h.sum_eq]

lemma summaryOf_of_perm {deltas deltas' : List Duration} (h : deltas.Perm deltas') :
    summaryOf deltas = summaryOf deltas' := by
  have first : deltas = [] ↔ deltas' = [] := by
    rw [← List.length_eq_zero_iff, h.length_eq, List.length_eq_zero_iff]
  have longest : deltas.foldl Duration.max .zero = deltas'.foldl Duration.max .zero := by
    apply h.foldl_eq'
    intro a _ b _ c
    exact congrArg Duration.mk (Nat.max_right_comm ..)
  simp only [summaryOf, first, h.length_eq, (h.map Duration.nanoseconds).sum_eq, longest]

variable {calls calls' : List Call}

lemma updates_perm (h : calls.Perm calls') (key : String) :
    (updates key calls).Perm (updates key calls') :=
  (h.filter _).map _

lemma totalOf_of_perm {us us' : List Update} (h : us.Perm us') : totalOf us = totalOf us' :=
  congrArg Duration.mk ((h.filterMap Update.delta?).map Duration.nanoseconds).sum_eq

/-- Gauges know nothing of the other calls. -/
lemma gaugeOf_updates (key : String) (calls : List Call) :
    gaugeOf (updates key calls) = levelOf (updates key (calls.filter Call.isGauge)) := by
  have gauge : Call.isGauge = Update.isGauge ∘ Call.update := rfl
  rw [gaugeOf, updates, updates, List.filter_map, List.filter_filter, List.filter_filter, gauge]
  simp only [Bool.and_comm]

lemma Store.Tells.of_perm {s : Store} (told : s.Tells calls) (h : calls.Perm calls')
    (gauges : calls.filter Call.isGauge = calls'.filter Call.isGauge) : s.Tells calls' where
  counter key := by
    rw [told.counter]
    exact sumOf_of_perm ((updates_perm h key).filterMap _)
  gauge key := by rw [told.gauge, gaugeOf_updates, gaugeOf_updates, gauges]
  timing key := by
    rw [told.timing]
    exact summaryOf_of_perm ((updates_perm h key).filterMap _)

end Reordering

/-- What a backend holds after some calls is told key by key and kind by kind: a counter exists if it
was counted up by any stat with its key, and is the sum of the increments; a gauge is what it was last
set to, or 0, and what it was raised by and lowered by since then; timings are their number, sum and
maximum. Calls on a stat that was bound to the wrong number of label values, or that comes from the
backend that records nothing, change nothing. The calls can be made in any order that keeps that of
the calls on gauges. -/
theorem recording_by_key (calls : List Call) (fits : ∀ key, (totalOf (updates key calls)).Fits) :
    ∃ s, recording calls = some s ∧
      (∀ key, s.counters.get? key = counterOf (updates key calls) ∧
        s.gauges.get? key = gaugeOf (updates key calls) ∧
        s.timings.get? key = timingOf (updates key calls)) ∧
      (∀ c : Call, c.handle.Discards → ∀ s : Store, s.call c = some s) ∧
      ∀ calls', calls.Perm calls' → calls.filter Call.isGauge = calls'.filter Call.isGauge →
        recording calls' = some s := by
  obtain ⟨s, recorded, told⟩ := recording_tells fits
  refine ⟨s, recorded, fun key => ⟨told.counter key, told.gauge key, told.timing key⟩, ?_, ?_⟩
  · intro c discards
    exact Store.call_of_discarded (Handle.stat_of_discards discards)
  · intro calls' h gauges
    have fits' : ∀ key, (totalOf (updates key calls')).Fits := fun key =>
      totalOf_of_perm (updates_perm h key) ▸ fits key
    obtain ⟨s', recorded', told'⟩ := recording_tells fits'
    rw [recorded', (told.of_perm h gauges).unique told']

/-- Calls on stats of which some share a key and two record nothing. -/
def mingled : List Call :=
  [⟨.plain "lane", .count 2⟩, ⟨.bound "lane" ["id"] ["0"], .count 5⟩,
    ⟨.bound "lane" [] [], .count 1⟩, ⟨.bound "lane" ["id"] [], .count 7⟩, ⟨.noop, .set 9⟩,
    ⟨.plain "lane", .raise 3⟩, ⟨.plain "lane", .set 4⟩, ⟨.bound "lane" [] [], .raise 1⟩,
    ⟨.plain "lane", .lower 2⟩,
    ⟨.plain "lane", .time ⟨3⟩⟩, ⟨.plain "lane", .time ⟨7⟩⟩]

theorem recording_by_key_mingled :
    (∀ key, (totalOf (updates key mingled)).Fits) ∧
      ∃ s, recording mingled = some s ∧
        s.counters.get? "lane" = some 3 ∧ s.counters.get? "lane\x7bid=0\x7d" = some 5 ∧
        s.gauges.get? "lane" = some 3 ∧ s.gauges.get? "lane\x7bid=0\x7d" = none ∧
        s.timings.get? "lane" = some ⟨2, ⟨10⟩, ⟨7⟩⟩ ∧
        recording (mingled.drop 9 ++ mingled.take 9) = some s := by
  have fits : ∀ key, (totalOf (updates key mingled)).Fits := fits_updates (by decide +kernel)
  obtain ⟨s, recorded, told, -, reordered⟩ := recording_by_key mingled fits
  have plain : updates "lane" mingled =
      [.count 2, .count 1, .raise 3, .set 4, .raise 1, .lower 2, .time ⟨3⟩, .time ⟨7⟩] := by
    decide +kernel
  have bound : updates "lane\x7bid=0\x7d" mingled = [.count 5] := by decide +kernel
  obtain ⟨counter, gauge, timing⟩ := told "lane"
  obtain ⟨counter', gauge', -⟩ := told "lane\x7bid=0\x7d"
  rw [plain] at counter gauge timing
  rw [bound] at counter' gauge'
  have moved : mingled.Perm (mingled.drop 9 ++ mingled.take 9) := by
    conv_lhs => rw [← List.take_append_drop 9 mingled]
    exact List.perm_append_comm
  exact ⟨fits, s, recorded, counter.trans rfl, counter'.trans rfl, gauge.trans (by decide +kernel),
    gauge'.trans rfl, timing.trans rfl, reordered _ moved rfl⟩

end Conveyor.Metrics
