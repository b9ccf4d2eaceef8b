import Conveyor.Dict
import Conveyor.Duration

/-!
# Metrics

Counters, gauges and timings are kept under text keys. A key is written from a path and from the
labels bound to it; the three kinds of stat have separate stores. A family of stats is bound to
label values to give a stat; with the wrong number of values it gives a stat that records nothing.
-/

namespace Conveyor.Metrics

/-! ### Keys -/

/-- The labels that belong to these names and values, if there are as many names as values. -/
def pairLabels (names values : List String) : Option (List (String × String)) :=
  if names.length = values.length then some (names.zip values) else none

/-- The text of a key: the path, and after it the labels in braces. -/
def renderKey (path : String) : List (String × String) → String
  | []     => path
  | labels => path ++ "\x7b" ++ ",".intercalate (labels.map fun l => l.1 ++ "=" ++ l.2) ++ "\x7d"

/-! ### Stats -/

/-- Where the calls on a stat go. -/
inductive Stat
  | recorded (key : String)
  | discarded
deriving DecidableEq, Inhabited

def Stat.plain (path : String) : Stat := .recorded (renderKey path [])

/-- The stat of a family that is bound to these label values. -/
def Stat.labelled (path : String) (names values : List String) : Stat :=
  match pairLabels names values with
  | some labels => .recorded (renderKey path labels)
  | none        => .discarded

/-- The timings under one key. -/
structure TimingSummary where
  count : Nat := 0
  total : Duration := .zero
  longest : Duration := .zero
deriving DecidableEq, Inhabited

/-- All stats that were recorded. -/
structure Store where
  counters : Dict Int := .empty
  gauges : Dict Int := .empty
  timings : Dict TimingSummary := .empty
deriving DecidableEq, Inhabited

namespace Store

def count (s : Store) (stat : Stat) (n : Int) : Store :=
  match stat with
  | .recorded key => { s with counters := s.counters.upsert key 0 (· + n) }
  | .discarded    => s

def setGauge (s : Store) (stat : Stat) (value : Int) : Store :=
  match stat with
  | .recorded key => { s with gauges := s.gauges.insert key value }
  | .discarded    => s

def moveGauge (s : Store) (stat : Stat) (n : Int) : Store :=
  match stat with
  | .recorded key => { s with gauges := s.gauges.upsert key 0 (· + n) }
  | .discarded    => s

/-- Record one timing; the flag says whether the sum of the timings still fits. If it does not, the
timing has been counted already, and sum and maximum stay as they were. -/
def time (s : Store) (stat : Stat) (delta : Duration) : Bool × Store :=
  match stat with
  | .discarded    => (true, s)
  | .recorded key =>
    let old := (s.timings.get? key).getD {}
    let counted := { old with count := old.count + 1 }
    match counted.total.add? delta with
    | none       => (false, { s with timings := s.timings.insert key counted })
    | some total =>
      let summary := { counted with total, longest := old.longest.max delta }
      (true, { s with timings := s.timings.insert key summary })

/-! ### Totals -/

/-- The path of a key: what stands before the first opening brace. -/
def pathOf (key : String) : String := .ofList (key.toList.takeWhile (· ≠ '\x7b'))

def totals (values : Dict Int) : Dict Int :=
  values.toList.foldl (fun sums (key, value) => sums.upsert (pathOf key) 0 (· + value)) .empty

end Store

/-- The text of the panic when a sum of timings does not fit. -/
def timingOverflowPanic : String := "overflow when adding durations"

end Conveyor.Metrics
