import Conveyor.Message

/-!
# Conditions

A condition is asked about one message after the other and may keep a state between the questions.
-/

namespace Conveyor

/-! ### Counting -/

/-- Counts the questions in rounds: it holds for all questions of a round but the last. -/
structure RoundCounter where
  /-- The length of a round; zero is taken as one. -/
  length : UInt64
  count : UInt64 := 0
deriving DecidableEq, Inhabited

def RoundCounter.check (c : RoundCounter) : Bool × RoundCounter :=
  if c.count + 1 < c.length then (true, { c with count := c.count + 1 })
  else (false, { c with count := 0 })

/-! ### Conditions -/

/-- The conditions that a gate can stand on. -/
inductive Condition
  /-- The same answer to every question. -/
  | always (value : Bool)
  /-- All but the last question of each round. -/
  | rounds (counter : RoundCounter)
  /-- The first part of the message exists and has this content. -/
  | firstPart (content : Bytes)
deriving DecidableEq, Inhabited

def Condition.check : Condition → Message → Bool × Condition
  | .always value, _      => (value, .always value)
  | .rounds counter, _    => let (holds, counter) := counter.check; (holds, .rounds counter)
  | .firstPart content, m => (m.startsWith content, .firstPart content)

end Conveyor
