import Conveyor.Channel
import Conveyor.Metrics
import Conveyor.Stage

/-!
# Pipelines

A pipeline consumes one stream of transactions and emits another. Its inner parties, the actors,
each move by themselves: a step is one move of one actor, a function of the state of the pipeline
and of what lies around it. Nothing is said here about whose turn it is. A run under any schedule
is a sequence of such steps.
-/

namespace Conveyor

/-- What a pipeline shares with the outside. -/
structure Surroundings where
  input : Channel
  /-- Whether somebody can still send on the input. -/
  fed : Bool
  output : Channel
  /-- The response paths of all transactions. -/
  ledger : Ledger
  metrics : Metrics.Store
deriving DecidableEq, Inhabited

/-- A party inside a pipeline that moves by itself. -/
inductive Actor
  /-- Runs the stages of a processor, or answers for a sink. -/
  | worker
  /-- Hands the transactions of a pool out to its lanes. -/
  | dispatcher
  /-- Carries the results of one lane to the output of the pool. -/
  | relay (lane : Nat)
  /-- An actor inside one lane of a pool. -/
  | inLane (lane : Nat) (actor : Actor)
  /-- An actor inside a pipeline that a pool could not start. -/
  | inStray (stray : Nat) (actor : Actor)
deriving DecidableEq, Inhabited

/-- The parts of a pipeline that its owner deals with, for stages of type `σ`. -/
class Pipeline (σ : outParam Type) (P : Type) where
  /-- How many transactions have room in the output stream. -/
  outputCapacity : P → Nat
  outputTaken : P → Bool
  takeOutput : P → P
  /-- Bind an input. The pipeline may put the channel into another state, and refuses it with an
  error, in which case the input is dropped by the caller. -/
  consume : P → Channel → Except PipelineError Unit × P × Channel
  /-- Ask for a shutdown. What was accepted is still completed. -/
  close : P → Metrics.Store → P × Metrics.Store
  /-- Whether some actor can still send on the output stream. -/
  holdsOutput : P → Bool
  /-- The actors at work, in the order in which they were started. -/
  actors : P → List Actor
  /-- Whether the next move of an actor runs stages, which takes longer than other moves. -/
  runsStages : Actor → P → Bool
  /-- One move of an actor, if it can move. -/
  step : Behaviour σ → Actor → P → Surroundings → Option (P × Surroundings)

end Conveyor
