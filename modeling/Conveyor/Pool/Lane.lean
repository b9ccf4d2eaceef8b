import Conveyor.Pipeline

/-!
# Lanes

A lane of a pool is a pipeline between two channels of its own. The dispatcher sends into the first
one, and the relay of the lane carries what arrives in the second one to the output of the pool,
holding at most one result on the way. A lane that the pool gave up is retired: it gets no more
transactions and finishes those it has.
-/

namespace Conveyor

/-- A running lane. -/
structure Lane (P : Type) where
  index : Nat
  queue : Channel
  pipeline : P
  output : Channel
  /-- The result that the relay holds. -/
  carried : Option Transaction := none
  relayEnded : Bool := false
  /-- Whether the pool has given the lane up. -/
  retired : Bool := false
deriving Inhabited

namespace Lane

variable {σ P : Type} [Pipeline σ P]

/-- What lies around the pipeline of a lane: the two channels of the lane, and the ledger and the
metrics of the pool. Its input is fed until the lane is retired. -/
def surroundings (lane : Lane P) (s : Surroundings) : Surroundings :=
  { s with input := lane.queue, fed := !lane.retired, output := lane.output }

/-- One move of an actor inside the pipeline of a lane. -/
def step (process : Behaviour σ) (actor : Actor) (lane : Lane P) (s : Surroundings) :
    Option (Lane P × Surroundings) :=
  (Pipeline.step process actor lane.pipeline (lane.surroundings s)).map fun (pipeline, inner) =>
    ({ lane with pipeline, queue := inner.input, output := inner.output },
      { s with ledger := inner.ledger, metrics := inner.metrics })

/-- One move of the relay of a lane. It waits for room in the output of the pool; if that is closed
the result is abandoned. It ends when no result is left and none can come. -/
def relay (lane : Lane P) (s : Surroundings) : Option (Lane P × Surroundings) :=
  if lane.relayEnded then none
  else
    match lane.carried with
    | some t =>
      let lane := { lane with carried := none }
      if s.output.closed then some (lane, { s with ledger := s.ledger.abandon t.reply })
      else if s.output.hasRoom then some (lane, { s with output := s.output.push t })
      else none
    | none =>
      match lane.output.queue with
      | t :: rest =>
        some ({ lane with carried := some t, output := { lane.output with queue := rest } }, s)
      | [] =>
        if Pipeline.holdsOutput lane.pipeline then none
        else some ({ lane with relayEnded := true, output := lane.output.shut }, s)

/-- Give a lane up: nothing is sent to it any more, and it is asked to shut down. -/
def retire (lane : Lane P) (metrics : Metrics.Store) : Lane P × Metrics.Store :=
  let (pipeline, metrics) := Pipeline.close lane.pipeline metrics
  ({ lane with pipeline, retired := true }, metrics)

/-- The actors of a lane that is the `i`-th of its pool. -/
def actors (i : Nat) (lane : Lane P) : List Actor :=
  (Pipeline.actors lane.pipeline).map (.inLane i) ++ [.relay i]

end Lane

/-! ### The choice of a lane -/

/-- What the dispatcher finds when it looks for a lane with room. -/
inductive Reservation
  /-- This lane has room. -/
  | found (position : Nat)
  /-- No lane has room, but one may have it later. -/
  | wait
  /-- No lane takes transactions any more. -/
  | impossible
deriving DecidableEq, Inhabited

/-- The positions of `n` lanes in the order in which they are tried: from a cursor, which may lie
beyond the last one, to the end, and then from the start. -/
def cyclicFrom (n cursor : Nat) : List Nat :=
  (List.range n).drop (cursor % n) ++ (List.range n).take (cursor % n)

/-- The first lane with room in cyclic order from the cursor. -/
def reserveLane (queues : List Channel) (cursor : Nat) : Reservation :=
  let hasRoom (position : Nat) : Bool := (queues[position]?).any Channel.hasRoom
  match (cyclicFrom queues.length cursor).find? hasRoom with
  | some position => .found position
  | none          => if queues.all Channel.closed then .impossible else .wait

end Conveyor
