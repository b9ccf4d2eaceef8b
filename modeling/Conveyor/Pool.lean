import Conveyor.Pool.Lane

/-!
# Pools

A pool feeds one input to several lanes that work in parallel. Each transaction goes to exactly one
lane that has room for it; while no lane has room the dispatcher holds it and takes no other. The
results of the lanes are merged into the output of the pool as they arrive. When the input ends, or
a shutdown was asked for, the pool hands out what is queued, retires its lanes and is done when all
of them have finished. The number of lanes can be changed at any time before that.
-/

namespace Conveyor

/-- A lane as its constructor made it. -/
structure LaneBuild (P : Type) where
  /-- The pipeline, or why there is none. -/
  lane : Except PipelineError P
  /-- The number of lanes last recorded by pools that were made on the way. -/
  recorded : Option Nat := none
deriving Inhabited

/-- A transaction that the dispatcher has read and not yet handed out. -/
inductive Dispatcher.Slot
  | empty
  /-- It waits for a lane. -/
  | pending (t : Transaction)
  /-- A lane was found to have room for it, at this position among the lanes in use. -/
  | reserved (t : Transaction) (position : Nat)
deriving DecidableEq, Inhabited

/-- How far the dispatcher is with its work. -/
inductive Dispatcher.Phase
  /-- It hands transactions out. -/
  | serving
  /-- It has left its input and will retire all lanes. -/
  | leaving
  /-- It waits until all lanes have finished. -/
  | draining
  | ended
deriving DecidableEq, Inhabited

/-- A request to change the number of lanes, known by a ticket. -/
structure Dispatcher.Request where
  ticket : Nat
  size : Nat
deriving DecidableEq, Inhabited

/-- The running part of a pool. -/
structure Dispatcher (P : Type) where
  /-- All lanes that were started, in this order. -/
  lanes : List (Lane P) := []
  /-- The pipelines that could not be started. -/
  strays : List P := []
  /-- Where the search for a lane starts. -/
  cursor : Nat := 0
  slot : Dispatcher.Slot := .empty
  phase : Dispatcher.Phase := .serving
  /-- Whether a request for a shutdown was seen and the input closed. -/
  closing : Bool := false
  requests : List Dispatcher.Request := []
  replies : List (Nat × Except PipelineError Unit) := []
deriving Inhabited

/-- What a pool is at. -/
inductive Pool.State (P : Type)
  /-- No input is bound; the lanes and their numbers are ready to be started. -/
  | idle (lanes : List (Nat × P))
  | running (dispatcher : Dispatcher P)
  /-- No input can be bound; lanes that were started before one failed may still have to finish. -/
  | closed (dispatcher : Option (Dispatcher P))
deriving Inhabited

/-- A pipeline that is made of parallel lanes. -/
structure Pool (P : Type) where
  /-- Makes the lane with a given number. One call may fail and the next one succeed: what a call comes
  to depends also on how many calls for the same lane failed before it. A lane that was made is not made
  again, so no two calls of a pool are alike, and each of them may come to anything. -/
  construct : (attempt index : Nat) → LaneBuild P
  /-- How many transactions have room in front of each lane. -/
  laneBuffer : Nat
  outputCapacity : Nat
  metered : Bool := true
  outputTaken : Bool := false
  nextIndex : Nat
  /-- How often the lane with the next number could not be made. -/
  attempt : Nat := 0
  /-- The number of lanes as last recorded. -/
  size : Nat := 0
  state : Pool.State P
  stopRequested : Bool := false
  done : Bool := false
deriving Inhabited

/-! ### Lanes in use -/

namespace Dispatcher

variable {σ P : Type} [Pipeline σ P]

/-- The lanes that are not retired, each with its position among all lanes. -/
def inUse (d : Dispatcher P) : List (Lane P × Nat) :=
  d.lanes.zipIdx.filter fun l => !l.1.retired

def size (d : Dispatcher P) : Nat := d.inUse.length

def retireAt (d : Dispatcher P) (i : Nat) (metrics : Metrics.Store) :
    Dispatcher P × Metrics.Store :=
  match d.lanes[i]? with
  | none      => (d, metrics)
  | some lane =>
    let (lane, metrics) := lane.retire metrics
    ({ d with lanes := d.lanes.set i lane }, metrics)

/-- Retire the last lanes in use until at most `n` are left. -/
def shrink (d : Dispatcher P) (n : Nat) (metrics : Metrics.Store) :
    Dispatcher P × Metrics.Store :=
  (d.inUse.drop n).reverse.foldl (fun (d, metrics) l => d.retireAt l.2 metrics) (d, metrics)

/-- Start a lane. Its output must still be there, and it must accept its input. -/
def startLane (d : Dispatcher P) (laneBuffer index : Nat) (pipeline : P) :
    Except PipelineError Unit × Dispatcher P :=
  if Pipeline.outputTaken pipeline then
    (.error (.construction ("output of lane " ++ toString index ++ " was already taken")), d)
  else
    match Pipeline.consume (Pipeline.takeOutput pipeline) (.new laneBuffer) with
    | (.error e, pipeline, _) => (.error e, { d with strays := d.strays ++ [pipeline] })
    | (.ok (), pipeline, queue) =>
      let output := Channel.new (Pipeline.outputCapacity pipeline)
      let lane : Lane P := { index, queue, pipeline, output }
      (.ok (), { d with lanes := d.lanes ++ [lane] })

/-- The actors at work, in the order in which they were started. -/
def actors (d : Dispatcher P) : List Actor :=
  (d.lanes.zipIdx.flatMap fun (lane, i) => lane.actors i) ++
  (d.strays.zipIdx.flatMap fun (stray, i) => (Pipeline.actors stray).map (.inStray i)) ++
  [.dispatcher]

end Dispatcher

namespace Pool

variable {σ P : Type}

/-! ### Metrics -/

def lanesStat (pool : Pool P) : Metrics.Stat :=
  if pool.metered then .plain "pipeline.pool.lanes" else .discarded

/-- The counter for the transactions handed to a lane. -/
def dispatchedStat (pool : Pool P) (index : Nat) : Metrics.Stat :=
  if pool.metered then .labelled "pipeline.pool.dispatched" ["lane"] [toString index]
  else .discarded

/-- The counter for the transactions that no lane could take. -/
def undeliverableStat (pool : Pool P) : Metrics.Stat :=
  if pool.metered then .plain "pipeline.pool.undeliverable" else .discarded

def recordSize (pool : Pool P) (n : Nat) (metrics : Metrics.Store) : Pool P × Metrics.Store :=
  ({ pool with size := n }, metrics.setGauge pool.lanesStat n)

/-- Take over the number of lanes that was recorded while a lane was made. -/
def noteBuild (build : LaneBuild P) (metrics : Metrics.Store) : Metrics.Store :=
  match build.recorded with
  | some n => metrics.setGauge (.plain "pipeline.pool.lanes") n
  | none   => metrics

/-! ### Making a pool -/

/-- Make the lanes from `index` on, `count` of them, up to the first that fails. -/
def constructFrom (construct : Nat → Nat → LaneBuild P) (metrics : Metrics.Store) :
    (count index : Nat) → Except PipelineError (List (Nat × P)) × Metrics.Store
  | 0, _ => (.ok [], metrics)
  | count + 1, index =>
    let build := construct 0 index
    let metrics := noteBuild build metrics
    match build.lane with
    | .error e => (.error e, metrics)
    | .ok lane =>
      let (rest, metrics) := constructFrom construct metrics count (index + 1)
      (rest.map ((index, lane) :: ·), metrics)

def create (construct : Nat → Nat → LaneBuild P) (threads laneBuffer outputCapacity : Nat)
    (metered : Bool) (metrics : Metrics.Store) :
    Except PipelineError (Pool P) × Metrics.Store :=
  if threads = 0 then (.error (.invalidSize 0), metrics)
  else
    let (built, metrics) := constructFrom construct metrics threads 0
    match built with
    | .error e  => (.error e, metrics)
    | .ok lanes =>
      let pool : Pool P :=
        { construct, laneBuffer, outputCapacity, metered, nextIndex := threads,
          state := .idle lanes }
      let (pool, metrics) := pool.recordSize threads metrics
      (.ok pool, metrics)

variable [Pipeline σ P]

/-! ### Changing the number of lanes -/

/-- Add lanes to a pool that was not bound yet. The number of a lane that fails is tried again when the
next lane is added. -/
def growIdle (pool : Pool P) (lanes : List (Nat × P)) (metrics : Metrics.Store) :
    (count : Nat) → Except PipelineError Unit × Pool P × Metrics.Store
  | 0 => (.ok (), { pool with state := .idle lanes }, metrics)
  | count + 1 =>
    let build := pool.construct pool.attempt pool.nextIndex
    let metrics := noteBuild build metrics
    match build.lane with
    | .error e =>
      (.error e, { pool with state := .idle lanes, attempt := pool.attempt + 1 }, metrics)
    | .ok lane =>
      growIdle { pool with nextIndex := pool.nextIndex + 1, attempt := 0 }
        (lanes ++ [(pool.nextIndex, lane)]) metrics count

/-- Change the number of lanes of a pool that was not bound yet. Lanes are removed from the end.
The new number is recorded unless a lane could not be made. -/
def resizeIdle (pool : Pool P) (lanes : List (Nat × P)) (n : Nat) (metrics : Metrics.Store) :
    Except PipelineError Unit × Pool P × Metrics.Store :=
  if lanes.length < n then
    match pool.growIdle lanes metrics (n - lanes.length) with
    | (.error e, pool, metrics) => (.error e, pool, metrics)
    | (.ok (), pool, metrics)   => (.ok (), pool.recordSize n metrics)
  else
    let metrics := (lanes.drop n).reverse.foldl
      (fun metrics l => (Pipeline.close l.2 metrics).2) metrics
    (.ok (), { pool with state := .idle (lanes.take n) }.recordSize n metrics)

/-- Add lanes to a bound pool. The number of a lane that fails is not used again. -/
def growRunning (pool : Pool P) (d : Dispatcher P) (metrics : Metrics.Store) :
    (count : Nat) → Except PipelineError Unit × Pool P × Dispatcher P × Metrics.Store
  | 0 => (.ok (), pool, d, metrics)
  | count + 1 =>
    let build := pool.construct pool.attempt pool.nextIndex
    let metrics := noteBuild build metrics
    let grown := { pool with nextIndex := pool.nextIndex + 1, attempt := 0 }
    match build.lane with
    | .error e => (.error e, grown, d, metrics)
    | .ok lane =>
      match d.startLane pool.laneBuffer pool.nextIndex lane with
      | (.error e, d) => (.error e, grown, d, metrics)
      | (.ok (), d)   => growRunning grown d metrics count

/-- Change the number of lanes of a bound pool. The number reached is recorded in any case. -/
def resizeRunning (pool : Pool P) (d : Dispatcher P) (n : Nat) (metrics : Metrics.Store) :
    Except PipelineError Unit × Pool P × Dispatcher P × Metrics.Store :=
  let (result, pool, d, metrics) :=
    if n = 0 then (.error (.invalidSize 0), pool, d, metrics)
    else if d.size < n then pool.growRunning d metrics (n - d.size)
    else
      let (d, metrics) := d.shrink n metrics
      (.ok (), pool, d, metrics)
  let (pool, metrics) := pool.recordSize d.size metrics
  (result, pool, d, metrics)

/-- Ask for a number of lanes. A pool that is not bound yet answers at once; a bound one gets the
request and answers it under its ticket. -/
def setSize (pool : Pool P) (ticket n : Nat) (metrics : Metrics.Store) :
    Option (Except PipelineError Unit) × Pool P × Metrics.Store :=
  if n = 0 then (some (.error (.invalidSize 0)), pool, metrics)
  else
    match pool.state with
    | .idle lanes =>
      let (result, pool, metrics) := pool.resizeIdle lanes n metrics
      (some result, pool, metrics)
    | .running d =>
      if d.phase = .ended then (some (.error .closed), pool, metrics)
      else
        let d := { d with requests := d.requests ++ [⟨ticket, n⟩] }
        (none, { pool with state := .running d }, metrics)
    | .closed _ => (some (.error .closed), pool, metrics)

/-- The answer to the request with a ticket, if there is one. A request that the dispatcher never
read is refused when the dispatcher ends. -/
def reply? (pool : Pool P) (ticket : Nat) : Option (Except PipelineError Unit) :=
  match pool.state with
  | .running d =>
    match d.replies.lookup ticket with
    | some result => some result
    | none        => if d.phase = .ended then some (.error .closed) else none
  | _ => none

/-! ### Binding and closing -/

/-- Start lanes in order, up to the first that cannot be started. -/
def startLanes (laneBuffer : Nat) (d : Dispatcher P) :
    List (Nat × P) → Except PipelineError Unit × Dispatcher P
  | [] => (.ok (), d)
  | (index, lane) :: rest =>
    match d.startLane laneBuffer index lane with
    | (.error e, d) => (.error e, d)
    | (.ok (), d)   => startLanes laneBuffer d rest

/-- Bind an input. If a lane cannot be started the pool is closed, the lanes started before are shut
down, and those after it are not started. -/
def consume (pool : Pool P) : Except PipelineError Unit × Pool P :=
  match pool.state with
  | .running _  => (.error .alreadyConsuming, pool)
  | .closed _   => (.error .closed, pool)
  | .idle lanes =>
    match startLanes pool.laneBuffer {} lanes with
    | (.ok (), d)   => (.ok (), { pool with state := .running d })
    | (.error e, d) =>
      (.error e, { pool with state := .closed (some { d with phase := .leaving }) })

/-- The first half of a shutdown: note that it was asked for. -/
def requestStop (pool : Pool P) : Pool P := { pool with stopRequested := true }

/-- The second half of a shutdown: a pool that was never bound is closed at once, and with it its
lanes and its output. -/
def closeIfIdle (pool : Pool P) (metrics : Metrics.Store) : Pool P × Metrics.Store :=
  match pool.state with
  | .idle lanes =>
    let metrics := lanes.foldl (fun metrics l => (Pipeline.close l.2 metrics).2) metrics
    { pool with state := .closed none, done := true }.recordSize 0 metrics
  | _ => (pool, metrics)

/-- Ask for a shutdown. Only the first request has an effect. -/
def close (pool : Pool P) (metrics : Metrics.Store) : Pool P × Metrics.Store :=
  if pool.stopRequested then (pool, metrics) else pool.requestStop.closeIfIdle metrics

def dispatcher? (pool : Pool P) : Option (Dispatcher P) :=
  match pool.state with
  | .running d => some d
  | .closed d  => d
  | .idle _    => none

def withDispatcher (pool : Pool P) (d : Dispatcher P) : Pool P :=
  match pool.state with
  | .running _ => { pool with state := .running d }
  | .closed _  => { pool with state := .closed (some d) }
  | .idle _    => pool

/-- Whether the dispatcher or a relay can still send results. -/
def holdsOutput (pool : Pool P) : Bool :=
  match pool.state with
  | .idle _ => true
  | _       => pool.dispatcher?.any fun d => d.phase ≠ .ended

/-! ### Moves of the dispatcher -/

/-- Hand the transaction to the lane that was found. If the lane refuses it after all it waits for
another one. -/
def handOff (pool : Pool P) (d : Dispatcher P) (t : Transaction) (position : Nat)
    (metrics : Metrics.Store) : Dispatcher P × Metrics.Store :=
  match d.inUse[position]? with
  | none => ({ d with slot := .pending t }, metrics)
  | some (lane, i) =>
    if lane.queue.hasRoom then
      ({ d with
          lanes := d.lanes.set i { lane with queue := lane.queue.push t }
          cursor := position + 1
          slot := .empty },
        metrics.count (pool.dispatchedStat lane.index) 1)
    else ({ d with slot := .pending t }, metrics)

/-- Find a lane for the transaction that waits. If no lane takes transactions any more it is
answered with a failure. -/
def reserve (pool : Pool P) (d : Dispatcher P) (t : Transaction) (s : Surroundings) :
    Option (Dispatcher P × Surroundings) :=
  match reserveLane (d.inUse.map fun l => l.1.queue) d.cursor with
  | .found position => some ({ d with slot := .reserved t position }, s)
  | .wait           => none
  | .impossible     =>
    let answer := Response.error (.delivery "no lane is accepting transactions")
    some ({ d with slot := .empty },
      { s with
        ledger := (s.ledger.respond t.reply answer).2
        metrics := s.metrics.count pool.undeliverableStat 1 })

/-- Read the next transaction, or leave the input when no transaction is left and none can come. -/
def readInput (d : Dispatcher P) (s : Surroundings) : Option (Dispatcher P × Surroundings) :=
  match s.input.queue with
  | t :: rest =>
    some ({ d with slot := .pending t }, { s with input := { s.input with queue := rest } })
  | [] =>
    if s.input.closed || !s.fed then some ({ d with phase := .leaving }, s) else none

/-- One move of a serving dispatcher. A reservation is used at once. Apart from that a stop that was
not seen yet comes first, then requests, then the transaction that waits, then the input. -/
def serve (pool : Pool P) (d : Dispatcher P) (s : Surroundings) :
    Option (Pool P × Surroundings) :=
  match d.slot with
  | .reserved t position =>
    let (d, metrics) := pool.handOff d t position s.metrics
    some (pool.withDispatcher d, { s with metrics })
  | _ =>
    if pool.stopRequested && !d.closing then
      some (pool.withDispatcher { d with closing := true }, { s with input := s.input.close })
    else
      match d.requests with
      | request :: later =>
        let (result, pool, d, metrics) :=
          pool.resizeRunning { d with requests := later } request.size s.metrics
        let d := { d with replies := d.replies ++ [(request.ticket, result)] }
        some (pool.withDispatcher d, { s with metrics })
      | [] =>
        let moved :=
          match d.slot with
          | .pending t => pool.reserve d t s
          | _          => readInput d s
        moved.map fun (d, s) => (pool.withDispatcher d, s)

def dispatch (pool : Pool P) (d : Dispatcher P) (s : Surroundings) :
    Option (Pool P × Surroundings) :=
  match d.phase with
  | .serving => pool.serve d s
  | .leaving =>
    let (d, metrics) := d.shrink 0 s.metrics
    some (pool.withDispatcher { d with phase := .draining }, { s with metrics })
  | .draining =>
    if d.lanes.all Lane.relayEnded then
      let pool := { pool.withDispatcher { d with phase := .ended } with done := true }
      let (pool, metrics) := pool.recordSize 0 s.metrics
      some (pool, { s with metrics, input := s.input.shut })
    else none
  | .ended => none

/-! ### Moves of all actors -/

/-- What lies around a pipeline that could not be started: both its channels are closed. -/
def strayed (s : Surroundings) : Surroundings :=
  { s with input := (Channel.new 1).close, fed := false, output := (Channel.new 1).close }

def runsStages (actor : Actor) (pool : Pool P) : Bool :=
  match pool.dispatcher?, actor with
  | some d, .inLane i actor  => (d.lanes[i]?).any fun l => Pipeline.runsStages actor l.pipeline
  | some d, .inStray i actor => (d.strays[i]?).any fun p => Pipeline.runsStages actor p
  | _, _                     => false

def step (process : Behaviour σ) (actor : Actor) (pool : Pool P) (s : Surroundings) :
    Option (Pool P × Surroundings) :=
  match pool.dispatcher? with
  | none   => none
  | some d =>
    match actor with
    | .worker     => none
    | .dispatcher => pool.dispatch d s
    | .relay i =>
      (d.lanes[i]?).bind fun lane =>
        (lane.relay s).map fun (lane, s) =>
          (pool.withDispatcher { d with lanes := d.lanes.set i lane }, s)
    | .inLane i actor =>
      (d.lanes[i]?).bind fun lane =>
        (lane.step process actor s).map fun (lane, s) =>
          (pool.withDispatcher { d with lanes := d.lanes.set i lane }, s)
    | .inStray i actor =>
      (d.strays[i]?).bind fun stray =>
        (Pipeline.step process actor stray (strayed s)).map fun (stray, inner) =>
          (pool.withDispatcher { d with strays := d.strays.set i stray },
            { s with ledger := inner.ledger, metrics := inner.metrics })

def describe (pool : Pool P) : String :=
  "Pool \x7b size: " ++ toString pool.size ++ ", lane_buffer: " ++ toString pool.laneBuffer ++
    ", done: " ++ toString pool.done ++ ", .. \x7d"

instance : Pipeline σ (Pool P) where
  outputCapacity := Pool.outputCapacity
  outputTaken := Pool.outputTaken
  takeOutput pool := { pool with outputTaken := true }
  consume pool input := (pool.consume.1, pool.consume.2, input)
  close := Pool.close
  holdsOutput := Pool.holdsOutput
  actors pool := (pool.dispatcher?.map Dispatcher.actors).getD []
  runsStages := Pool.runsStages
  step := Pool.step

end Pool

end Conveyor
