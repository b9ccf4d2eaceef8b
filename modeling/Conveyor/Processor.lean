import Conveyor.Pipeline

/-!
# Processors

A processor runs every transaction of its input through a chain of stages, one at a time and in the
order of arrival. Each message that comes out is sent on as a transaction of its own, and the
answers to these results are reduced to one answer for the transaction they come from: success if
all of them succeeded, and otherwise the first failure that the processor meets. A transaction of
which nothing is left is answered at once.
-/

namespace Conveyor

/-- What the worker of a processor is at. -/
inductive Processor.Phase
  | idle
  | waiting
  /-- Has taken a transaction to the stages. -/
  | running (t : Transaction)
  /-- Sends the results for the path `origin`; those sent are known by their paths. -/
  | emitting (origin : Nat) (results : List Message) (sent : List Nat)
  /-- Collects the answers to the results. It looks at each path once, in the order of sending, and
  then at the watched ones in the order in which they come to an end. -/
  | joining (origin : Nat) (unread watched : List Nat) (failure : Option Failure)
  /-- Has left its input and its output. -/
  | ended
  /-- Was closed before an input was bound. -/
  | closed
deriving DecidableEq, Inhabited

/-- A pipeline with a single worker. -/
structure Processor (σ : Type) where
  /-- The number that stands for the processor in the metrics. -/
  lane : Nat := 0
  chain : List σ
  outputCapacity : Nat := 1
  metered : Bool := true
  outputTaken : Bool := false
  phase : Processor.Phase := .idle
  stopRequested : Bool := false
  /-- Whether the worker has seen the request for a shutdown and closed its input. -/
  closing : Bool := false
  done : Bool := false
deriving Inhabited

/-- What a reading counts as when results are reduced. A result that nobody answered has failed. -/
def Reading.failure? : Reading → Option Failure
  | .pending           => none
  | .answered response => response.failure?
  | .abandoned         => some .abandoned

/-- What a run through the chain counts as for its transaction: a panic is a failure of the stages
of which nothing is left. -/
def ChainRun.outcome {σ : Type} (run : ChainRun σ) : ChainOutcome :=
  match run.result with
  | .ok outcome => outcome
  | .error _    => ⟨[], some (.stage "stage panicked")⟩

namespace Processor

variable {σ : Type}

def stat (p : Processor σ) (path : String) : Metrics.Stat :=
  if p.metered then .labelled ("pipeline.processor." ++ path) ["lane"] [toString p.lane]
  else .discarded

/-! ### Calls of the owner -/

def consume (p : Processor σ) : Except PipelineError Unit × Processor σ :=
  match p.phase with
  | .idle   => (.ok (), { p with phase := .waiting })
  | .closed => (.error .closed, p)
  | _       => (.error .alreadyConsuming, p)

/-- The first half of a shutdown: note that it was asked for. -/
def requestStop (p : Processor σ) : Processor σ := { p with stopRequested := true }

/-- The second half of a shutdown: a processor that was never bound is closed at once, and with it
its output. -/
def closeIfIdle (p : Processor σ) : Processor σ :=
  match p.phase with
  | .idle => { p with phase := .closed, done := true }
  | _     => p

/-- Ask for a shutdown. Only the first request has an effect. -/
def close (p : Processor σ) : Processor σ :=
  if p.stopRequested then p else p.requestStop.closeIfIdle

def holdsOutput (p : Processor σ) : Bool :=
  match p.phase with
  | .ended | .closed => false
  | _                => true

/-! ### Moves of the worker -/

/-- Wait for a transaction. A stop that was not seen yet comes first: the input is closed, and what
it holds is still received. The worker ends when no transaction is left and none can come. -/
def listen (p : Processor σ) (s : Surroundings) : Option (Processor σ × Surroundings) :=
  if p.stopRequested && !p.closing then
    some ({ p with closing := true }, { s with input := s.input.close })
  else
    match s.input.queue with
    | t :: rest =>
      some ({ p with phase := .running t },
        { s with
          input := { s.input with queue := rest }
          metrics := s.metrics.count (p.stat "received") 1 })
    | [] =>
      if s.input.closed || !s.fed then
        some ({ p with phase := .ended, done := true }, { s with input := s.input.shut })
      else none

/-- Run the stages on a transaction. If nothing is left the transaction is answered, with the
rejection that was kept or else with success. -/
def runStages (process : Behaviour σ) (p : Processor σ) (t : Transaction) (s : Surroundings) :
    Processor σ × Surroundings :=
  let run := runChain process p.chain t.payload
  let outcome := run.outcome
  let timed := (s.metrics.time (p.stat "latency") .zero).2
  if outcome.messages.isEmpty then
    let counted :=
      if outcome.rejection.isSome then timed.count (p.stat "dropped") 1 else timed
    let answered := (s.ledger.respond t.reply (.ofFailure? outcome.rejection)).2
    ({ p with chain := run.chain, phase := .waiting },
      { s with ledger := answered, metrics := counted })
  else
    ({ p with chain := run.chain, phase := .emitting t.reply outcome.messages [] },
      { s with metrics := timed })

/-- Send the next result. It waits for room in the output; if the output is closed the result is
abandoned. -/
def emit (p : Processor σ) (origin : Nat) (results : List Message) (sent : List Nat)
    (s : Surroundings) : Option (Processor σ × Surroundings) :=
  match results with
  | [] =>
    some ({ p with phase := .joining origin sent [] none },
      { s with metrics := s.metrics.count (p.stat "sent") sent.length })
  | message :: later =>
    let (id, ledger) := s.ledger.fresh
    let p := { p with phase := .emitting origin later (sent ++ [id]) }
    if s.output.closed then some (p, { s with ledger := ledger.abandon id })
    else if s.output.hasRoom then
      some (p, { s with ledger, output := s.output.push ⟨message, id⟩ })
    else none

/-- Look at the next answer to a result. When none is left to come, `origin` is answered. -/
def join (p : Processor σ) (origin : Nat) (unread watched : List Nat) (failure : Option Failure)
    (s : Surroundings) : Option (Processor σ × Surroundings) :=
  match unread with
  | id :: unread =>
    match s.ledger.read id with
    | (.pending, _) =>
      some ({ p with phase := .joining origin unread (watched ++ [id]) failure }, s)
    | (reading, ledger) =>
      some ({ p with phase := .joining origin unread watched (failure <|> reading.failure?) },
        { s with ledger })
  | [] =>
    if watched.isEmpty then
      let counted := if failure.isSome then s.metrics.count (p.stat "failed") 1 else s.metrics
      some ({ p with phase := .waiting },
        { s with
          ledger := (s.ledger.respond origin (.ofFailure? failure)).2
          metrics := counted })
    else
      (s.ledger.firstSettled watched).map fun id =>
        let (reading, ledger) := s.ledger.read id
        ({ p with phase := .joining origin [] (watched.erase id) (failure <|> reading.failure?) },
          { s with ledger })

def step (process : Behaviour σ) (p : Processor σ) (s : Surroundings) :
    Option (Processor σ × Surroundings) :=
  match p.phase with
  | .waiting                               => p.listen s
  | .running t                             => some (p.runStages process t s)
  | .emitting origin results sent          => p.emit origin results sent s
  | .joining origin unread watched failure => p.join origin unread watched failure s
  | .idle | .ended | .closed               => none

/-- Whether the worker has a transaction at the stages. -/
def runsStages (p : Processor σ) : Bool :=
  match p.phase with
  | .running _ => true
  | _          => false

def describe (p : Processor σ) : String :=
  "Processor \x7b lane: \"" ++ toString p.lane ++ "\", done: " ++ toString p.done ++ ", .. \x7d"

end Processor

instance {σ : Type} : Pipeline σ (Processor σ) where
  outputCapacity := Processor.outputCapacity
  outputTaken := Processor.outputTaken
  takeOutput p := { p with outputTaken := true }
  consume p input := (p.consume.1, p.consume.2, input)
  close p metrics := (p.close, metrics)
  holdsOutput := Processor.holdsOutput
  actors p := if p.phase = .idle then [] else [.worker]
  runsStages actor p := actor = .worker && p.runsStages
  step process actor p s :=
    match actor with
    | .worker => p.step process s
    | _       => none

end Conveyor
