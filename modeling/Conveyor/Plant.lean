import Conveyor.Pool.Blueprint
import Conveyor.Terminal

/-!
# Plants

A plant is a set of components and the channels between them. Components, senders, streams,
transactions held by hand and responses waited for are known by names, each kind with names of its
own. The plant runs its actors in a fixed order, which is one of the schedules that are possible:
an actor that became able to move waits behind those that were able before it, and moves until it
is stuck. Stages run only when nothing else can move.
-/

namespace Conveyor

/-! ### Components -/

/-- A component of a plant, in which pools stand at most `n` deep inside pools. -/
inductive Component (n : Nat)
  | processor (p : Processor Stage)
  | pool (p : Pool (Nested n))
  | source (s : Source)
  | holdingSink (s : HoldingSink)
  | answeringSink (s : AnsweringSink)
  /-- The place of a component that is gone. -/
  | removed
deriving Inhabited

namespace Component

variable {n : Nat}

/-- Whether the component can send on its output stream. -/
def holdsOutput : Component n → Bool
  | .processor p => p.holdsOutput
  | .pool p      => p.holdsOutput
  | .source s    => !s.done
  | _            => false

def actors : Component n → List Actor
  | .processor p     => Pipeline.actors p
  | .pool p          => Pipeline.actors p
  | .answeringSink s => if s.bound then [.worker] else []
  | _                => []

def runsStages (actor : Actor) : Component n → Bool
  | .processor p => Pipeline.runsStages actor p
  | .pool p      => Pipeline.runsStages actor p
  | _            => false

def step (switches : Switches) (actor : Actor) (c : Component n) (s : Surroundings) :
    Option (Component n × Surroundings) :=
  match c with
  | .processor p =>
    (Pipeline.step (Stage.process switches) actor p s).map fun (p, s) => (.processor p, s)
  | .pool p =>
    (Pipeline.step (Stage.process switches) actor p s).map fun (p, s) => (.pool p, s)
  | .answeringSink sink => (sink.step s).map fun (sink, s) => (.answeringSink sink, s)
  | _ => none

/-- Whether the component has no actors and never will have any without its owner. -/
def isIdle : Component n → Bool
  | .processor p =>
    match p.phase with
    | .idle => true
    | _     => false
  | .pool p =>
    match p.state with
    | .idle _ => true
    | _       => false
  | .answeringSink s => !s.bound
  | _                => true

/-- Whether the output stream of a component was given away. -/
def outputTaken : Component n → Bool
  | .processor p => p.outputTaken
  | .pool p      => p.outputTaken
  | .source s    => s.outputTaken
  | _            => true

def takeOutput : Component n → Component n
  | .processor p => .processor (Pipeline.takeOutput p)
  | .pool p      => .pool (Pipeline.takeOutput p)
  | .source s    => .source { s with outputTaken := true }
  | other        => other

end Component

/-! ### Plants -/

/-- A component and the numbers of the channels that it is bound to. -/
structure Station (n : Nat) where
  component : Component n
  input : Option Nat := none
  output : Option Nat := none
deriving Inhabited

/-- An actor of the component with a given number. -/
structure Turn where
  station : Nat
  actor : Actor
deriving DecidableEq, Inhabited

/-- Components, the channels between them, and what was given a name. -/
structure Plant (n : Nat) where
  channels : List Channel := []
  ledger : Ledger := {}
  metrics : Metrics.Store := {}
  switches : Switches := .empty
  stations : List (Station n) := []
  components : Dict Nat := .empty
  /-- The numbers of the channels with senders. -/
  senders : Dict Nat := .empty
  /-- The numbers of the channels whose receiving end is held. -/
  streams : Dict Nat := .empty
  /-- The transactions that were received and not answered yet. -/
  held : Dict Transaction := .empty
  /-- The numbers of the response paths that are listened to. -/
  responses : Dict Nat := .empty
  /-- The number of requests made to pools. -/
  tickets : Nat := 0
  /-- All actors, those that have moved last at the end. -/
  turns : List Turn := []
deriving Inhabited

namespace Plant

variable {n : Nat}

/-! ### Moves -/

def isFed (p : Plant n) (channel : Nat) : Bool :=
  p.senders.toList.any (fun e => e.2 = channel) ||
  p.stations.any fun s => s.output = some channel && s.component.holdsOutput

/-- The channel with a number; without one it is a closed channel. -/
def channelOf (p : Plant n) (channel : Option Nat) : Channel :=
  (channel.bind fun c => p.channels[c]?).getD (Channel.new 1).close

def surroundings (p : Plant n) (s : Station n) : Surroundings where
  input := p.channelOf s.input
  fed := s.input.any p.isFed
  output := p.channelOf s.output
  ledger := p.ledger
  metrics := p.metrics

/-- Put a channel into another state, unless the state is the old one. A move changes the input or
the output of its component and not both, so a component may be bound to its own output. -/
def putChannel (channel : Option Nat) (old new : Channel) (channels : List Channel) :
    List Channel :=
  match channel with
  | none   => channels
  | some c => if new = old then channels else channels.set c new

def step (p : Plant n) (turn : Turn) : Option (Plant n) :=
  (p.stations[turn.station]?).bind fun station =>
    let before := p.surroundings station
    (station.component.step p.switches turn.actor before).map fun (component, after) =>
      { p with
        channels := putChannel station.output before.output after.output
          (putChannel station.input before.input after.input p.channels)
        ledger := after.ledger
        metrics := after.metrics
        stations := p.stations.set turn.station { station with component } }

/-! ### The schedule -/

def allTurns (p : Plant n) : List Turn :=
  p.stations.zipIdx.flatMap fun (s, i) => s.component.actors.map (⟨i, ·⟩)

def enroll (p : Plant n) : Plant n :=
  { p with turns := p.turns ++ p.allTurns.filter fun t => t ∉ p.turns }

def runsStages (p : Plant n) (turn : Turn) : Bool :=
  (p.stations[turn.station]?).any fun s => s.component.runsStages turn.actor

def isReady (p : Plant n) (turn : Turn) : Bool := !p.runsStages turn && (p.step turn).isSome

/-- Let actors move until none can, for at most `fuel` moves. The first in line moves until it is
stuck; actors that become able to move meanwhile get in line. -/
def run : (fuel : Nat) → Plant n → (line : List Turn) → Plant n
  | 0, p, _ => p
  | fuel + 1, p, turn :: line =>
    match if p.runsStages turn then none else p.step turn with
    | none   => run fuel p line
    | some p =>
      let p := { p with turns := p.turns.erase turn ++ [turn] }.enroll
      let line := turn :: line
      run fuel p (line ++ p.turns.filter fun t => t ∉ line && p.isReady t)
  | fuel + 1, p, [] =>
    match p.turns.find? p.runsStages with
    | none      => p
    | some turn =>
      match p.step turn with
      | none   => p
      | some p =>
        let p := { p with turns := p.turns.erase turn ++ [turn] }
        run fuel p (p.turns.filter p.isReady)

def patience : Nat := 1000000

def settle (p : Plant n) : Plant n :=
  let p := p.enroll
  p.run patience (p.turns.filter p.isReady)

end Plant

end Conveyor
