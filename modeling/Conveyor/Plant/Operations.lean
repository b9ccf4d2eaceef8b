import Conveyor.Plant

/-!
# Working with a plant

What can be done with a plant by hand: setting up components and channels, sending, receiving and
answering transactions, and asking components for things. Every name stands for at most one object
of its kind; a new object under a used name drops the old one.
-/

namespace Conveyor.Plant

variable {n : Nat}

/-! ### Dropping things -/

/-- The receiving end of a channel goes away: what is inside is abandoned. -/
def shutChannel (p : Plant n) (channel : Nat) : Plant n :=
  match p.channels[channel]? with
  | none   => p
  | some c =>
    { p with
      channels := p.channels.set channel c.shut
      ledger := p.ledger.abandonAll c.queue }

def dropStream (p : Plant n) (name : String) : Bool × Plant n :=
  match p.streams.get? name with
  | none         => (false, p)
  | some channel => (true, { p.shutChannel channel with streams := p.streams.erase name })

def dropSender (p : Plant n) (name : String) : Bool × Plant n :=
  (p.senders.contains name, { p with senders := p.senders.erase name })

/-- Drop the transaction with a name: its sender sees it abandoned. -/
def dropHeld (p : Plant n) (name : String) : Bool × Plant n :=
  match p.held.get? name with
  | none   => (false, p)
  | some t =>
    (true, { p with held := p.held.erase name, ledger := p.ledger.abandon t.reply })

def dropResponse (p : Plant n) (name : String) : Bool × Plant n :=
  match p.responses.get? name with
  | none    => (false, p)
  | some id =>
    (true, { p with responses := p.responses.erase name, ledger := p.ledger.release id })

/-- Drop the component with a name. Its actors go on with what they are bound to; an output stream
that nobody has taken goes away. -/
def dropComponent (p : Plant n) (name : String) : Bool × Plant n :=
  match p.components.get? name with
  | none   => (false, p)
  | some i =>
    match p.stations[i]? with
    | none         => (false, p)
    | some station =>
      let p := { p with components := p.components.erase name }
      let p :=
        if station.component.isIdle then
          { p with stations := p.stations.set i { station with component := .removed } }
        else p
      let p :=
        match station.component with
        | .holdingSink s => s.stream.elim p p.shutChannel
        | _              =>
          if station.component.outputTaken then p else station.output.elim p p.shutChannel
      (true, p)

/-! ### Naming things -/

def nameStream (p : Plant n) (name : String) (channel : Nat) : Plant n :=
  let p := (p.dropStream name).2
  { p with streams := p.streams.insert name channel }

def nameSender (p : Plant n) (name : String) (channel : Nat) : Plant n :=
  { p with senders := p.senders.insert name channel }

def hold (p : Plant n) (name : String) (t : Transaction) : Plant n :=
  let p := (p.dropHeld name).2
  { p with held := p.held.insert name t }

def await (p : Plant n) (name : String) (id : Nat) : Plant n :=
  let p := (p.dropResponse name).2
  { p with responses := p.responses.insert name id }

def newChannel (p : Plant n) (capacity : Nat) : Nat × Plant n :=
  (p.channels.length, { p with channels := p.channels ++ [.new capacity] })

/-- Set up a component, with an output stream of some capacity if it has one. -/
def install (p : Plant n) (name : String) (component : Component n)
    (outputCapacity : Option Nat) : Plant n :=
  let p := (p.dropComponent name).2
  let (output, p) :=
    match outputCapacity with
    | none          => (none, p)
    | some capacity => let (channel, p) := p.newChannel capacity; (some channel, p)
  { p with
    stations := p.stations ++ [{ component := component, output := output }]
    components := p.components.insert name p.stations.length }

def station? (p : Plant n) (name : String) : Option (Nat × Station n) :=
  (p.components.get? name).bind fun i => (p.stations[i]?).map fun s => (i, s)

def putComponent (p : Plant n) (i : Nat) (component : Component n) : Plant n :=
  { p with stations := p.stations.modify i fun s => { s with component } }

/-! ### Setting up -/

def installProcessor (p : Plant n) (name : String) (plan : ProcessorPlan) : Plant n :=
  let processor := { plan with lane := none }.build 0
  let processor := { processor with lane := plan.lane.getD 0 }
  p.install name (.processor processor) (some processor.outputCapacity)

def installPool (p : Plant n) (name : String) (plan : PoolPlan) :
    Except PipelineError Unit × Plant n :=
  let (built, metrics) := plan.build n p.metrics
  let p := { p with metrics }
  match built with
  | .error e => (.error e, p)
  | .ok pool => (.ok (), p.install name (.pool pool) (some pool.outputCapacity))

def installSource (p : Plant n) (name : String) (capacity : Nat) : Plant n :=
  p.install name (.source {}) (some capacity)

/-- Set up a sink that answers everything with one response. -/
def installAnsweringSink (p : Plant n) (name : String) (response : Response) : Plant n :=
  p.install name (.answeringSink { response := response }) none

def installHoldingSink (p : Plant n) (name : String) : Plant n :=
  p.install name (.holdingSink {}) none

/-- Set up a channel; its sender and its stream get the same name. -/
def installChannel (p : Plant n) (name : String) (capacity : Nat) : Plant n :=
  let (channel, p) := p.newChannel capacity
  (p.nameSender name channel).nameStream name channel

/-! ### Wiring -/

/-- Take the output stream of a component, or the stream that a holding sink keeps. -/
def take (p : Plant n) (name stream : String) : Option (Bool × Plant n) :=
  (p.station? name).map fun (i, station) =>
    match station.component, station.output with
    | .holdingSink s, _ =>
      match s.stream with
      | none   => (false, p)
      | some c =>
        (true, (p.putComponent i (.holdingSink { s with stream := none })).nameStream stream c)
    | component, some c =>
      if component.outputTaken then (false, p)
      else (true, (p.putComponent i component.takeOutput).nameStream stream c)
    | _, none => (false, p)

/-- Bind a component to a stream. The stream is given away even if the component refuses it. -/
def consume (p : Plant n) (name stream : String) :
    Option (Except PipelineError Unit × Plant n) :=
  (p.station? name).bind fun (i, station) =>
    (p.streams.get? stream).bind fun channel =>
      let p := { p with streams := p.streams.erase stream }
      let bind (result : Except PipelineError Unit) (component : Component n) :
          Except PipelineError Unit × Plant n :=
        let p := p.putComponent i component
        match result with
        | .error _ => (result, p.shutChannel channel)
        | .ok ()   =>
          (result,
            { p with stations := p.stations.modify i fun s => { s with input := some channel } })
      match station.component with
      | .processor x =>
        let (result, x) := x.consume
        some (bind result (.processor x))
      | .pool x =>
        let (result, x) := x.consume
        some (bind result (.pool x))
      | .answeringSink s =>
        let (result, s) := s.consume
        some (bind result (.answeringSink s))
      | .holdingSink s =>
        let (result, s) := s.consume channel
        some (bind result (.holdingSink s))
      | _ => none

/-- Get a sender from a source, unless the source is closed. -/
def sender (p : Plant n) (name sender : String) : Option (Bool × Plant n) :=
  (p.station? name).bind fun (_, station) =>
    match station.component, station.output with
    | .source s, some channel =>
      if s.done then some (false, p) else some (true, p.nameSender sender channel)
    | _, _ => none

/-! ### Sending -/

/-- What comes of an attempt to send. -/
inductive Sent
  /-- The transaction is in the channel; its answer comes through this path. -/
  | sent (id : Nat)
  | full
  | closed
deriving DecidableEq, Inhabited

def trySend (p : Plant n) (channel : Nat) (message : Message) : Sent × Plant n :=
  let c := p.channelOf (some channel)
  if c.closed then (.closed, p)
  else if c.hasRoom then
    let (id, ledger) := p.ledger.fresh
    (.sent id, { p with ledger, channels := p.channels.set channel (c.push ⟨message, id⟩) })
  else (.full, p)

/-- Send a message through a channel, waiting for room; everything else comes to rest meanwhile. -/
def sendWaiting (p : Plant n) (channel : Nat) (message : Message) : Sent × Plant n :=
  match p.trySend channel message with
  | (.full, p) => p.settle.trySend channel message
  | other      => other

/-- Try to send a message through a sender, and listen to the response under a name. -/
def send (p : Plant n) (sender : String) (message : Message) (response : String) :
    Option (Sent × Plant n) :=
  (p.senders.get? sender).map fun channel =>
    match p.trySend channel message with
    | (.sent id, p) => (.sent id, p.await response id)
    | other         => other

/-- Send a message through a source, and listen to the response under a name. -/
def sourceSend (p : Plant n) (name : String) (message : Message) (response : String) :
    Option (Sent × Plant n) :=
  (p.station? name).bind fun (_, station) =>
    match station.component, station.output with
    | .source s, some channel =>
      if s.done then some (.closed, p)
      else
        match p.sendWaiting channel message with
        | (.sent id, p) => some (.sent id, p.await response id)
        | other         => some other
    | _, _ => none

/-- Send messages one after the other, waiting for room. -/
def sendAll (p : Plant n) (channel : Nat) : List Message → List Sent × Plant n
  | [] => ([], p)
  | message :: later =>
    let (sent, p) := p.sendWaiting channel message
    let (rest, p) := p.sendAll channel later
    (sent :: rest, p)

def readAndRelease (p : Plant n) (id : Nat) : Reading × Plant n :=
  let (reading, ledger) := p.ledger.read id
  (reading, { p with ledger := ledger.release id })

/-- What became of one message of a flow. -/
inductive Flowed
  /-- It was sent, and this was read of its answer. -/
  | answered (reading : Reading)
  | full
  | closed
deriving DecidableEq, Inhabited

def collect (p : Plant n) : List Sent → List Flowed × Plant n
  | [] => ([], p)
  | sent :: later =>
    let (flowed, p) : Flowed × Plant n :=
      match sent with
      | .sent id => let (reading, p) := p.readAndRelease id; (.answered reading, p)
      | .full    => (.full, p)
      | .closed  => (.closed, p)
    let (rest, p) := p.collect later
    (flowed :: rest, p)

/-- Send messages through a sender one after the other, then wait for the answers. -/
def flow (p : Plant n) (sender : String) (messages : List Message) :
    Option (List Flowed × Plant n) :=
  (p.senders.get? sender).map fun channel =>
    let (sent, p) := p.sendAll channel messages
    p.settle.collect sent

/-! ### Receiving and answering -/

/-- What comes of an attempt to receive. -/
inductive Received
  /-- A transaction, now held. -/
  | message (message : Message)
  /-- There is none at the moment. -/
  | empty
  /-- There is none, and none can come. -/
  | closed
deriving DecidableEq, Inhabited

/-- Try to receive a transaction from a stream, and hold it under a name. -/
def receive (p : Plant n) (stream name : String) : Option (Received × Plant n) :=
  (p.streams.get? stream).map fun channel =>
    let c := p.channelOf (some channel)
    match c.queue with
    | t :: rest =>
      let p := { p with channels := p.channels.set channel { c with queue := rest } }
      (.message t.payload, p.hold name t)
    | [] => if c.closed || !p.isFed channel then (.closed, p) else (.empty, p)

/-- Answer a transaction; the flag says whether somebody still waits for it. -/
def respond (p : Plant n) (name : String) (response : Response) : Option (Bool × Plant n) :=
  (p.held.get? name).map fun t =>
    let (delivered, ledger) := p.ledger.respond t.reply response
    (delivered, { p with ledger, held := p.held.erase name })

def senderClosed (p : Plant n) (sender : String) : Option Bool :=
  (p.senders.get? sender).map fun channel => (p.channelOf (some channel)).closed

/-- Look at a response that is waited for; once its path has come to an end it is forgotten. -/
def response (p : Plant n) (name : String) : Option (Reading × Plant n) :=
  (p.responses.get? name).map fun id =>
    match (p.ledger.path id).tryReceive.1 with
    | .pending => (.pending, p)
    | reading  => (reading, (p.dropResponse name).2)

/-! ### Asking components -/

def close (p : Plant n) (name : String) : Option (Plant n) :=
  (p.station? name).map fun (i, station) =>
    match station.component with
    | .processor x => p.putComponent i (.processor x.close)
    | .pool x =>
      let (x, metrics) := x.close p.metrics
      { p.putComponent i (.pool x) with metrics }
    | .source s        => p.putComponent i (.source { s with done := true })
    | .answeringSink s => p.putComponent i (.answeringSink s.close)
    | _                => p

/-- Whether the shutdown of a component is complete. A holding sink has nothing to wait for. -/
def isDone (p : Plant n) (name : String) : Option Bool :=
  (p.station? name).map fun (_, station) =>
    match station.component with
    | .processor x     => x.done
    | .pool x          => x.done
    | .source s        => s.done
    | .answeringSink s => s.done
    | .holdingSink _   => true
    | .removed         => false

/-- Wait until the shutdown of a component is complete; when everything is at rest and it is not,
the time is over. -/
def wait (p : Plant n) (name : String) : Option (Except PipelineError Unit × Plant n) :=
  let rested := p.settle
  (rested.isDone name).map fun done =>
    (if done then .ok () else .error .timeout, rested)

/-- Whether a source or a sink is connected to what lies beyond it. They always are. -/
def connected (p : Plant n) (name : String) : Option Bool :=
  (p.station? name).bind fun (_, station) =>
    match station.component with
    | .source _ | .holdingSink _ | .answeringSink _ => some true
    | _ => none

def pool? (p : Plant n) (name : String) : Option (Nat × Pool (Nested n)) :=
  (p.station? name).bind fun (i, station) =>
    match station.component with
    | .pool x => some (i, x)
    | _       => none

/-- Change the number of lanes of a pool, and wait for its answer. There is none if the request is
never read. -/
def setSize (p : Plant n) (name : String) (size : Nat) :
    Option (Option (Except PipelineError Unit) × Plant n) :=
  (p.pool? name).map fun (i, x) =>
    let ticket := p.tickets
    let (result, x, metrics) := x.setSize ticket size p.metrics
    let p := { p.putComponent i (.pool x) with metrics, tickets := ticket + 1 }
    match result with
    | some result => (some result, p)
    | none        =>
      let p := p.settle
      ((p.pool? name).bind fun (_, x) => x.reply? ticket, p)

def size (p : Plant n) (name : String) : Option Nat :=
  (p.pool? name).map fun (_, x) => x.size

def describe (p : Plant n) (name : String) : Option String :=
  (p.station? name).bind fun (_, station) =>
    match station.component with
    | .processor x => some x.describe
    | .pool x      => some x.describe
    | _            => none

def setDrop (p : Plant n) (switch : String) (value : Bool) : Plant n :=
  { p with switches := p.switches.insert switch value }

def received (p : Plant n) (name : String) : Option (List Message) :=
  (p.station? name).bind fun (_, station) =>
    match station.component with
    | .answeringSink s => some s.received
    | _                => none

end Conveyor.Plant
