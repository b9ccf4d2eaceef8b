import Conveyor.Pipeline

/-!
# Sources and sinks

The ends of a pipeline. A source is a stream that can be written into by hand until the source is
closed. A holding sink only keeps the stream it is bound to. An answering sink reads its stream,
remembers every message and answers all of them alike.
-/

namespace Conveyor

/-- A source that is written into by hand. -/
structure Source where
  outputTaken : Bool := false
  /-- Whether the source was closed. It then no longer sends by itself; senders it has handed out
  before keep the stream open. -/
  done : Bool := false
deriving DecidableEq, Inhabited

/-- A sink that keeps the stream it is bound to. -/
structure HoldingSink where
  bound : Bool := false
  /-- The number of the stream, until it is taken out again. -/
  stream : Option Nat := none
deriving DecidableEq, Inhabited

def HoldingSink.consume (sink : HoldingSink) (stream : Nat) :
    Except PipelineError Unit × HoldingSink :=
  if sink.bound then (.error .alreadyConsuming, sink)
  else (.ok (), { bound := true, stream := some stream })

/-- A sink that answers everything it reads with one response. -/
structure AnsweringSink where
  response : Response := .ack
  /-- The messages read so far, in order of arrival. -/
  received : List Message := []
  /-- The transaction that was read and not answered yet. -/
  answering : Option Transaction := none
  bound : Bool := false
  stopRequested : Bool := false
  /-- Whether the worker has seen the request for a shutdown and closed its input. -/
  closing : Bool := false
  ended : Bool := false
  done : Bool := false
deriving DecidableEq, Inhabited

namespace AnsweringSink

/-- Bind a stream; this succeeds once, and not after a shutdown was asked for. -/
def consume (sink : AnsweringSink) : Except PipelineError Unit × AnsweringSink :=
  if sink.bound then (.error .alreadyConsuming, sink)
  else if sink.stopRequested then (.error .closed, sink)
  else (.ok (), { sink with bound := true })

/-- The first half of a shutdown: note that it was asked for. -/
def requestStop (sink : AnsweringSink) : AnsweringSink := { sink with stopRequested := true }

/-- The second half of a shutdown: without a bound stream there is nothing to wait for. -/
def closeIfUnbound (sink : AnsweringSink) : AnsweringSink :=
  if sink.bound then sink else { sink with done := true }

def close (sink : AnsweringSink) : AnsweringSink := sink.requestStop.closeIfUnbound

/-- Wait for a transaction and remember its message. A stop that was not seen yet comes first: the
input is closed, and what it holds is still read. -/
def listen (sink : AnsweringSink) (s : Surroundings) : Option (AnsweringSink × Surroundings) :=
  if sink.stopRequested && !sink.closing then
    some ({ sink with closing := true }, { s with input := s.input.close })
  else
    match s.input.queue with
    | t :: rest =>
      some ({ sink with received := sink.received ++ [t.payload], answering := some t },
        { s with input := { s.input with queue := rest } })
    | [] =>
      if s.input.closed || !s.fed then
        some ({ sink with ended := true, done := true }, { s with input := s.input.shut })
      else none

/-- One move of the worker. A transaction is answered before the next one is read. -/
def step (sink : AnsweringSink) (s : Surroundings) : Option (AnsweringSink × Surroundings) :=
  if !sink.bound || sink.ended then none
  else
    match sink.answering with
    | some t =>
      some ({ sink with answering := none },
        { s with ledger := (s.ledger.respond t.reply sink.response).2 })
    | none => sink.listen s

end AnsweringSink

end Conveyor
