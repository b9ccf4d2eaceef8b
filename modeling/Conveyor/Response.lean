import Conveyor.Failure

/-!
# Responses and response paths

Every transaction carries the sending end of a response path. At most one response goes through a
path, because responding uses up the sending end; dropping that end without a response abandons
the path. A response is handed out once, by the first read after it was sent.
-/

namespace Conveyor

/-! ### Responses -/

/-- The outcome that a transaction is answered with. -/
inductive Response
  | ack
  | error (failure : Failure)
deriving DecidableEq, Inhabited

namespace Response

def failure? : Response → Option Failure
  | .ack           => none
  | .error failure => some failure

def isAck (r : Response) : Bool := r.failure?.isNone

/-- The response that signals the first failure given, or success without one. -/
def ofFailure? : Option Failure → Response
  | none         => .ack
  | some failure => .error failure

def toExcept : Response → Except Failure Unit
  | .ack           => .ok ()
  | .error failure => .error failure

end Response

/-! ### Response paths -/

/-- The sending end of a response path. -/
inductive SendingEnd
  /-- No response yet, and the sender is there. -/
  | held
  | sent (response : Response)
  /-- The sender went away without a response. -/
  | dropped
deriving DecidableEq, Inhabited

/-- The receiving end of a response path. -/
inductive ReceivingEnd
  /-- The receiver is there, and the end of the path has not been read. -/
  | listening
  /-- The end of the path was read: the response, or that there is none. -/
  | exhausted
  | gone
deriving DecidableEq, Inhabited

/-- A single-use path from a transaction back to its sender. -/
structure ResponsePath where
  sender : SendingEnd := .held
  receiver : ReceivingEnd := .listening
deriving DecidableEq, Inhabited

/-- What a look at a response path finds. -/
inductive Reading
  | pending
  | answered (response : Response)
  /-- The path ended, and there is no response to hand out. -/
  | abandoned
deriving DecidableEq, Inhabited

namespace ResponsePath

def isClosed (p : ResponsePath) : Bool := p.receiver == .gone

def isOpen (p : ResponsePath) : Bool := p.sender == .held

/-- Send the response; the flag says whether a receiver was there to get it. -/
def respond (p : ResponsePath) (response : Response) : Bool × ResponsePath :=
  if p.isClosed then (false, { p with sender := .dropped })
  else (true, { p with sender := .sent response })

def abandon (p : ResponsePath) : ResponsePath := { p with sender := .dropped }

def release (p : ResponsePath) : ResponsePath := { p with receiver := .gone }

def tryReceive (p : ResponsePath) : Reading × ResponsePath :=
  match p.receiver, p.sender with
  | .listening, .held          => (.pending, p)
  | .listening, .sent response => (.answered response, { p with receiver := .exhausted })
  | .listening, .dropped       => (.abandoned, { p with receiver := .exhausted })
  | _, _                       => (.abandoned, p)

/-- Give up the receiver for the response. A receiver that has read the end of its path must not
wait again: it panics, which is `none`. -/
def receive (p : ResponsePath) : Option Reading × ResponsePath :=
  match p.receiver with
  | .listening => (some p.tryReceive.1, p.release)
  | _          => (none, p.release)

end ResponsePath

/-- The text of the panic of a receiver that waits again after the end of its path. -/
def receiveAgainPanic : String := "called after complete"

end Conveyor
