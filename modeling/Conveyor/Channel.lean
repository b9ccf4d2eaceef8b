import Conveyor.Message
import Conveyor.Response

/-!
# Transactions, their channels and the ledger of responses

A transaction is a message together with the number of the response path that its answer goes to.
Transactions move through bounded channels in the order in which they were sent. A channel that its
receiver has closed takes no more transactions, but those inside can still be received. All
response paths are kept in one ledger, which also remembers in which order they came to an end.
-/

namespace Conveyor

/-- A message that has to be answered. -/
structure Transaction where
  payload : Message
  /-- The number of the response path for the answer. -/
  reply : Nat
deriving DecidableEq, Inhabited

/-! ### Channels -/

/-- A bounded stream of transactions. -/
structure Channel where
  /-- How many transactions have room. -/
  capacity : Nat
  queue : List Transaction := []
  /-- Whether the receiver takes no more. -/
  closed : Bool := false
deriving DecidableEq, Inhabited

namespace Channel

/-- A new channel; it has room for at least one transaction. -/
def new (capacity : Nat) : Channel := { capacity := Nat.max capacity 1 }

def hasRoom (c : Channel) : Bool := !c.closed && c.queue.length < c.capacity

def push (c : Channel) (t : Transaction) : Channel := { c with queue := c.queue ++ [t] }

def close (c : Channel) : Channel := { c with closed := true }

/-- The receiver is gone, and what was inside with it. -/
def shut (c : Channel) : Channel := { c with queue := [], closed := true }

@[simp] theorem queue_push (c : Channel) (t : Transaction) :
    (c.push t).queue = c.queue ++ [t] := rfl

@[simp] theorem queue_close (c : Channel) : c.close.queue = c.queue := rfl

end Channel

/-! ### The ledger -/

/-- How a response path came to an end. -/
inductive Ending
  /-- With a response, whether or not somebody was there to get it. -/
  | answered (response : Response)
  /-- Without one. -/
  | abandoned
deriving DecidableEq, Inhabited

/-- All response paths by their numbers, and those that came to an end, in the order in which they
did. -/
structure Ledger where
  paths : List ResponsePath := []
  settled : List (Nat × Ending) := []
deriving DecidableEq, Inhabited

namespace Ledger

/-- The path of a number. A number that was not given out counts as a path without ends. -/
def path (l : Ledger) (id : Nat) : ResponsePath :=
  (l.paths[id]?).getD { sender := .dropped, receiver := .gone }

def fresh (l : Ledger) : Nat × Ledger :=
  (l.paths.length, { l with paths := l.paths ++ [{}] })

def update (l : Ledger) (id : Nat) (change : ResponsePath → ResponsePath) : Ledger :=
  { l with paths := l.paths.modify id change }

/-- Send a response; the flag says whether somebody was there to get it. -/
def respond (l : Ledger) (id : Nat) (response : Response) : Bool × Ledger :=
  (!(l.path id).isClosed,
    { l.update id (fun p => (p.respond response).2) with
      settled := l.settled ++ [(id, .answered response)] })

def abandon (l : Ledger) (id : Nat) : Ledger :=
  { l.update id ResponsePath.abandon with settled := l.settled ++ [(id, .abandoned)] }

/-- Drop the sending ends that these transactions carry. -/
def abandonAll (l : Ledger) (ts : List Transaction) : Ledger :=
  ts.foldl (fun l t => l.abandon t.reply) l

def release (l : Ledger) (id : Nat) : Ledger := l.update id ResponsePath.release

def read (l : Ledger) (id : Nat) : Reading × Ledger :=
  ((l.path id).tryReceive.1, l.update id fun p => p.tryReceive.2)

def firstSettled (l : Ledger) (ids : List Nat) : Option Nat :=
  (l.settled.find? fun e => ids.contains e.1).map Prod.fst

end Ledger

end Conveyor
