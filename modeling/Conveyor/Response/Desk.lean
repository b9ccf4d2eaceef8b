import Conveyor.Channel

/-!
# Response paths by hand

A desk with senders, transactions and receivers, each known by a name. A name stands for at most one
object of each kind, and a new object under a used name drops the old one.
-/

namespace Conveyor

/-- A transaction on a desk, with a number that no other one has. -/
structure DeskTransaction where
  identity : Nat
  transaction : Transaction
deriving DecidableEq, Inhabited

/-- Senders, transactions and receivers by their names. -/
structure Desk where
  ledger : Ledger := {}
  nextIdentity : Nat := 0
  /-- The response paths that can be answered directly. -/
  senders : Dict Nat := .empty
  transactions : Dict DeskTransaction := .empty
  /-- The response paths that are listened to. -/
  receivers : Dict Nat := .empty
deriving Inhabited

namespace Desk

/-- The version of the scheme by which transactions are numbered. -/
def identityVersion : Nat := 7

/-! ### Dropping -/

def dropOnlySender (d : Desk) (name : String) : Bool × Desk :=
  match d.senders.get? name with
  | none    => (false, d)
  | some id => (true, { d with senders := d.senders.erase name, ledger := d.ledger.abandon id })

def dropTransaction (d : Desk) (name : String) : Bool × Desk :=
  match d.transactions.get? name with
  | none   => (false, d)
  | some t =>
    (true,
      { d with
        transactions := d.transactions.erase name
        ledger := d.ledger.abandon t.transaction.reply })

def dropSender (d : Desk) (name : String) : Bool × Desk :=
  let (hadTransaction, d) := d.dropTransaction name
  let (hadSender, d) := d.dropOnlySender name
  (hadTransaction || hadSender, d)

def dropReceiver (d : Desk) (name : String) : Bool × Desk :=
  match d.receivers.get? name with
  | none    => (false, d)
  | some id =>
    (true, { d with receivers := d.receivers.erase name, ledger := d.ledger.release id })

/-! ### Making -/

def putSender (d : Desk) (name : String) (id : Nat) : Desk :=
  let d := (d.dropOnlySender name).2
  { d with senders := d.senders.insert name id }

def putTransaction (d : Desk) (name : String) (t : Transaction) : Desk :=
  let d := (d.dropTransaction name).2
  { d with
    transactions := d.transactions.insert name ⟨d.nextIdentity, t⟩
    nextIdentity := d.nextIdentity + 1 }

def newPath (d : Desk) (name : String) : Nat × Desk :=
  let (id, ledger) := d.ledger.fresh
  let d := ({ d with ledger }.dropReceiver name).2
  (id, { d with receivers := d.receivers.insert name id })

def channel (d : Desk) (name : String) : Desk :=
  let (id, d) := d.newPath name
  d.putSender name id

def newTransaction (d : Desk) (name : String) (message : Message) : Desk :=
  let (id, d) := d.newPath name
  d.putTransaction name ⟨message, id⟩

def withSender (d : Desk) (name : String) (message : Message) : Option (Message × Desk) :=
  (d.senders.get? name).map fun id =>
    (message, { d with senders := d.senders.erase name }.putTransaction name ⟨message, id⟩)

/-- Take a transaction apart into its message and its sender. -/
def intoParts (d : Desk) (name : String) : Option (Message × Desk) :=
  (d.transactions.get? name).map fun t =>
    (t.transaction.payload,
      { d with transactions := d.transactions.erase name }.putSender name t.transaction.reply)

/-! ### Looking and answering -/

/-- How many other transactions have the number of this one. -/
def sameIdentity (d : Desk) (name : String) : Option Nat :=
  (d.transactions.get? name).map fun t =>
    (d.transactions.toList.filter fun e => e.1 ≠ name ∧ e.2.identity = t.identity).length

/-- Answer a transaction; the flag says whether somebody was there to get the answer. -/
def answer (d : Desk) (name : String) (response : Response) : Option (Bool × Desk) :=
  (d.transactions.get? name).map fun t =>
    let (delivered, ledger) := d.ledger.respond t.transaction.reply response
    (delivered, { d with ledger, transactions := d.transactions.erase name })

/-- Respond through the transaction with a name, or else through the sender. -/
def respond (d : Desk) (name : String) (response : Response) : Option (Bool × Desk) :=
  match d.answer name response with
  | some result => some result
  | none        =>
    (d.senders.get? name).map fun id =>
      let (delivered, ledger) := d.ledger.respond id response
      (delivered, { d with ledger, senders := d.senders.erase name })

/-- Whether the receiver of the transaction with a name, or else of the sender, went away. -/
def isClosed (d : Desk) (name : String) : Option Bool :=
  let id := ((d.transactions.get? name).map fun t => t.transaction.reply).or (d.senders.get? name)
  id.map fun id => (d.ledger.path id).isClosed

def tryReceive (d : Desk) (name : String) : Option (Reading × Desk) :=
  (d.receivers.get? name).map fun id =>
    let (reading, ledger) := d.ledger.read id
    (reading, { d with ledger })

/-- Wait for a response with a receiver, which is given up. A receiver that must not wait again panics,
and no desk is left then. -/
def receive (d : Desk) (name : String) : Option (Except String (Reading × Desk)) :=
  (d.receivers.get? name).map fun id =>
    match (d.ledger.path id).receive.1 with
    | some reading => .ok (reading, (d.dropReceiver name).2)
    | none         => .error receiveAgainPanic

end Desk

end Conveyor
