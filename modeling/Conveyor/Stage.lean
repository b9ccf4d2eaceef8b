import Conveyor.Failure
import Conveyor.Message

/-!
# Stages and chains

A stage takes one message at a time, may change its own state, and passes on any number of
messages, rejects the message, or panics. A chain is a list of stages. A message is run through a
chain breadth first: each stage sees all messages that the stage before it passed on, in their
order. A rejection removes the branch that raised it and no other, and the first one seen is kept,
so that an input of which nothing is left can be answered with it.

Stages are values of an arbitrary type `σ`, and what they do is a function `Behaviour σ`: the
results about chains hold for all of them.
-/

namespace Conveyor

/-- What a stage makes of one message. -/
inductive Verdict
  /-- These messages go on; there may be none. -/
  | pass (messages : List Message)
  /-- The message is vetoed, and the failure goes back to its sender. -/
  | reject (failure : Failure)
  /-- The stage panicked with this text. -/
  | panic (text : String)
deriving DecidableEq, Inhabited

/-- How stages of type `σ` work: one message gives a verdict and the next state of the stage, which
is kept after a panic too. -/
abbrev Behaviour (σ : Type) := σ → Message → Verdict × σ

/-- What a chain made of one message. -/
structure ChainOutcome where
  /-- The messages that every stage passed on. -/
  messages : List Message
  /-- The first rejection that any branch raised. -/
  rejection : Option Failure
deriving DecidableEq, Inhabited

/-- Whether nothing is left and a branch was rejected. -/
def ChainOutcome.isDropped (o : ChainOutcome) : Bool :=
  o.messages.isEmpty && o.rejection.isSome

/-! ### One stage -/

/-- How far a stage has come with the messages before it. -/
structure StagePass (σ : Type) where
  stage : σ
  messages : List Message
  rejection : Option Failure
  /-- The text of its panic, if it panicked. -/
  panic : Option String

variable {σ : Type}

/-- Give the messages to one stage, in order, up to a panic. -/
def StagePass.run (process : Behaviour σ) (stage : σ) : List Message → StagePass σ
  | [] => ⟨stage, [], none, none⟩
  | message :: later =>
    match process stage message with
    | (.panic text, stage) => ⟨stage, [], none, some text⟩
    | (.pass out, stage) =>
      let rest := run process stage later
      { rest with messages := out ++ rest.messages }
    | (.reject failure, stage) =>
      let rest := run process stage later
      { rest with rejection := some failure }

/-! ### Whole chains -/

/-- How a run through a chain ended, and the stages after it. -/
structure ChainRun (σ : Type) where
  /-- The outcome, or the text of a panic. -/
  result : Except String ChainOutcome
  /-- The stages, with the states that the run left behind. -/
  chain : List σ

/-- Run messages through a chain, with the rejection kept so far. Stages after the point where
nothing is left are not called. -/
def ChainRun.ofMessages (process : Behaviour σ) :
    List σ → List Message → Option Failure → ChainRun σ
  | [], messages, rejection => ⟨.ok ⟨messages, rejection⟩, []⟩
  | stage :: chain, messages, rejection =>
    let pass := StagePass.run process stage messages
    match pass.panic with
    | some text => ⟨.error text, pass.stage :: chain⟩
    | none =>
      let kept := rejection <|> pass.rejection
      if pass.messages.isEmpty then ⟨.ok ⟨[], kept⟩, pass.stage :: chain⟩
      else
        let rest := ofMessages process chain pass.messages kept
        { rest with chain := pass.stage :: rest.chain }

def runChain (process : Behaviour σ) (chain : List σ) (message : Message) : ChainRun σ :=
  .ofMessages process chain [message] none

end Conveyor
