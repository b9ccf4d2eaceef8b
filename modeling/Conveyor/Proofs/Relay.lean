import Conveyor.Proofs.Calm
import Conveyor.Proofs.Verdicts

/-!
# Verdicts through a calm chain

A calm chain hands the verdicts of its consumer on to those who send it messages: a message is accepted
if everything that comes of it is (`relay`). So a second calm chain in front of it gives the same answers
as the two chains in series (`dueAfter_relay`).
-/

namespace Conveyor

variable {σ : Type} {process : Behaviour σ} {judge : List Message → Bool} {failure : Failure}
  {chain chain' : List σ}

/-- Whether a consumer that has received `seen` accepts all of these messages, in their turn. -/
def accepts (judge : List Message → Bool) (seen : List Message) : List Message → Bool
  | []               => true
  | message :: later => judge (seen ++ [message]) && accepts judge (seen ++ [message]) later

lemma accepts_append (seen messages later : List Message) :
    accepts judge seen (messages ++ later) =
      (accepts judge seen messages && accepts judge (seen ++ messages) later) := by
  induction messages generalizing seen with
  | nil => simp [accepts]
  | cons message messages ih => simp [accepts, ih, Bool.and_assoc]

lemma accepts_iff (seen messages : List Message) :
    accepts judge seen messages ↔
      ∀ k < messages.length, judge (seen ++ messages.take (k + 1)) := by
  induction messages generalizing seen with
  | nil => simp [accepts]
  | cons message messages ih =>
    rw [accepts, Bool.and_eq_true, ih, List.length_cons, Nat.forall_lt_succ_left]
    simp

/-- The answer when no stage refuses anything is the sum of the verdicts. -/
lemma answerAfter_calm (seen messages : List Message) :
    answerAfter judge failure seen ⟨messages, none⟩ =
      if accepts judge seen messages then .ack else .error failure := by
  rw [answerAfter]
  by_cases empty : messages = []
  · simp [empty, accepts, Response.ofFailure?]
  · rw [if_neg empty]
    simp only [accepts_iff]

lemma dueAfter_calm (calm : ∀ stage ∈ chain, Calm process stage) (before : List Transaction)
    (message : Message) {seen : Flow σ}
    (hseen : flow process chain (before.map Transaction.payload) = seen) :
    dueAfter process judge failure chain before message =
      if accepts judge seen.messages (flow process seen.chain [message]).messages then .ack
      else .error failure := by
  subst hseen
  obtain ⟨messages, stages⟩ := interpret_calm calm before
  obtain ⟨outcome, -⟩ := runChain_calm (calm_flow calm (before.map Transaction.payload)) message
  rw [dueAfter, messages, stages, outcome, answerAfter_calm]

/-- The verdict on the last message that a chain has received, if its consumer keeps to verdicts: it is
accepted if all that comes of it is. -/
def relay (process : Behaviour σ) (judge : List Message → Bool) (chain : List σ)
    (seen : List Message) : Bool :=
  let before := flow process chain seen.dropLast
  accepts judge before.messages (flow process before.chain seen.getLast?.toList).messages

lemma relay_concat (seen : List Message) (message : Message) :
    relay process judge chain (seen ++ [message]) =
      accepts judge (flow process chain seen).messages
        (flow process (flow process chain seen).chain [message]).messages := by
  simp only [relay, List.dropLast_concat, List.getLast?_concat, Option.toList_some]

/-- The answer of a calm chain to a transaction is a verdict on it. -/
lemma verdict_relay (calm : ∀ stage ∈ chain, Calm process stage) (before : List Transaction)
    (message : Message) :
    verdict (relay process judge chain) failure (before.map Transaction.payload ++ [message]) =
      dueAfter process judge failure chain before message := by
  rw [verdict, relay_concat, dueAfter_calm calm before message rfl]

/-- A calm chain accepts some messages if its consumer accepts all that comes of them. -/
lemma accepts_relay (calm : ∀ stage ∈ chain, Calm process stage) (seen messages : List Message) :
    accepts (relay process judge chain) seen messages =
      accepts judge (flow process chain seen).messages
        (flow process (flow process chain seen).chain messages).messages := by
  induction messages generalizing seen with
  | nil => simp [accepts]
  | cons message messages ih =>
    rw [accepts, relay_concat, ih, flow_append calm,
      flow_cons (calm_flow calm seen) message messages]
    exact (accepts_append ..).symm

/-- Two calm chains in series answer as one, if the first one gets its verdicts through the second. -/
lemma dueAfter_relay (calm : ∀ stage ∈ chain, Calm process stage)
    (calm' : ∀ stage ∈ chain', Calm process stage) (before : List Transaction) (message : Message) :
    dueAfter process (relay process judge chain') failure chain before message =
      dueAfter process judge failure (chain ++ chain') before message := by
  have all : ∀ stage ∈ chain ++ chain', Calm process stage := fun stage hstage =>
    (List.mem_append.mp hstage).elim (calm stage) (calm' stage)
  rw [dueAfter_calm calm before message rfl, dueAfter_calm all before message
    (flow_append_chain chain chain' _), accepts_relay calm', flow_append_chain]

end Conveyor
