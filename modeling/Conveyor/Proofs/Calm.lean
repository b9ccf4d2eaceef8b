import Conveyor.Proofs.Interpreter
import Conveyor.Proofs.Stage

/-!
# Chains that never refuse

A stage is calm if it neither vetoes a message nor panics, whatever it has seen before. In front of a
calm chain it makes no difference whether messages come one after the other or all at once
(`flow_append`), or whether the chain is cut into two (`flow_append_chain`). So the interpreter, which
takes one message at a time through the whole chain, finds what the chain makes of all messages at once
(`interpret_calm`).
-/

namespace Conveyor

variable {σ : Type} {process : Behaviour σ}

/-- Whether a stage passes every message on, whatever it was called on before. -/
def Calm (process : Behaviour σ) (stage : σ) : Prop :=
  ∀ (seen : List Message) (message : Message),
    ∃ out, (process (advance process stage seen) message).1 = .pass out

/-! ### One stage -/

namespace Calm

variable {stage : σ}

lemma next (h : Calm process stage) (message : Message) : Calm process (process stage message).2 :=
  fun seen => h (message :: seen)

lemma advance (h : Calm process stage) (messages : List Message) :
    Calm process (advance process stage messages) := by
  induction messages generalizing stage with
  | nil => exact h
  | cons message later ih => exact ih (h.next message)

/-- A calm stage sees all messages, and there is nothing to report of them. -/
lemma run_eq (h : Calm process stage) (messages : List Message) :
    StagePass.run process stage messages =
      ⟨Conveyor.advance process stage messages, (StagePass.run process stage messages).messages, none,
        none⟩ := by
  induction messages generalizing stage with
  | nil => rfl
  | cons message later ih =>
    obtain ⟨out, hout⟩ := h [] message
    rcases hp : process stage message with ⟨verdict, stage'⟩
    obtain rfl : verdict = .pass out := (congrArg Prod.fst hp).symm.trans hout
    have calm : Calm process stage' := by
      have next := h.next message
      rwa [hp] at next
    have rest := ih calm
    simp only [StagePass.run, hp, Conveyor.advance, List.foldl_cons] at rest ⊢
    rw [rest]

/-- A calm stage takes messages one by one. -/
lemma run_append (h : Calm process stage) (messages later : List Message) :
    (StagePass.run process stage (messages ++ later)).messages =
      (StagePass.run process stage messages).messages ++
        (StagePass.run process (Conveyor.advance process stage messages) later).messages := by
  induction messages generalizing stage with
  | nil => rfl
  | cons message messages ih =>
    obtain ⟨out, hout⟩ := h [] message
    rcases hp : process stage message with ⟨verdict, stage'⟩
    obtain rfl : verdict = .pass out := (congrArg Prod.fst hp).symm.trans hout
    have calm : Calm process stage' := by
      have next := h.next message
      rwa [hp] at next
    simp only [List.cons_append, StagePass.run, hp, Conveyor.advance, List.foldl_cons]
    rw [ih calm, List.append_assoc]
    rfl

end Calm

/-! ### Whole chains -/

/-- What comes out of a chain, and the stages after it. -/
structure Flow (σ : Type) where
  messages : List Message
  chain : List σ

/-- Give some messages to the first stage of a chain, what comes of them to the next one, and so on. -/
def flow (process : Behaviour σ) : List σ → List Message → Flow σ
  | [], messages             => ⟨messages, []⟩
  | stage :: chain, messages =>
    let pass := StagePass.run process stage messages
    let rest := flow process chain pass.messages
    ⟨rest.messages, pass.stage :: rest.chain⟩

@[simp] lemma flow_nil (chain : List σ) : flow process chain [] = ⟨[], chain⟩ := by
  induction chain with
  | nil => rfl
  | cons stage chain ih => simp [flow, StagePass.run, ih]

/-- Two chains in series are one chain. -/
lemma flow_append_chain (chain chain' : List σ) (messages : List Message) :
    flow process (chain ++ chain') messages =
      ⟨(flow process chain' (flow process chain messages).messages).messages,
        (flow process chain messages).chain ++
          (flow process chain' (flow process chain messages).messages).chain⟩ := by
  induction chain generalizing messages with
  | nil => rfl
  | cons stage chain ih => simp [flow, ih]

section Calm

variable {chain chain' : List σ}

lemma calm_flow (calm : ∀ stage ∈ chain, Calm process stage) (messages : List Message) :
    ∀ stage ∈ (flow process chain messages).chain, Calm process stage := by
  induction chain generalizing messages with
  | nil => exact calm
  | cons stage chain ih =>
    obtain ⟨first, rest⟩ := List.forall_mem_cons.mp calm
    refine List.forall_mem_cons.mpr ⟨?_, ih rest _⟩
    rw [first.run_eq]
    exact first.advance messages

/-- A calm chain takes messages one by one. -/
lemma flow_append (calm : ∀ stage ∈ chain, Calm process stage) (messages later : List Message) :
    flow process chain (messages ++ later) =
      ⟨(flow process chain messages).messages ++
          (flow process (flow process chain messages).chain later).messages,
        (flow process (flow process chain messages).chain later).chain⟩ := by
  induction chain generalizing messages later with
  | nil => rfl
  | cons stage chain ih =>
    obtain ⟨first, rest⟩ := List.forall_mem_cons.mp calm
    have split (messages : List Message) : (StagePass.run process stage messages).stage =
        advance process stage messages := by rw [first.run_eq]
    have again : (StagePass.run process (advance process stage messages) later).stage =
        advance process stage (messages ++ later) := by
      rw [(first.advance messages).run_eq, advance, advance, advance, List.foldl_append]
    simp only [flow, split, again, first.run_append, ih rest]

lemma flow_cons (calm : ∀ stage ∈ chain, Calm process stage) (message : Message)
    (later : List Message) :
    flow process chain (message :: later) =
      ⟨(flow process chain [message]).messages ++
          (flow process (flow process chain [message]).chain later).messages,
        (flow process (flow process chain [message]).chain later).chain⟩ :=
  flow_append calm [message] later

/-- A calm chain passes the first messages on before the others. -/
lemma flow_grows (calm : ∀ stage ∈ chain, Calm process stage) {messages messages' : List Message}
    (h : messages <+: messages') :
    (flow process chain messages).messages <+: (flow process chain messages').messages := by
  obtain ⟨later, rfl⟩ := h
  rw [flow_append calm]
  exact List.prefix_append _ _

/-! ### Runs -/

/-- Nothing is kept of a run through a calm chain but the messages, and whether stages are called on
nothing or not at all does not matter. -/
lemma ofMessages_calm (calm : ∀ stage ∈ chain, Calm process stage) (messages : List Message) :
    ChainRun.ofMessages process chain messages none =
      ⟨.ok ⟨(flow process chain messages).messages, none⟩, (flow process chain messages).chain⟩ := by
  induction chain generalizing messages with
  | nil => rfl
  | cons stage chain ih =>
    obtain ⟨first, rest⟩ := List.forall_mem_cons.mp calm
    have pass := first.run_eq messages
    rw [ChainRun.ofMessages, flow]
    generalize StagePass.run process stage messages = run at pass ⊢
    rw [pass]
    cases run.messages with
    | nil => simp
    | cons message later => simp [ih rest]

lemma runChain_calm (calm : ∀ stage ∈ chain, Calm process stage) (message : Message) :
    (runChain process chain message).outcome = ⟨(flow process chain [message]).messages, none⟩ ∧
      (runChain process chain message).chain = (flow process chain [message]).chain := by
  rw [runChain, ofMessages_calm calm]
  exact ⟨rfl, rfl⟩

/-- The interpreter finds what a calm chain makes of all messages at once, and leaves the stages as
they are after that. -/
lemma interpret_calm (calm : ∀ stage ∈ chain, Calm process stage) (ts : List Transaction) :
    messagesOf (interpret process chain ts) =
        (flow process chain (ts.map Transaction.payload)).messages ∧
      chainAfter process chain ts = (flow process chain (ts.map Transaction.payload)).chain := by
  induction ts generalizing chain with
  | nil => simp [interpret, messagesOf, chainAfter]
  | cons t ts ih =>
    obtain ⟨outcome, next⟩ := runChain_calm calm t.payload
    obtain ⟨messages, stages⟩ := ih (calm_flow calm [t.payload])
    rw [List.map_cons, flow_cons calm, chainAfter, next]
    refine ⟨?_, stages⟩
    have first : messagesOf (interpret process chain (t :: ts)) =
        (runChain process chain t.payload).outcome.messages ++
          messagesOf (interpret process (runChain process chain t.payload).chain ts) := rfl
    rw [first, outcome, next, messages]

/-- For the interpreter, too, two calm chains in series are one. -/
lemma interpret_append_chain (calm : ∀ stage ∈ chain, Calm process stage)
    (calm' : ∀ stage ∈ chain', Calm process stage) (ts : List Transaction) :
    messagesOf (interpret process (chain ++ chain') ts) =
        (flow process chain' (messagesOf (interpret process chain ts))).messages ∧
      chainAfter process (chain ++ chain') ts =
        chainAfter process chain ts ++
          (flow process chain' (messagesOf (interpret process chain ts))).chain := by
  have all : ∀ stage ∈ chain ++ chain', Calm process stage := fun stage hstage =>
    (List.mem_append.mp hstage).elim (calm stage) (calm' stage)
  obtain ⟨messages, stages⟩ := interpret_calm calm ts
  obtain ⟨messages', stages'⟩ := interpret_calm all ts
  rw [messages', stages', messages, stages, flow_append_chain]
  exact ⟨rfl, rfl⟩

/-- No run through a calm chain keeps a rejection. -/
lemma rejection_calm (calm : ∀ stage ∈ chain, Calm process stage) {ts : List Transaction}
    {t : Transaction} {run : ChainRun σ} (h : (t, run) ∈ interpret process chain ts) :
    run.outcome.rejection = none := by
  induction ts generalizing chain with
  | nil => cases h
  | cons first ts ih =>
    obtain ⟨outcome, next⟩ := runChain_calm calm first.payload
    rcases List.mem_cons.mp h with here | later
    · obtain ⟨rfl, rfl⟩ := Prod.mk.inj here
      rw [outcome]
    · rw [next] at later
      exact ih (calm_flow calm _) later

end Calm

end Conveyor
