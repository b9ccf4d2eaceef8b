import Conveyor.Processor
import Mathlib.Tactic.Common

/-!
# The calls of a run

A run through a chain is a sequence of calls of its stages. The rejection that a run keeps is that of
the first call that was rejected; if a call panics the run fails as a whole, and the panic counts as
its rejection.
-/

namespace Conveyor

/-! ### Verdicts -/

namespace Verdict

/-- The failure that the message was vetoed with. -/
def failure? : Verdict → Option Failure
  | .reject failure => some failure
  | _               => none

/-- Whether the stage panicked. -/
def panics : Verdict → Bool
  | .panic _ => true
  | _        => false

/-- Whether the stage vetoed the message or panicked. -/
def refuses (v : Verdict) : Bool := v.panics || v.failure?.isSome

end Verdict

variable {σ : Type}

/-! ### Calls -/

/-- The verdicts of a stage on some messages, up to a panic. -/
def StagePass.calls (process : Behaviour σ) (stage : σ) : List Message → List Verdict
  | []               => []
  | message :: later =>
    match process stage message with
    | (.panic text, _)  => [.panic text]
    | (verdict, stage') => verdict :: calls process stage' later

/-- The verdicts of the stages of a chain on some messages, in the order of the calls. -/
def ChainRun.calls (process : Behaviour σ) : List σ → List Message → List Verdict
  | [], _                   => []
  | stage :: chain, messages =>
    let pass := StagePass.run process stage messages
    StagePass.calls process stage messages ++
      if pass.panic.isSome || pass.messages.isEmpty then [] else calls process chain pass.messages

/-- The messages that a stage is called on, out of those for it. -/
def StagePass.seen (process : Behaviour σ) (stage : σ) : List Message → List Message
  | []               => []
  | message :: later =>
    match process stage message with
    | (.panic _, _) => [message]
    | (_, stage')   => message :: seen process stage' later

/-- The messages that the stages of a chain are called on, for each of them. -/
def ChainRun.seen (process : Behaviour σ) : List σ → List Message → List (List Message)
  | [], _                   => []
  | stage :: chain, messages =>
    let pass := StagePass.run process stage messages
    StagePass.seen process stage messages ::
      if pass.panic.isSome || pass.messages.isEmpty then List.replicate chain.length []
      else seen process chain pass.messages

/-- A stage, after it was called on some messages. -/
def advance (process : Behaviour σ) (stage : σ) (messages : List Message) : σ :=
  messages.foldl (fun stage message => (process stage message).2) stage

variable {process : Behaviour σ}

namespace StagePass

lemma stage_eq (process : Behaviour σ) (stage : σ) (messages : List Message) :
    (run process stage messages).stage = advance process stage (seen process stage messages) := by
  induction messages generalizing stage with
  | nil => rfl
  | cons message later ih =>
    rcases h : process stage message with ⟨verdict, stage'⟩
    cases verdict with
    | panic text => simp [run, seen, h, advance]
    | pass out => simpa [run, seen, h, advance] using ih stage'
    | reject failure => simpa [run, seen, h, advance] using ih stage'

lemma panic_isSome (process : Behaviour σ) (stage : σ) (messages : List Message) :
    (run process stage messages).panic.isSome = (calls process stage messages).any Verdict.panics := by
  induction messages generalizing stage with
  | nil => rfl
  | cons message later ih =>
    rcases h : process stage message with ⟨verdict, stage'⟩
    cases verdict with
    | panic text => simp [run, calls, h, Verdict.panics]
    | pass out => simp [run, calls, h, Verdict.panics, ih]
    | reject failure => simp [run, calls, h, Verdict.panics, ih]

/-- The first failure that a stage raised is kept, unless it panics later. -/
lemma rejection_eq (stage : σ) (messages : List Message)
    (calm : (calls process stage messages).any Verdict.panics = false) :
    (run process stage messages).rejection =
      (calls process stage messages).findSome? Verdict.failure? := by
  induction messages generalizing stage with
  | nil => rfl
  | cons message later ih =>
    rcases h : process stage message with ⟨verdict, stage'⟩
    cases verdict with
    | panic text => simp [calls, h, Verdict.panics] at calm
    | pass out =>
      simp only [calls, h, List.any_cons, Verdict.panics, Bool.false_or] at calm
      simp [run, calls, h, List.findSome?_cons, Verdict.failure?, ih stage' calm]
    | reject failure => simp [run, calls, h, List.findSome?_cons, Verdict.failure?]

end StagePass

namespace ChainRun

lemma zipWith_advance_nil (process : Behaviour σ) (chain : List σ) :
    List.zipWith (advance process) chain (List.replicate chain.length []) = chain := by
  induction chain with
  | nil => rfl
  | cons stage chain ih => exact congrArg (stage :: ·) ih

/-- A run leaves every stage as the calls of it left it, also if it ends with a panic. -/
lemma chain_eq (chain : List σ) (messages : List Message) (rejection : Option Failure) :
    (ofMessages process chain messages rejection).chain =
      List.zipWith (advance process) chain (seen process chain messages) := by
  induction chain generalizing messages rejection with
  | nil => rfl
  | cons stage chain ih =>
    have first := StagePass.stage_eq process stage messages
    rw [seen, List.zipWith_cons_cons, ← first, ofMessages]
    cases hp : (StagePass.run process stage messages).panic with
    | some text => simp [zipWith_advance_nil]
    | none =>
      by_cases empty : (StagePass.run process stage messages).messages.isEmpty
      · simp [empty, zipWith_advance_nil]
      · simp [empty, ih]

/-- Nothing is left of a run in which a call panics, and the panic is reported. -/
lemma outcome_of_panic (chain : List σ) (messages : List Message) (rejection : Option Failure)
    (h : (calls process chain messages).any Verdict.panics = true) :
    (ofMessages process chain messages rejection).outcome =
      ⟨[], some (.stage "stage panicked")⟩ := by
  induction chain generalizing messages rejection with
  | nil => simp [calls] at h
  | cons stage chain ih =>
    have panics := StagePass.panic_isSome process stage messages
    simp only [calls, List.any_append] at h
    rw [← panics] at h
    unfold ofMessages
    cases hp : (StagePass.run process stage messages).panic with
    | some text => simp [outcome, hp]
    | none =>
      simp only [hp, Option.isSome_none, Bool.false_or] at h
      by_cases empty : (StagePass.run process stage messages).messages.isEmpty
      · simp [empty] at h
      · rw [if_neg empty] at h
        simp only [hp, if_neg empty]
        exact ih _ _ h

/-- The first failure that any call of a run raised is kept. -/
lemma rejection_of_calm (chain : List σ) (messages : List Message) (rejection : Option Failure)
    (calm : (calls process chain messages).any Verdict.panics = false) :
    (ofMessages process chain messages rejection).outcome.rejection =
      (rejection <|> (calls process chain messages).findSome? Verdict.failure?) := by
  induction chain generalizing messages rejection with
  | nil => simp [ofMessages, calls, outcome]
  | cons stage chain ih =>
    have panics := StagePass.panic_isSome process stage messages
    simp only [calls, List.any_append, Bool.or_eq_false_iff] at calm
    obtain ⟨calm, rest⟩ := calm
    have kept := StagePass.rejection_eq stage messages calm
    rw [calm] at panics
    have hp : (StagePass.run process stage messages).panic = none := by simpa using panics
    rw [calls, List.findSome?_append, ← kept, ofMessages]
    by_cases empty : (StagePass.run process stage messages).messages.isEmpty
    · simp [hp, empty, outcome]
    · simp only [hp, Option.isSome_none, Bool.false_or, if_neg empty] at rest ⊢
      have next := ih _ (rejection <|> (StagePass.run process stage messages).rejection) rest
      refine next.trans ?_
      cases rejection <;> simp

end ChainRun

/-- A run keeps a rejection exactly if one of its calls was rejected or panicked. -/
theorem rejection_isSome_iff (process : Behaviour σ) (chain : List σ) (message : Message) :
    (runChain process chain message).outcome.rejection.isSome ↔
      ∃ verdict ∈ ChainRun.calls process chain [message], verdict.refuses := by
  by_cases panics : (ChainRun.calls process chain [message]).any Verdict.panics
  · rw [runChain, ChainRun.outcome_of_panic chain [message] none panics]
    obtain ⟨verdict, hv, hp⟩ := List.any_eq_true.mp panics
    exact iff_of_true rfl ⟨verdict, hv, by simp [Verdict.refuses, hp]⟩
  · have calm := Bool.eq_false_iff.mpr panics
    rw [runChain, ChainRun.rejection_of_calm chain [message] none calm]
    have quiet : ∀ verdict ∈ ChainRun.calls process chain [message], verdict.panics = false := by
      simpa using calm
    change (List.findSome? _ _).isSome ↔ _
    rw [List.findSome?_isSome_iff]
    refine exists_congr fun verdict => and_congr_right fun hv => ?_
    simp [Verdict.refuses, quiet verdict hv]

/-- A stage that sends its first message on twice, rejects the second one and panics at all later
ones. -/
def fickle : Behaviour Nat := fun seen message =>
  match seen with
  | 0 => (.pass [message, message], 1)
  | 1 => (.reject (.rejected "no more"), 2)
  | _ => (.panic "too many", 3)

end Conveyor
