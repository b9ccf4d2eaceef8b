import Conveyor.Proofs.Calm

/-!
# Depth first

A chain runs breadth first, and it stops where nothing is left. No message shows it: the depth-first
reading, which takes each message through the whole rest of the chain before its next sibling, comes
to the same messages, and it calls each stage on the same messages in the same order
(`runChain_eq_depthFirst`). Only the calls of different stages interleave differently, so the
rejection that a run keeps is not the first one that the depth-first reading meets, but that of the
first stage that rejected anything.

All this is about stages that do not panic, because a panic ends a run with messages left over.
-/

namespace Conveyor

variable {σ τ : Type} {process : Behaviour σ} {process' : Behaviour τ}

/-! ### The reference -/

/-- Take messages through a chain one after the other. -/
def inTurn (one : List σ → Message → Flow σ) : List σ → List Message → Flow σ
  | chain, []               => ⟨[], chain⟩
  | chain, message :: later =>
    let first := one chain message
    let rest := inTurn one first.chain later
    ⟨first.messages ++ rest.messages, rest.chain⟩

/-- Take a message through the first stages of a chain: what the first stage makes of it goes
through the others, one message after the other. A rejected message goes no further, and the other
stages know nothing of it. -/
def descend (process : Behaviour σ) : Nat → List σ → Message → Flow σ
  | 0, chain, message                  => ⟨[message], chain⟩
  | _ + 1, [], message                 => ⟨[message], []⟩
  | depth + 1, stage :: chain, message =>
    match process stage message with
    | (.pass out, stage') =>
      let rest := inTurn (descend process depth) chain out
      ⟨rest.messages, stage' :: rest.chain⟩
    | (_, stage')         => ⟨[], stage' :: chain⟩

def depthFirst (process : Behaviour σ) (chain : List σ) (message : Message) : Flow σ :=
  descend process chain.length chain message

lemma descend_nil (depth : Nat) (message : Message) :
    descend process depth [] message = ⟨[message], []⟩ := by
  cases depth <;> rfl

lemma inTurn_append (one : List σ → Message → Flow σ) (chain : List σ)
    (messages later : List Message) :
    inTurn one chain (messages ++ later) =
      ⟨(inTurn one chain messages).messages ++
          (inTurn one (inTurn one chain messages).chain later).messages,
        (inTurn one (inTurn one chain messages).chain later).chain⟩ := by
  induction messages generalizing chain with
  | nil => rfl
  | cons message messages ih => simp [inTurn, ih]

/-! ### What the stages see -/

/-- The messages that go on after a verdict. -/
def Verdict.passed : Verdict → List Message
  | .pass messages => messages
  | _              => []

lemma Verdict.failure?_isSome_iff {v : Verdict} :
    v.failure?.isSome ↔ ∃ failure, v = .reject failure := by
  cases v <;> simp [failure?]

/-- A stage, and the calls of it so far with what it made of them. -/
structure Noted (σ : Type) where
  stage : σ
  calls : List (Message × Verdict)

/-- A stage that was not called yet. -/
def Noted.fresh (stage : σ) : Noted σ := ⟨stage, []⟩

/-- All messages that a stage passed on. -/
def Noted.passedOn (noted : Noted σ) : List Message :=
  noted.calls.flatMap fun call => call.2.passed

/-- The stages as they are, with their calls noted. -/
def noting (process : Behaviour σ) : Behaviour (Noted σ) := fun noted message =>
  let (verdict, stage') := process noted.stage message
  (verdict, ⟨stage', noted.calls ++ [(message, verdict)]⟩)

/-- The stages as they are, but instead of rejecting a message they pass nothing on. -/
def withoutVetoes (process : Behaviour σ) : Behaviour σ := fun stage message =>
  match process stage message with
  | (.reject _, stage') => (.pass [], stage')
  | verdict             => verdict

def NeverPanics (process : Behaviour σ) : Prop :=
  ∀ stage message, (process stage message).1.panics = false

lemma NeverPanics.verdict (steady : NeverPanics process) (stage : σ) (message : Message) :
    (∃ out stage', process stage message = (.pass out, stage')) ∨
      ∃ failure stage', process stage message = (.reject failure, stage') := by
  have calm := steady stage message
  rcases h : process stage message with ⟨verdict, stage'⟩
  rw [h] at calm
  cases verdict with
  | panic text => cases calm
  | pass out => exact .inl ⟨out, stage', rfl⟩
  | reject failure => exact .inr ⟨failure, stage', rfl⟩

lemma NeverPanics.noting (steady : NeverPanics process) : NeverPanics (noting process) :=
  fun noted message => steady noted.stage message

lemma NeverPanics.withoutVetoes (steady : NeverPanics process) :
    NeverPanics (withoutVetoes process) := by
  intro stage message
  obtain ⟨out, stage', h⟩ | ⟨failure, stage', h⟩ := steady.verdict stage message
  · simp [Conveyor.withoutVetoes, h, Verdict.panics]
  · simp [Conveyor.withoutVetoes, h, Verdict.panics]

/-! ### One stage -/

namespace StagePass

variable (steady : NeverPanics process)
include steady

lemma run_cons (stage : σ) (message : Message) (later : List Message) :
    run process stage (message :: later) =
      let rest := run process (process stage message).2 later
      ⟨rest.stage, (process stage message).1.passed ++ rest.messages,
        (process stage message).1.failure? <|> rest.rejection, rest.panic⟩ := by
  obtain ⟨out, stage', h⟩ | ⟨failure, stage', h⟩ := steady.verdict stage message
  · simp [run, h, Verdict.passed, Verdict.failure?]
  · simp [run, h, Verdict.passed, Verdict.failure?]

lemma calls_cons (stage : σ) (message : Message) (later : List Message) :
    calls process stage (message :: later) =
      (process stage message).1 :: calls process (process stage message).2 later := by
  obtain ⟨out, stage', h⟩ | ⟨failure, stage', h⟩ := steady.verdict stage message
  · simp [calls, h]
  · simp [calls, h]

lemma calls_any_panics (stage : σ) (messages : List Message) :
    (calls process stage messages).any Verdict.panics = false := by
  induction messages generalizing stage with
  | nil => rfl
  | cons message later ih => rw [calls_cons steady, List.any_cons, steady stage message, ih]; rfl

lemma run_panic (stage : σ) (messages : List Message) :
    (run process stage messages).panic = none := by
  apply Option.isNone_iff_eq_none.mp
  rw [← Option.not_isSome, panic_isSome, calls_any_panics steady]
  rfl

/-- A stage that is called on nothing else writes down all that it passes on. -/
lemma passedOn_run (noted : Noted σ) (messages : List Message) :
    (run (noting process) noted messages).stage.passedOn =
      noted.passedOn ++ (run (noting process) noted messages).messages := by
  induction messages generalizing noted with
  | nil => exact (List.append_nil _).symm
  | cons message later ih =>
    rw [run_cons steady.noting]
    show (run (noting process) _ later).stage.passedOn = _
    rw [ih, ← List.append_assoc]
    congr 1
    simp [Noted.passedOn, noting]

/-- What is noted of a stage are the verdicts on its calls. -/
lemma noted_run (noted : Noted σ) (messages : List Message) :
    (run (noting process) noted messages).stage.calls.map Prod.snd =
      noted.calls.map Prod.snd ++ calls (noting process) noted messages := by
  induction messages generalizing noted with
  | nil => exact (List.append_nil _).symm
  | cons message later ih =>
    rw [run_cons steady.noting, calls_cons steady.noting]
    show ((run (noting process) _ later).stage.calls.map Prod.snd) = _
    rw [ih]
    simp [noting]

end StagePass

/-! ### Breadth first without the early end -/

lemma ChainRun.calls_nil (chain : List σ) : calls process chain [] = [] := by
  cases chain with
  | nil => rfl
  | cons stage chain => simp [calls, StagePass.calls, StagePass.run]

section Steady

variable (steady : NeverPanics process)
include steady

lemma calls_cons_chain (stage : σ) (chain : List σ) (messages : List Message) :
    ChainRun.calls process (stage :: chain) messages =
      StagePass.calls process stage messages ++
        ChainRun.calls process chain (StagePass.run process stage messages).messages := by
  rw [ChainRun.calls, StagePass.run_panic steady]
  cases h : (StagePass.run process stage messages).messages with
  | nil => simp [ChainRun.calls_nil]
  | cons message later => simp

/-- A run that stops where nothing is left leaves the same messages and stages as one that calls the
other stages on nothing. -/
lemma ofMessages_eq_flow (chain : List σ) (messages : List Message) (rejection : Option Failure) :
    ChainRun.ofMessages process chain messages rejection =
      ⟨.ok ⟨(flow process chain messages).messages,
          rejection <|> (ChainRun.calls process chain messages).findSome? Verdict.failure?⟩,
        (flow process chain messages).chain⟩ := by
  induction chain generalizing messages rejection with
  | nil => simp [ChainRun.ofMessages, flow, ChainRun.calls]
  | cons stage chain ih =>
    have kept := StagePass.rejection_eq stage messages
      (StagePass.calls_any_panics steady stage messages)
    rw [ChainRun.ofMessages, StagePass.run_panic steady, flow, calls_cons_chain steady,
      List.findSome?_append, ← kept]
    cases h : (StagePass.run process stage messages).messages with
    | nil => simp [ChainRun.calls_nil]
    | cons message later => simp [ih, Option.or_assoc]

lemma runChain_eq_flow (chain : List σ) (message : Message) :
    runChain process chain message =
      ⟨.ok ⟨(flow process chain [message]).messages,
          (ChainRun.calls process chain [message]).findSome? Verdict.failure?⟩,
        (flow process chain [message]).chain⟩ :=
  ofMessages_eq_flow steady chain [message] none

/-! ### Breadth first is depth first -/

lemma descend_cons (depth : Nat) (stage : σ) (chain : List σ) (message : Message) :
    descend process (depth + 1) (stage :: chain) message =
      let rest := inTurn (descend process depth) chain (process stage message).1.passed
      ⟨rest.messages, (process stage message).2 :: rest.chain⟩ := by
  obtain ⟨out, stage', h⟩ | ⟨failure, stage', h⟩ := steady.verdict stage message
  · simp [descend, h, Verdict.passed]
  · simp [descend, h, Verdict.passed, inTurn]

/-- The first stage may take all messages at once, since the others see its messages in the order in
which it passes them on. -/
lemma inTurn_descend (depth : Nat) (stage : σ) (chain : List σ) (messages : List Message) :
    inTurn (descend process (depth + 1)) (stage :: chain) messages =
      let pass := StagePass.run process stage messages
      let rest := inTurn (descend process depth) chain pass.messages
      ⟨rest.messages, pass.stage :: rest.chain⟩ := by
  induction messages generalizing stage chain with
  | nil => rfl
  | cons message later ih =>
    rw [inTurn, descend_cons steady, StagePass.run_cons steady]
    simp only [ih, inTurn_append]

lemma flow_eq_inTurn (chain : List σ) (messages : List Message) :
    flow process chain messages = inTurn (descend process chain.length) chain messages := by
  induction chain generalizing messages with
  | nil =>
    induction messages with
    | nil => rfl
    | cons message later ih =>
      rw [inTurn, descend_nil, ← ih]
      rfl
  | cons stage chain ih =>
    rw [List.length_cons, inTurn_descend steady, flow, ih]

lemma flow_eq_depthFirst (chain : List σ) (message : Message) :
    flow process chain [message] = depthFirst process chain message := by
  rw [flow_eq_inTurn steady, inTurn]
  simp [inTurn, depthFirst]

end Steady

/-! ### Notes do not disturb -/

section View

variable {view : τ → σ} (follows : ∀ stage message,
  process (view stage) message = ((process' stage message).1, view (process' stage message).2))
include follows

/-- A stage of which a part works like another stage makes the same of all messages. -/
lemma StagePass.run_view (stage : τ) (messages : List Message) :
    run process (view stage) messages =
      let pass := run process' stage messages
      ⟨view pass.stage, pass.messages, pass.rejection, pass.panic⟩ := by
  induction messages generalizing stage with
  | nil => rfl
  | cons message later ih =>
    have same := follows stage message
    rcases h : process' stage message with ⟨verdict, stage'⟩
    rw [h] at same
    cases verdict with
    | panic text => simp [run, h, same]
    | pass out => simp [run, h, same, ih]
    | reject failure => simp [run, h, same, ih]

lemma StagePass.seen_view (stage : τ) (messages : List Message) :
    seen process (view stage) messages = seen process' stage messages := by
  induction messages generalizing stage with
  | nil => rfl
  | cons message later ih =>
    have same := follows stage message
    rcases h : process' stage message with ⟨verdict, stage'⟩
    rw [h] at same
    cases verdict <;> simp [seen, h, same, ih]

lemma ChainRun.seen_view (chain : List τ) (messages : List Message) :
    seen process (chain.map view) messages = seen process' chain messages := by
  induction chain generalizing messages with
  | nil => rfl
  | cons stage chain ih =>
    rw [List.map_cons, seen, seen, StagePass.run_view follows, StagePass.seen_view follows,
      List.length_map, ih]

lemma ChainRun.ofMessages_view (chain : List τ) (messages : List Message)
    (rejection : Option Failure) :
    ofMessages process (chain.map view) messages rejection =
      let run := ofMessages process' chain messages rejection
      ⟨run.result, run.chain.map view⟩ := by
  induction chain generalizing messages rejection with
  | nil => rfl
  | cons stage chain ih =>
    rw [List.map_cons, ofMessages, StagePass.run_view follows, ofMessages]
    cases (StagePass.run process' stage messages).panic with
    | some text => rfl
    | none =>
      by_cases empty : (StagePass.run process' stage messages).messages.isEmpty
      · simp [empty]
      · simp [empty, ih]

end View

lemma runChain_noting (process : Behaviour σ) (chain : List σ) (message : Message) :
    runChain process chain message =
      let run := runChain (noting process) (chain.map Noted.fresh) message
      ⟨run.result, run.chain.map Noted.stage⟩ := by
  have same (noted : Noted σ) (message : Message) : process noted.stage message =
      ((noting process noted message).1, (noting process noted message).2.stage) := rfl
  have view := ChainRun.ofMessages_view same (chain.map Noted.fresh) [message] none
  have bare : (chain.map Noted.fresh).map Noted.stage = chain := by
    rw [List.map_map]
    exact List.map_id chain
  rwa [bare] at view

/-! ### Without vetoes -/

lemma descend_withoutVetoes (depth : Nat) :
    descend (withoutVetoes process) depth = descend process depth := by
  induction depth with
  | zero => rfl
  | succ depth ih =>
    funext chain message
    cases chain with
    | nil => rfl
    | cons stage chain =>
      rcases h : process stage message with ⟨verdict, stage'⟩
      cases verdict with
      | panic text => simp [descend, withoutVetoes, h]
      | pass out => simp [descend, withoutVetoes, h, ih]
      | reject failure => simp [descend, withoutVetoes, h, inTurn]

section Steady

variable (steady : NeverPanics process)
include steady

/-- A verdict of a run is what some stage made of some message. -/
lemma exists_of_mem_calls {chain : List σ} {messages : List Message} {verdict : Verdict}
    (h : verdict ∈ ChainRun.calls process chain messages) :
    ∃ stage message, verdict = (process stage message).1 := by
  have alone (stage : σ) (messages : List Message)
      (h : verdict ∈ StagePass.calls process stage messages) :
      ∃ stage message, verdict = (process stage message).1 := by
    induction messages generalizing stage with
    | nil => cases h
    | cons message later ih =>
      rw [StagePass.calls_cons steady] at h
      rcases List.mem_cons.mp h with rfl | h
      · exact ⟨stage, message, rfl⟩
      · exact ih _ h
  induction chain generalizing messages with
  | nil => cases h
  | cons stage chain ih =>
    rw [calls_cons_chain steady] at h
    exact (List.mem_append.mp h).elim (alone stage messages) ih

/-- To reject a message is to pass nothing on, but for the failure that is kept. -/
lemma runChain_withoutVetoes (chain : List σ) (message : Message) :
    runChain (withoutVetoes process) chain message =
      ⟨.ok ⟨(depthFirst process chain message).messages, none⟩,
        (depthFirst process chain message).chain⟩ := by
  have none : (ChainRun.calls (withoutVetoes process) chain [message]).findSome? Verdict.failure? =
      none := by
    apply List.findSome?_eq_none_iff.mpr
    intro verdict hv
    obtain ⟨stage, message, rfl⟩ := exists_of_mem_calls steady.withoutVetoes hv
    rcases h : process stage message with ⟨verdict, stage'⟩
    cases verdict <;> simp [withoutVetoes, h, Verdict.failure?]
  rw [runChain_eq_flow steady.withoutVetoes, flow_eq_depthFirst steady.withoutVetoes, none,
    depthFirst, descend_withoutVetoes]
  rfl

/-! ### The notes of a run -/

/-- The notes of a run, stage by stage, are its calls. -/
lemma noted_flow (chain : List σ) (messages : List Message) :
    ((flow (noting process) (chain.map Noted.fresh) messages).chain.flatMap Noted.calls).map
        Prod.snd =
      ChainRun.calls (noting process) (chain.map Noted.fresh) messages := by
  induction chain generalizing messages with
  | nil => rfl
  | cons stage chain ih =>
    rw [List.map_cons, calls_cons_chain steady.noting, ← ih, flow, List.flatMap_cons,
      List.map_append, StagePass.noted_run steady]
    rfl

/-- After a stage that passed nothing on, none is called. -/
lemma pairwise_flow (chain : List σ) (messages : List Message) :
    (flow (noting process) (chain.map Noted.fresh) messages).chain.Pairwise
      fun earlier later => earlier.passedOn = [] → later.calls = [] := by
  induction chain generalizing messages with
  | nil => exact .nil
  | cons stage chain ih =>
    rw [List.map_cons, flow]
    refine .cons (fun later hl nothing => ?_) (ih _)
    rw [StagePass.passedOn_run steady] at nothing
    rw [(List.append_eq_nil_iff.mp nothing).2, flow_nil] at hl
    obtain ⟨stage', -, rfl⟩ := List.mem_map.mp hl
    rfl

end Steady

/-- A run through a chain is what the depth-first reading makes of the message: it ends with the
same messages, in the same order, and with every stage in the same state and called on the same
messages in the same order. After a stage that passed nothing on, none is called. A rejection takes
away its own branch and leaves everything else as if the stage had passed nothing on, and the run
keeps the rejection that comes first if the calls are listed stage by stage. -/
theorem runChain_eq_depthFirst (steady : NeverPanics process) (chain : List σ) (message : Message) :
    ∃ (outcome : ChainOutcome) (noted : List (Noted σ)),
      runChain process chain message = ⟨.ok outcome, noted.map Noted.stage⟩ ∧
      runChain (noting process) (chain.map Noted.fresh) message = ⟨.ok outcome, noted⟩ ∧
      depthFirst process chain message = ⟨outcome.messages, noted.map Noted.stage⟩ ∧
      depthFirst (noting process) (chain.map Noted.fresh) message = ⟨outcome.messages, noted⟩ ∧
      (noted.Pairwise fun earlier later => earlier.passedOn = [] → later.calls = []) ∧
      runChain (withoutVetoes process) chain message =
        ⟨.ok ⟨outcome.messages, none⟩, noted.map Noted.stage⟩ ∧
      outcome.rejection = (noted.flatMap Noted.calls).findSome? (fun call => call.2.failure?) ∧
      (outcome.rejection.isSome ↔
        ∃ call ∈ noted.flatMap Noted.calls, ∃ failure, call.2 = .reject failure) ∧
      (outcome.isDropped ↔ outcome.messages = [] ∧
        ∃ call ∈ noted.flatMap Noted.calls, ∃ failure, call.2 = .reject failure) := by
  have noted := runChain_eq_flow steady.noting (chain.map Noted.fresh) message
  have depth := flow_eq_depthFirst steady.noting (chain.map Noted.fresh) message
  have quiet := pairwise_flow steady chain [message]
  rw [← noted_flow steady, List.findSome?_map] at noted
  rw [depth] at noted quiet
  generalize depthFirst (noting process) (chain.map Noted.fresh) message = notes
    at noted depth quiet
  have plain := runChain_noting process chain message
  rw [noted] at plain
  have ends := (runChain_eq_flow steady chain message).symm.trans plain
  rw [flow_eq_depthFirst steady, ChainRun.mk.injEq, Except.ok.injEq, ChainOutcome.mk.injEq] at ends
  obtain ⟨⟨messages, -⟩, stages⟩ := ends
  have rejected :
      (((notes.chain.flatMap Noted.calls).findSome? fun call => call.2.failure?).isSome ↔
        ∃ call ∈ notes.chain.flatMap Noted.calls, ∃ failure, call.2 = .reject failure) := by
    simp only [List.findSome?_isSome_iff, Verdict.failure?_isSome_iff]
  refine ⟨_, notes.chain, plain, noted, ?_, ?_, quiet, ?_, rfl, rejected, ?_⟩
  · rw [← messages, ← stages]
  · rfl
  · rw [runChain_withoutVetoes steady, messages, stages]
  · rw [ChainOutcome.isDropped, Bool.and_eq_true, List.isEmpty_iff]
    exact and_congr_right fun _ => rejected

/-- A stage with a name, which sends its first message on twice, rejects the second one and passes
on all later ones. -/
def wavering : Behaviour (String × Nat) := fun (name, seen) message =>
  match seen with
  | 0 => (.pass [message, message], name, 1)
  | 1 => (.reject (.rejected name), name, 2)
  | _ => (.pass [message], name, 2)

/-- Here the third stage rejects the first message that the second one passes on, and the second
stage rejects the second message that the first one passes on. The depth-first reading meets the
rejection of the third stage before the other one; kept is that of the second stage. -/
theorem runChain_eq_depthFirst_wavering :
    NeverPanics wavering ∧
      ∃ (outcome : ChainOutcome) (noted : List (Noted (String × Nat))),
        runChain wavering [("first", 0), ("second", 0), ("third", 1)] .empty =
          ⟨.ok outcome, noted.map Noted.stage⟩ ∧
        depthFirst wavering [("first", 0), ("second", 0), ("third", 1)] .empty =
          ⟨outcome.messages, noted.map Noted.stage⟩ ∧
        outcome = ⟨[.empty], some (.rejected "second")⟩ ∧
        noted.map (fun stage => stage.calls.filterMap fun call => call.2.failure?) =
          [[], [.rejected "second"], [.rejected "third"]] := by
  have steady : NeverPanics wavering := by
    intro (name, seen) message
    match seen with
    | 0 | 1 | _ + 2 => rfl
  obtain ⟨outcome, noted, plain, notes, depth, -⟩ :=
    runChain_eq_depthFirst steady [("first", 0), ("second", 0), ("third", 1)] .empty
  have kept : (runChain wavering [("first", 0), ("second", 0), ("third", 1)] .empty).result =
      .ok ⟨[.empty], some (.rejected "second")⟩ := rfl
  have rejections : (runChain (noting wavering) ([("first", 0), ("second", 0), ("third", 1)].map
        Noted.fresh) .empty).chain.map
          (fun stage => stage.calls.filterMap fun call => call.2.failure?) =
      [[], [.rejected "second"], [.rejected "third"]] := rfl
  rw [plain] at kept
  rw [notes] at rejections
  exact ⟨steady, outcome, noted, plain, depth, Except.ok.inj kept, rejections⟩

end Conveyor
