import Conveyor.Proofs.Pool.Renumbering
import Conveyor.Proofs.Shared

/-!
# Calls for a number of lanes

The events at a shared pool, by what they do to the pool (`Shared.PoolEvent`): a number of lanes is asked
for, the pool is bound, closed or moved by an actor, or nothing happens to its lanes.
-/

namespace Conveyor.Shared

variable {σ P : Type} [Pipeline σ P] {process : Behaviour σ} {s s' : Shared σ P}

/-- The ticket and the number of lanes, if an event is a call for a number of lanes. -/
def Event.asked? : Event → Option (Nat × Nat)
  | .setSize ticket n => some (ticket, n)
  | _                 => none

/-- The number of lanes that was asked for, and the answer, if a call for a number of lanes was
answered. -/
def Reply.answer? : Reply → Option (Nat × Except PipelineError Unit)
  | .resized n result => some (n, result)
  | _                 => none

/-- The calls for a number of lanes in a run, with their tickets. -/
def calls (events : List Event) : List (Nat × Nat) := events.filterMap Event.asked?

lemma sizes_cons (e : Event) (events : List Event) :
    (calls (e :: events)).map Prod.snd =
      (e.asked?.map Prod.snd).toList ++ (calls events).map Prod.snd := by
  rw [calls, calls, List.filterMap_cons]
  cases e.asked? <;> rfl

/-- The answers to the calls for a number of lanes that were answered at once, the oldest first. -/
def answers (s : Shared σ P) : List (Nat × Except PipelineError Unit) :=
  s.replies.filterMap Reply.answer?

/-- What an event does to a pool, and which calls for a number of lanes it answers at once. -/
inductive PoolEvent (process : Behaviour σ) (p : Pool P) (s : Surroundings) :
    Event → Pool P → List (Nat × Except PipelineError Unit) → Prop where
  | quiet {e : Event} (outputTaken stopRequested : Bool) (asked : e.asked? = none)
      (still : ∀ actor, e ≠ .move actor) :
      PoolEvent process p s e { p with outputTaken, stopRequested } []
  | move {actor : Actor} {p' : Pool P} {s' : Surroundings}
      (h : p.step process actor s = some (p', s')) : PoolEvent process p s (.move actor) p' []
  | bind (input : Channel) (fed : Bool) : PoolEvent process p s (.consume input fed) p.consume.2 []
  | close (holder : Nat) :
      PoolEvent process p s (.finishClose holder) (p.closeIfIdle s.metrics).1 []
  | ask {ticket n : Nat} {result : Option (Except PipelineError Unit)} {p' : Pool P}
      {metrics : Metrics.Store} (h : p.setSize ticket n s.metrics = (result, p', metrics)) :
      PoolEvent process p s (.setSize ticket n) p' (result.toList.map fun answer => (n, answer))

/-- No event changes how lanes are made. -/
lemma PoolEvent.construct {p p' : Pool P} {around : Surroundings} {e : Event}
    {new : List (Nat × Except PipelineError Unit)} (h : PoolEvent process p around e p' new) :
    p'.construct = p.construct := by
  cases h with
  | quiet => rfl
  | move h => exact (Pool.dispatcher_of_step h).2
  | bind =>
    unfold Pool.consume
    split
    next => rfl
    next => rfl
    next => split <;> rfl
  | close =>
    unfold Pool.closeIfIdle
    split <;> rfl
  | ask h =>
    obtain ⟨-, rfl, -⟩ | ⟨d, requests, -, -, rfl, -⟩ | ⟨lanes, answer, -, -, -, hr⟩ :=
      Pool.setSize_cases h
    · rfl
    · rfl
    · obtain ⟨_, _, _, -, ⟨-, -, rfl, -⟩ | ⟨-, -, -, rfl, -⟩⟩ := Pool.resizeIdle_cases hr
      all_goals rfl

/-- There are no other events. -/
lemma PoolEvent.of_step {p : Pool P} (hp : s.engine = .pool p) {e : Event}
    (he : s.step process e = some s') :
    ∃ p' new, s'.engine = .pool p' ∧ PoolEvent process p s.dock.around e p' new ∧
      s'.answers = s.answers ++ new := by
  have silent {reply : Reply} (hr : reply.answer? = none) :
      (s.replies ++ [reply]).filterMap Reply.answer? = s.answers ++ [] := by
    rw [List.filterMap_append, List.filterMap_cons, hr, List.filterMap_nil, answers]
  have still : s.answers = s.answers ++ [] := (List.append_nil _).symm
  cases e with
  | user e =>
    obtain ⟨dock, -, rfl⟩ := Option.map_eq_some_iff.mp he
    exact ⟨p, [], hp, .quiet _ _ rfl nofun, still⟩
  | issue =>
    cases he
    exact ⟨p, [], hp, .quiet _ _ rfl nofun, still⟩
  | move actor =>
    obtain ⟨⟨engine, around⟩, hm, rfl⟩ := Option.map_eq_some_iff.mp he
    rw [hp] at hm
    obtain ⟨⟨p', around⟩, hm, h⟩ := Option.map_eq_some_iff.mp hm
    cases h
    exact ⟨p', [], rfl, .move hm, still⟩
  | consume input fed =>
    cases he
    unfold Shared.consume
    split
    all_goals
      rename_i hc
      rw [hp] at hc
      obtain ⟨-, rfl⟩ := Prod.mk.inj hc
      exact ⟨_, [], rfl, .bind input fed, silent rfl⟩
  | takeOutput =>
    cases he
    rw [hp]
    exact ⟨_, [], rfl, .quiet true p.stopRequested rfl nofun, silent rfl⟩
  | askStop holder =>
    cases he
    unfold Shared.askStop
    split
    next => exact ⟨p, [], hp, .quiet _ _ rfl nofun, silent rfl⟩
    next =>
      rw [hp]
      exact ⟨_, [], rfl, .quiet p.outputTaken true rfl nofun, still⟩
  | finishClose holder =>
    obtain ⟨-, he⟩ := Option.ite_none_right_eq_some.mp he
    cases he
    refine ⟨_, [], ?_, .close holder, silent rfl⟩
    rw [Shared.finishClose, hp]
    rfl
  | wait =>
    cases he
    exact ⟨p, [], hp, .quiet _ _ rfl nofun, silent rfl⟩
  | setSize ticket n =>
    obtain ⟨⟨result, engine, metrics⟩, hs, rfl⟩ := Option.map_eq_some_iff.mp he
    rw [hp] at hs
    generalize hr : p.setSize ticket n s.dock.around.metrics = resized at hs
    obtain ⟨answer, p', metrics'⟩ := resized
    simp only [Engine.setSize, hr] at hs
    cases hs
    refine ⟨p', _, rfl, .ask hr, ?_⟩
    rw [answers, List.filterMap_append, List.filterMap_map]
    cases result <;> rfl

end Conveyor.Shared
