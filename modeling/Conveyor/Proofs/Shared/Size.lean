import Conveyor.Proofs.Pool.Size
import Conveyor.Proofs.Shared
import Conveyor.Proofs.Stage

/-!
# What a shared pool shows of its lanes

Whatever its holders and actors do, the number of lanes that a pool shows is at least one, and is the
number of lanes that it holds until it shuts down (`Shared.size_recorded`), with one exception: when a
lane fails while a pool that is not bound yet grows, the lanes made before it stay, and what is shown
falls behind (`Shared.size_behind`) until another number of lanes is reached.
-/

namespace Conveyor

/-! ### Every call -/

namespace Engine

variable {σ P : Type} [Pipeline σ P] {e e' : Engine σ P} {metrics metrics' : Metrics.Store}
  {drifting : Bool}

/-- Whether the record agrees with the lanes if the component is a pool. -/
def Sized (e : Engine σ P) (metrics : Metrics.Store) (drifting : Bool) : Prop :=
  ∀ p, e = .pool p → p.Sized σ metrics drifting

lemma Sized.takeOutput (h : e.Sized metrics drifting) : e.takeOutput.Sized metrics drifting := by
  intro p' hp
  cases e with
  | processor p => cases hp
  | pool p =>
    cases hp
    exact (h p rfl).of_same rfl rfl rfl rfl rfl fun _ => rfl

lemma Sized.requestStop (h : e.Sized metrics drifting) : e.requestStop.Sized metrics drifting := by
  intro p' hp
  cases e with
  | processor p => cases hp
  | pool p =>
    cases hp
    exact (h p rfl).of_same rfl rfl rfl rfl rfl fun _ => rfl

lemma Sized.consume (h : e.Sized metrics drifting) : e.consume.2.Sized metrics drifting := by
  intro p' hp
  cases e with
  | processor p => cases hp
  | pool p =>
    cases hp
    exact (h p rfl).consume

lemma Sized.closeIfIdle (h : e.Sized metrics drifting) :
    (e.closeIfIdle metrics).1.Sized (e.closeIfIdle metrics).2 drifting := by
  intro p' hp
  cases e with
  | processor p => cases hp
  | pool p =>
    cases hp
    exact (h p rfl).closeIfIdle

lemma Sized.setSize (h : e.Sized metrics drifting) {ticket n : Nat}
    {result : Option (Except PipelineError Unit)}
    (hs : e.setSize ticket n metrics = some (result, e', metrics')) :
    e'.Sized metrics' (result.elim drifting (Pool.drifts drifting n)) := by
  cases e with
  | processor p => cases hs
  | pool p =>
    simp only [Engine.setSize, Option.some.injEq] at hs
    generalize hr : p.setSize ticket n metrics = resized at hs
    obtain ⟨r, p', metrics₁⟩ := resized
    cases hs
    rintro _ ⟨⟩
    exact (h p rfl).setSize hr

lemma Sized.step {process : Behaviour σ} {actor : Actor} {s s' : Surroundings}
    (h : e.Sized s.metrics drifting) (hm : e.step process actor s = some (e', s')) :
    e'.Sized s'.metrics drifting := by
  cases e with
  | processor p =>
    obtain ⟨_, -, hm⟩ := Option.map_eq_some_iff.mp hm
    cases hm
    rintro _ ⟨⟩
  | pool p =>
    obtain ⟨⟨p', around⟩, hm, h'⟩ := Option.map_eq_some_iff.mp hm
    cases h'
    rintro _ ⟨⟩
    exact (h p rfl).step hm

end Engine

namespace Shared

variable {σ P : Type} [Pipeline σ P] {process : Behaviour σ} {s s' start : Shared σ P}

/-- Whether the record of the lanes drifts after what a call came to. -/
def Reply.drifts (drifting : Bool) : Reply → Bool
  | .resized n result => Pool.drifts drifting n result
  | _                 => drifting

/-- Whether the last number of lanes that was asked for before the component was bound was not
reached. -/
def drifting (replies : List Reply) : Bool := replies.foldl Reply.drifts false

lemma drifting_concat (replies : List Reply) (reply : Reply) :
    drifting (replies ++ [reply]) = reply.drifts (drifting replies) := by
  rw [drifting, List.foldl_append, List.foldl_cons, List.foldl_nil, drifting]

/-- Whether the record of a pool agrees with its lanes. -/
def Recorded (s : Shared σ P) : Prop :=
  s.engine.Sized s.dock.around.metrics (drifting s.replies)

/-- The record agrees with the lanes after every event if it did before. -/
lemma Recorded.step (h : s.Recorded) {e : Event} (he : s.step process e = some s') :
    s'.Recorded := by
  have quiet {reply : Reply} (hr : ∀ b, reply.drifts b = b) :
      drifting (s.replies ++ [reply]) = drifting s.replies :=
    (drifting_concat _ _).trans (hr _)
  cases e with
  | user e =>
    obtain ⟨dock, hd, rfl⟩ := Option.map_eq_some_iff.mp he
    have same := Dock.metrics_of_step hd
    rwa [Recorded, same]
  | issue =>
    cases he
    exact h
  | move actor =>
    obtain ⟨⟨engine, around⟩, hm, rfl⟩ := Option.map_eq_some_iff.mp he
    exact Engine.Sized.step h hm
  | consume input fed =>
    cases he
    have bound := Engine.Sized.consume h
    unfold Shared.consume
    split
    all_goals
      rename_i hc
      rw [hc] at bound
      rwa [Recorded, quiet fun _ => rfl]
  | takeOutput =>
    cases he
    rw [Recorded, quiet fun _ => rfl]
    exact Engine.Sized.takeOutput h
  | askStop holder =>
    cases he
    unfold Shared.askStop
    split
    next => rwa [Recorded, quiet fun _ => rfl]
    next => exact Engine.Sized.requestStop h
  | finishClose holder =>
    obtain ⟨-, he⟩ := Option.ite_none_right_eq_some.mp he
    cases he
    rw [Recorded, Shared.finishClose, quiet fun _ => rfl]
    exact Engine.Sized.closeIfIdle h
  | wait =>
    cases he
    rwa [Recorded, quiet fun _ => rfl]
  | setSize ticket n =>
    obtain ⟨⟨result, engine, metrics⟩, hs, rfl⟩ := Option.map_eq_some_iff.mp he
    have sized := Engine.Sized.setSize h hs
    cases result with
    | none => simpa [Recorded] using sized
    | some result =>
      change Engine.Sized _ _ (drifting (s.replies ++ [.resized n result]))
      rw [drifting_concat]
      exact sized

/-- A pool as it was created, which nobody has called yet. -/
structure Created (s : Shared σ P) : Prop where
  pool : ∃ construct threads laneBuffer outputCapacity metered metrics p,
    Pool.create construct threads laneBuffer outputCapacity metered metrics =
      (.ok p, s.dock.around.metrics) ∧ s.engine = .pool p
  replies : s.replies = []

/-- The number that a new pool has recorded, and what is recorded after any events. -/
lemma Created.recorded (created : start.Created) {events : List Event}
    (hr : start.run process events = some s) : s.Recorded := by
  refine runFrom_induction (fun h he => Recorded.step h he) ?_ hr
  obtain ⟨construct, threads, laneBuffer, outputCapacity, metered, metrics, p₀, made, pool⟩ :=
    created.pool
  intro p hp
  obtain rfl := Engine.pool.inj (pool.symm.trans hp)
  exact Pool.sized_of_create made

/-- Whatever is done with a pool that was created, and whichever calls of its constructor fail: as long as
it is not shutting down it has a lane at least, and no fewer lanes than it has recorded. The record is the
number of its lanes if the last number that was asked for before it was bound was reached, or if any
number was asked for since then. The gauge shows the record. -/
theorem size_recorded (created : start.Created) {events : List Event}
    (hr : start.run process events = some s) {p : Pool P} (hp : s.engine = .pool p) {held : Nat}
    (hheld : p.held? = some held) :
    1 ≤ p.size ∧ p.size ≤ held ∧
      (drifting s.replies = false ∨ p.resized = true → p.size = held) ∧
      (p.Gauged σ →
        s.dock.around.metrics.gauges.get? "pipeline.pool.lanes" = some (p.size : Int)) := by
  obtain ⟨pos, le, exact, gauge⟩ := created.recorded hr p hp held hheld
  exact ⟨pos, le, exact, gauge⟩

/-- A constructor that fails when it is called for lane 2 for the first time. -/
def brittle (attempt index : Nat) : LaneBuild (Processor Nat) where
  lane :=
    if index = 2 ∧ attempt = 0 then .error (.construction "lane 2 broken")
    else .ok { lane := index, chain := [] }

/-- A new pool of one lane. -/
def frail : Shared Nat (Processor Nat) where
  engine := .pool
    { construct := brittle
      laneBuffer := 1
      outputCapacity := 1
      nextIndex := 1
      size := 1
      state := .idle [(0, { chain := [] })] }
  dock :=
    { around :=
        { input := .new 1
          fed := false
          output := .new 1
          ledger := {}
          metrics := Metrics.Store.setGauge {} (.plain "pipeline.pool.lanes") 1 } }

lemma created_frail : frail.Created where
  pool := ⟨brittle, 1, 1, 1, true, {}, _, rfl, rfl⟩
  replies := rfl

/-- A number of lanes is not reached, asked for again and reached, and a smaller one is asked for after
binding. -/
def resizing : List Event :=
  [.setSize 0 3, .setSize 0 3, .consume { capacity := 1 } false, .setSize 1 1, .move .dispatcher]

theorem size_recorded_frail :
    ∃ s p, frail.run fickle resizing = some s ∧
      s.replies = [.resized 3 (.error (.construction "lane 2 broken")), .resized 3 (.ok ()),
        .consumed (.ok ())] ∧
      s.engine = .pool p ∧ p.held? = some 1 ∧ p.size = 1 ∧
      s.dock.around.metrics.gauges.get? "pipeline.pool.lanes" = some 1 := by
  obtain ⟨s, p, hr, replies, hp, hheld, resized, construct, metered⟩ :
      ∃ s p, frail.run fickle resizing = some s ∧
        s.replies = [.resized 3 (.error (.construction "lane 2 broken")), .resized 3 (.ok ()),
          .consumed (.ok ())] ∧
        s.engine = .pool p ∧ p.held? = some 1 ∧ p.resized = true ∧ p.construct = brittle ∧
        p.metered = true :=
    ⟨_, _, rfl, rfl, rfl, rfl, rfl, rfl, rfl⟩
  obtain ⟨-, -, exact, gauge⟩ := size_recorded created_frail hr hp hheld
  have size := exact (.inr resized)
  have own : p.Gauged Nat :=
    ⟨fun attempt index => by rw [construct]; rfl, Processor.gaugeFree Nat, metered⟩
  rw [size] at gauge
  exact ⟨s, p, hr, replies, hp, hheld, size, gauge own⟩

/-- The pool holds two lanes after three were asked for, and still shows that it holds one. -/
theorem size_behind :
    ∃ s p, frail.run fickle [.setSize 0 3] = some s ∧
      s.replies = [.resized 3 (.error (.construction "lane 2 broken"))] ∧
      s.engine = .pool p ∧ p.held? = some 2 ∧ p.size = 1 ∧
      s.dock.around.metrics.gauges.get? "pipeline.pool.lanes" = some 1 :=
  ⟨_, _, rfl, rfl, rfl, rfl, rfl, rfl⟩

end Shared

end Conveyor
