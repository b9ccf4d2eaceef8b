import Conveyor.Proofs.Dock
import Conveyor.Proofs.Pool.Making
import Conveyor.Proofs.Processor.Moves
import Conveyor.Proofs.Runs

/-!
# Shared components

A component can have any number of holders. Each of them may bind an input to it, take its output,
ask for a shutdown, wait for the end, or ask for another number of lanes, and this at any time, also
before it is bound. A shutdown takes two steps, and all else can happen between them
(`Shared.Event.askStop`, `Shared.Event.finishClose`). What the holders can see of a component is its
`Engine.View`, and `Engine.Stride` lists what the moves of its actors can change there.
-/

namespace Conveyor

/-- A component that can be shared: a processor, or a pool of lanes of some kind. -/
inductive Engine (σ P : Type) where
  | processor (p : Processor σ)
  | pool (pool : Pool P)

namespace Engine

variable {σ P : Type}

/-! ### Calls -/

def outputTaken : Engine σ P → Bool
  | .processor p => p.outputTaken
  | .pool p      => p.outputTaken

def takeOutput : Engine σ P → Engine σ P
  | .processor p => .processor { p with outputTaken := true }
  | .pool p      => .pool { p with outputTaken := true }

def stopRequested : Engine σ P → Bool
  | .processor p => p.stopRequested
  | .pool p      => p.stopRequested

def requestStop : Engine σ P → Engine σ P
  | .processor p => .processor p.requestStop
  | .pool p      => .pool p.requestStop

def done : Engine σ P → Bool
  | .processor p => p.done
  | .pool p      => p.done

/-- Whether some actor can still send on the output. -/
def holdsOutput : Engine σ P → Bool
  | .processor p => p.holdsOutput
  | .pool p      => p.holdsOutput

/-! ### What the holders see -/

/-- How far a component is. -/
inductive Standing where
  | idle
  | started
  | ended
  | closed
deriving DecidableEq

def standing : Engine σ P → Standing
  | .processor p =>
    match p.phase with
    | .idle   => .idle
    | .ended  => .ended
    | .closed => .closed
    | _       => .started
  | .pool p =>
    match p.state with
    | .idle _    => .idle
    | .running d => if d.phase = .ended then .ended else .started
    | .closed _  => .closed

/-- Whether the actor at the input has heard of a shutdown. -/
def heard : Engine σ P → Bool
  | .processor p => p.closing
  | .pool p      => p.dispatcher?.any Dispatcher.closing

/-- What the holders can see of a component. -/
structure View where
  standing : Standing
  asked : Bool
  heard : Bool
  taken : Bool
  done : Bool

def view (e : Engine σ P) : View := ⟨e.standing, e.stopRequested, e.heard, e.outputTaken, e.done⟩

lemma view_processor (p : Processor σ) :
    (Engine.processor p : Engine σ P).view =
      ⟨match p.phase with
        | .idle   => .idle
        | .ended  => .ended
        | .closed => .closed
        | _       => .started, p.stopRequested, p.closing, p.outputTaken, p.done⟩ := rfl

lemma view_pool {p : Pool P} {d : Dispatcher P} (hstate : p.state = .running d) :
    (Engine.pool p : Engine σ P).view =
      ⟨if d.phase = .ended then .ended else .started, p.stopRequested, d.closing, p.outputTaken,
        p.done⟩ := by
  simp [view, standing, stopRequested, heard, outputTaken, done, Pool.dispatcher?, hstate]

/-- What the holders see of a pool does not depend on its lanes. -/
lemma view_eq_of_running {p p' : Pool P} {d d' : Dispatcher P} (hstate : p.state = .running d)
    (hstate' : p'.state = .running d') (asked : p'.stopRequested = p.stopRequested)
    (taken : p'.outputTaken = p.outputTaken) (done : p'.done = p.done)
    (phase : d'.phase = .ended ↔ d.phase = .ended) (closing : d'.closing = d.closing) :
    (Engine.pool p' : Engine σ P).view = (Engine.pool p : Engine σ P).view := by
  rw [view_pool hstate, view_pool hstate', asked, taken, done, closing]
  simp only [phase]

lemma phase_of_idle {p : Processor σ} (h : (Engine.processor p : Engine σ P).standing = .idle) :
    p.phase = .idle := by
  simp only [standing] at h
  split at h <;> simp_all

lemma state_of_idle {p : Pool P} (h : (Engine.pool p : Engine σ P).standing = .idle) :
    ∃ lanes, p.state = .idle lanes := by
  simp only [standing] at h
  split at h
  next lanes hstate => exact ⟨lanes, hstate⟩
  next => split at h <;> cases h
  next => cases h

/-- Whether the actor at the input is free to turn to it: a worker waits there, and a dispatcher that
serves does so unless it is about to hand a transaction over. -/
def attends : Engine σ P → Prop
  | .processor p => p.phase = .waiting
  | .pool p      => ∃ d, p.state = .running d ∧ d.phase = .serving ∧
      ∀ t position, d.slot ≠ .reserved t position

/-! ### Calls that reach the lanes -/

variable [Pipeline σ P]

def consume : Engine σ P → Except PipelineError Unit × Engine σ P
  | .processor p => (p.consume.1, .processor p.consume.2)
  | .pool p      => (p.consume.1, .pool p.consume.2)

def closeIfIdle (metrics : Metrics.Store) : Engine σ P → Engine σ P × Metrics.Store
  | .processor p => (.processor p.closeIfIdle, metrics)
  | .pool p      => (.pool (p.closeIfIdle metrics).1, (p.closeIfIdle metrics).2)

/-- Ask for a number of lanes, which only a pool has. -/
def setSize (ticket n : Nat) (metrics : Metrics.Store) :
    Engine σ P → Option (Option (Except PipelineError Unit) × Engine σ P × Metrics.Store)
  | .processor _ => none
  | .pool p      =>
    let (result, p, metrics) := p.setSize ticket n metrics
    some (result, .pool p, metrics)

/-- One move of an actor. -/
def step (process : Behaviour σ) (actor : Actor) (s : Surroundings) :
    Engine σ P → Option (Engine σ P × Surroundings)
  | .processor p => (Pipeline.step process actor p s).map fun (p, s) => (.processor p, s)
  | .pool p      => (p.step process actor s).map fun (p, s) => (.pool p, s)

/-! ### What calls change -/

variable {e e' : Engine σ P} {metrics metrics' : Metrics.Store}

/-- What holds of a component at any time, if the lanes of a pool can be started. -/
structure Fit (e : Engine σ P) : Prop where
  lanes : ∀ p, e = .pool p → (∀ lanes, p.state = .idle lanes → ∀ l ∈ lanes, Pipeline.Starts l.2) ∧
    (∀ attempt index lane, (p.construct attempt index).lane = .ok lane → Pipeline.Starts lane) ∧
    ∀ d, p.state ≠ .closed (some d)
  done : e.done = true ↔ e.standing = .ended ∨ e.standing = .closed
  fresh : e.standing = .idle → e.heard = false

lemma Fit.of_processor {p : Processor σ}
    (done : p.done = true ↔ (Engine.processor p : Engine σ P).standing = .ended ∨
      (Engine.processor p : Engine σ P).standing = .closed)
    (fresh : (Engine.processor p : Engine σ P).standing = .idle → p.closing = false) :
    (Engine.processor p : Engine σ P).Fit :=
  ⟨fun _ h => (by cases h), done, fresh⟩

/-- A component that has ended or was closed has dropped its output. -/
lemma Fit.drops_output (h : e.Fit) (settled : e.standing = .ended ∨ e.standing = .closed) :
    e.holdsOutput = false := by
  obtain ⟨lanes, -, -⟩ := h
  cases e with
  | processor p =>
    simp only [standing] at settled
    split at settled <;> simp_all [Engine.holdsOutput, Processor.holdsOutput]
  | pool p =>
    obtain ⟨-, -, lost⟩ := lanes p rfl
    simp only [standing] at settled
    split at settled
    next => simp at settled
    next d hstate =>
      split at settled
      next hp => simp [Engine.holdsOutput, Pool.holdsOutput, Pool.dispatcher?, hstate, hp]
      next => simp at settled
    next d hstate =>
      cases d with
      | none => simp [Engine.holdsOutput, Pool.holdsOutput, Pool.dispatcher?, hstate]
      | some d => exact absurd hstate (lost d)

lemma Fit.takeOutput (h : e.Fit) :
    e.takeOutput.Fit ∧ e.takeOutput.view = { e.view with taken := true } := by
  obtain ⟨lanes, done, fresh⟩ := h
  cases e with
  | processor p => exact ⟨.of_processor done fresh, rfl⟩
  | pool p =>
    refine ⟨⟨?_, done, fresh⟩, rfl⟩
    rintro _ ⟨⟩
    exact lanes p rfl

lemma Fit.requestStop (h : e.Fit) :
    e.requestStop.Fit ∧ e.requestStop.view = { e.view with asked := true } := by
  obtain ⟨lanes, done, fresh⟩ := h
  cases e with
  | processor p => exact ⟨.of_processor done fresh, rfl⟩
  | pool p =>
    refine ⟨⟨?_, done, fresh⟩, rfl⟩
    rintro _ ⟨⟩
    exact lanes p rfl

/-- A component that nobody has bound or closed can be bound. -/
lemma Fit.consume (h : e.Fit) (idle : e.standing = .idle) :
    ∃ e' : Engine σ P, e.consume = (.ok (), e') ∧ e'.Fit ∧
      e'.view = { e.view with standing := .started } := by
  obtain ⟨lanes, done, fresh⟩ := h
  cases e with
  | processor p =>
    have hp := phase_of_idle idle
    have undone : ¬p.done = true := fun hd => by simpa [idle] using done.mp hd
    refine ⟨.processor { p with phase := .waiting }, by simp [Engine.consume, Processor.consume, hp],
      .of_processor ?_ nofun, rfl⟩
    simpa [Engine.done, standing] using undone
  | pool p =>
    obtain ⟨starts, made, -⟩ := lanes p rfl
    have undone : ¬p.done = true := fun hd => by simpa [idle] using done.mp hd
    obtain ⟨ls, hstate⟩ := state_of_idle idle
    have ok := Pool.consume_of_starts hstate (starts ls hstate)
    obtain ⟨-, new, strays, -, hp, -⟩ := Pool.consume_cases (Prod.ext ok rfl)
    refine ⟨.pool { p with state := .running { lanes := new, strays } }, ?_, ⟨?_, ?_, nofun⟩, ?_⟩
    · simp [Engine.consume, ok, hp]
    · rintro _ ⟨⟩
      exact ⟨by simp, made, by simp⟩
    · simpa [Engine.done, standing] using undone
    · simp [view, standing, stopRequested, heard, outputTaken, Engine.done, Pool.dispatcher?, hstate]

/-- A component that was bound or closed refuses every input, and stays as it is. -/
lemma consume_refused (bound : e.standing ≠ .idle) :
    ∃ error, (error = .alreadyConsuming ∨ error = .closed) ∧ e.consume = (.error error, e) := by
  cases e with
  | processor p =>
    simp only [Engine.consume, Processor.consume]
    split
    next hp => simp [standing, hp] at bound
    next => exact ⟨.closed, .inr rfl, rfl⟩
    next => exact ⟨.alreadyConsuming, .inl rfl, rfl⟩
  | pool p =>
    simp only [Engine.consume, Pool.consume]
    split
    next => exact ⟨.alreadyConsuming, .inl rfl, rfl⟩
    next => exact ⟨.closed, .inr rfl, rfl⟩
    next hstate => simp [standing, hstate] at bound

/-- A component that nobody has bound is closed at once. -/
lemma Fit.closeIfIdle (h : e.Fit) (idle : e.standing = .idle) (metrics : Metrics.Store) :
    (e.closeIfIdle metrics).1.Fit ∧
      (e.closeIfIdle metrics).1.view = { e.view with standing := .closed, done := true } := by
  obtain ⟨lanes, done, fresh⟩ := h
  cases e with
  | processor p =>
    have hp := phase_of_idle idle
    simp only [Engine.closeIfIdle, Processor.closeIfIdle, hp]
    exact ⟨.of_processor (by simp [standing]) (by simp [standing]), rfl⟩
  | pool p =>
    obtain ⟨-, made, -⟩ := lanes p rfl
    obtain ⟨ls, hstate⟩ := state_of_idle idle
    simp only [Engine.closeIfIdle, Pool.closeIfIdle, hstate, Pool.recordSize]
    refine ⟨⟨?_, by simp [Engine.done, standing], by simp [standing]⟩, ?_⟩
    · rintro _ ⟨⟩
      exact ⟨by simp, made, by simp⟩
    · simp [view, standing, stopRequested, heard, outputTaken, Engine.done, Pool.dispatcher?, hstate]

lemma closeIfIdle_of_bound (bound : e.standing ≠ .idle) (metrics : Metrics.Store) :
    e.closeIfIdle metrics = (e, metrics) := by
  cases e with
  | processor p =>
    simp only [Engine.closeIfIdle, Processor.closeIfIdle]
    split
    next hp => simp [standing, hp] at bound
    next => rfl
  | pool p =>
    simp only [Engine.closeIfIdle, Pool.closeIfIdle]
    split
    next hstate => simp [standing, hstate] at bound
    next => rfl

/-- Another number of lanes is nothing that the holders see. -/
lemma Fit.setSize (h : e.Fit) {ticket n : Nat} {result : Option (Except PipelineError Unit)}
    (hs : e.setSize ticket n metrics = some (result, e', metrics')) :
    e'.Fit ∧ e'.view = e.view := by
  have whole := h
  obtain ⟨lanes, done, fresh⟩ := h
  cases e with
  | processor p => cases hs
  | pool p =>
    obtain ⟨starts, made, lost⟩ := lanes p rfl
    simp only [Engine.setSize, Option.some.injEq] at hs
    generalize hr : p.setSize ticket n metrics = resized at hs
    obtain ⟨r, p', metrics₁⟩ := resized
    cases hs
    obtain ⟨-, rfl, -⟩ | ⟨d, requests, hrunning, -, rfl, -⟩ | ⟨ls, answer, hidle, -, -, hr⟩ :=
      Pool.setSize_cases hr
    · exact ⟨whole, rfl⟩
    · refine ⟨⟨?_, ?_, ?_⟩, ?_⟩
      · rintro _ ⟨⟩
        exact ⟨by simp, made, by simp⟩
      · simpa [Engine.done, standing, hrunning] using done
      · simp only [standing]
        split <;> simp
      · simp [view, standing, stopRequested, heard, outputTaken, Engine.done, Pool.dispatcher?,
          hrunning]
    · obtain ⟨ls', nextIndex, attempt, origin, reached⟩ := Pool.resizeIdle_cases hr
      have all : ∀ l ∈ ls', Pipeline.Starts l.2 := fun l hl =>
        (origin l hl).elim (starts ls hidle l) (Pool.Builds.holds made)
      obtain ⟨-, -, rfl, -⟩ | ⟨-, -, -, rfl, -⟩ := reached
      all_goals
        refine ⟨⟨?_, ?_, fun _ => rfl⟩, ?_⟩
        · rintro _ ⟨⟩
          refine ⟨?_, made, by simp⟩
          rintro _ ⟨⟩
          exact all
        · simpa [Engine.done, standing, hidle] using done
        · simp [view, standing, stopRequested, heard, outputTaken, Engine.done, Pool.dispatcher?,
            hidle]

/-! ### What moves change -/

/-- What a move of an actor can change for the holders and at the input. The actor at the input hears
of a shutdown and closes the input, it reads a transaction if there is no shutdown that it has not
heard of, or it ends and drops the input. All other moves leave the input alone. -/
inductive Stride (e : Engine σ P) (s : Surroundings) (e' : Engine σ P) (s' : Surroundings) : Prop where
  | hear (started : e.standing = .started) (asked : e.stopRequested = true)
      (view : e'.view = { e.view with heard := true }) (input : s'.input = s.input.close)
      (fed : s'.fed = s.fed)
  | read {t : Transaction} {rest : List Transaction} (started : e.standing = .started)
      (visible : e.stopRequested = true → e.heard = true) (view : e'.view = e.view)
      (hq : s.input.queue = t :: rest) (input : s'.input = { s.input with queue := rest })
      (fed : s'.fed = s.fed)
  | finish (started : e.standing = .started)
      (view : e'.view = { e.view with standing := .ended, done := true })
      (input : s'.input = s.input.shut) (fed : s'.fed = s.fed)
  | work (view : e'.view = e.view) (input : s'.input = s.input) (fed : s'.fed = s.fed)

variable {process : Behaviour σ} {actor : Actor} {s s' : Surroundings}

omit [Pipeline σ P] in
lemma Stride.of_worker {p p' : Processor σ} (h : p.step process s = some (p', s')) :
    (Engine.processor p : Engine σ P).Stride s (.processor p') s' := by
  have m := Processor.Move.of_step h
  generalize p.report process s = reports at m
  cases m with
  | hear hp asked hc => exact .hear (by simp [standing, hp]) asked rfl rfl rfl
  | take hp hq metrics =>
    refine .read (by simp [standing, hp]) (fun asked => ?_) (by simp [view_processor, hp]) hq rfl rfl
    -- a worker that has not heard of the shutdown would hear of it instead of reading
    by_contra unheard
    rw [Processor.step_of_asked process hp asked (by simpa [heard] using unheard)] at h
    simp [hp] at h
  | leave hp => exact .finish (by simp [standing, hp]) rfl rfl rfl
  -- all other moves are work on the transaction that was read
  | finish hp | fan hp | put hp | lose hp | sent hp | watch hp | collect hp | collectWatched hp
  | answer hp => exact .work (by simp [view_processor, hp]) rfl rfl

lemma Stride.of_dispatcher {p p' : Pool P} {d : Dispatcher P} (hstate : p.state = .running d)
    (h : p.dispatch d s = some (p', s')) :
    (Engine.pool p : Engine σ P).Stride s (.pool p') s' := by
  obtain ⟨p₁, d', turn, rfl⟩ := Pool.Turn.of_dispatch h
  rw [Pool.withDispatcher_of_running (turn.state.trans hstate)]
  cases turn with
  | hear hp hs asked hc =>
    refine .hear (by simp [standing, hstate, hp]) asked ?_ rfl rfl
    rw [view_pool hstate, view_pool rfl]
  | read hp hs visible hq =>
    refine .read (by simp [standing, hstate, hp]) (fun asked => ?_)
      (view_eq_of_running hstate rfl rfl rfl rfl .rfl rfl) hq rfl rfl
    simpa [heard, Pool.dispatcher?, hstate] using visible asked
  | finish hp all =>
    refine .finish (by simp [standing, hstate, hp]) ?_ rfl rfl
    rw [view_pool hstate, view_pool rfl]
    simp
  | resize hp hs heard hr hg =>
    obtain ⟨⟨lanes, strays, rfl⟩, ⟨nextIndex, attempt, rfl⟩, -⟩ := Pool.resizeRunning_cases hg
    exact .work (view_eq_of_running hstate rfl rfl rfl rfl .rfl rfl) rfl rfl
  | retire hp =>
    obtain ⟨lanes, frame⟩ := d.shrink_frame 0 s.metrics
    refine .work (view_eq_of_running hstate rfl rfl rfl rfl (by simp [hp]) ?_) rfl rfl
    simp [frame]
  | leave hp => exact .work (view_eq_of_running hstate rfl rfl rfl rfl (by simp [hp]) rfl) rfl rfl
  | hand | keep | choose | refuse =>
    exact .work (view_eq_of_running hstate rfl rfl rfl rfl .rfl rfl) rfl rfl

lemma Stride.of_step (lost : ∀ p d, e = .pool p → p.state ≠ .closed (some d))
    (h : e.step process actor s = some (e', s')) : e.Stride s e' s' := by
  cases e with
  | processor p =>
    obtain ⟨⟨p', around⟩, hm, h⟩ := Option.map_eq_some_iff.mp h
    cases h
    cases actor with
    | worker => exact .of_worker hm
    | _ => cases hm
  | pool p =>
    obtain ⟨⟨p', around⟩, hm, h⟩ := Option.map_eq_some_iff.mp h
    cases h
    obtain ⟨d, hstate⟩ := Pool.running_of_step (fun d => lost p d rfl) hm
    obtain ⟨-, hm⟩ | ⟨lanes, strays, rfl, -, input, fed, -⟩ := Pool.step_cases hstate hm
    · exact .of_dispatcher hstate hm
    · exact .work (view_eq_of_running hstate rfl rfl rfl rfl .rfl rfl) input fed

/-- A move of an actor leaves a component fit. -/
lemma Fit.step (h : e.Fit) (hm : e.step process actor s = some (e', s')) :
    e'.Fit ∧ e.Stride s e' s' := by
  obtain ⟨lanes, done, fresh⟩ := h
  have lost : ∀ p d, e = .pool p → p.state ≠ .closed (some d) := fun p d hp =>
    (lanes p hp).2.2 d
  have stride := Stride.of_step lost hm
  have kept : (e'.done = true ↔ e'.standing = .ended ∨ e'.standing = .closed) ∧
      (e'.standing = .idle → e'.heard = false) := by
    cases stride with
    | hear started asked view | read started visible view | work view =>
      simp only [Engine.view, View.mk.injEq] at view
      simp_all
    | finish started view =>
      simp only [Engine.view, View.mk.injEq] at view
      simp_all
  refine ⟨⟨?_, kept.1, kept.2⟩, stride⟩
  rintro p' rfl
  cases e with
  | processor p =>
    obtain ⟨_, -, h⟩ := Option.map_eq_some_iff.mp hm
    cases h
  | pool p =>
    obtain ⟨-, made, -⟩ := lanes p rfl
    obtain ⟨⟨p₁, around⟩, hm, h⟩ := Option.map_eq_some_iff.mp hm
    cases h
    obtain ⟨d, hstate⟩ := Pool.running_of_step (fun d => lost p d rfl) hm
    obtain ⟨nextIndex, attempt, size, done, d', rfl⟩ := Pool.step_frame hstate hm
    exact ⟨by simp, made, by simp⟩

/-- An actor that is free to turn to the input hears of a shutdown first. -/
lemma hears (attends : e.attends) (asked : e.stopRequested = true) (unheard : e.heard = false)
    (process : Behaviour σ) (s : Surroundings) :
    ∃ actor e', e.step process actor s = some (e', { s with input := s.input.close }) := by
  cases e with
  | processor p =>
    have hm := Processor.step_of_asked process attends asked unheard s
    exact ⟨.worker, .processor { p with closing := true }, by
      simp only [Engine.step, Pipeline.step, hm, Option.map_some]⟩
  | pool p =>
    obtain ⟨d, hstate, hp, hs⟩ := attends
    have hd : p.dispatcher? = some d := by simp [Pool.dispatcher?, hstate]
    have hm := Pool.dispatch_of_asked hp hs asked (by simpa [heard, hd] using unheard) s
    exact ⟨.dispatcher, .pool (p.withDispatcher { d with closing := true }), by
      simp only [Engine.step, Pool.step, hd, hm, Option.map_some]⟩

end Engine

/-! ### Holders -/

namespace Shared

/-- What a call of a holder came to. A binding and a wait have a result. The output was yielded or
not. A shutdown was the first one, or it was asked for before. A pool that is not bound yet says what
became of the number of lanes. -/
inductive Reply where
  | consumed (result : Except PipelineError Unit)
  | took (yielded : Bool)
  | closed (first : Bool)
  | waited (result : Except PipelineError Unit)
  | resized (n : Nat) (result : Except PipelineError Unit)
deriving DecidableEq

/-- What can go on at a shared component: a user at the dock does something, a producer sends on a
channel that is not bound yet, an actor moves, or a holder makes a call. A channel comes with what is
queued in it, and with the note whether somebody can still send on it. -/
inductive Event where
  | user (e : Dock.Event)
  | issue
  | move (actor : Actor)
  | consume (input : Channel) (fed : Bool)
  | takeOutput
  | askStop (holder : Nat)
  | finishClose (holder : Nat)
  | wait
  | setSize (ticket n : Nat)
deriving DecidableEq

end Shared

/-- A component with its dock and its holders. -/
structure Shared (σ P : Type) where
  engine : Engine σ P
  dock : Dock
  /-- The holders that are between the two steps of a shutdown. -/
  closers : List Nat := []
  /-- What the calls came to, the oldest first. -/
  replies : List Shared.Reply := []

namespace Shared

variable {σ P : Type} [Pipeline σ P]

/-- Bind an input. If it is refused the caller drops it, and what is queued in it. -/
def consume (s : Shared σ P) (input : Channel) (fed : Bool) : Shared σ P :=
  match s.engine.consume with
  | (.ok (), engine) =>
    { s with
      engine
      dock := { s.dock with
        around := { s.dock.around with input, fed }
        accepted := s.dock.accepted ++ input.queue }
      replies := s.replies ++ [.consumed (.ok ())] }
  | (.error e, engine) =>
    { s with
      engine
      dock := { s.dock with
        around := { s.dock.around with
          ledger := s.dock.around.ledger.abandonAll input.queue } }
      replies := s.replies ++ [.consumed (.error e)] }

/-- The first step of a shutdown. Only the first request goes on to the second one. -/
def askStop (s : Shared σ P) (holder : Nat) : Shared σ P :=
  if s.engine.stopRequested then { s with replies := s.replies ++ [.closed false] }
  else { s with engine := s.engine.requestStop, closers := s.closers ++ [holder] }

/-- The second step of a shutdown. -/
def finishClose (s : Shared σ P) (holder : Nat) : Shared σ P :=
  let (engine, metrics) := s.engine.closeIfIdle s.dock.around.metrics
  { s with
    engine
    dock := { s.dock with around := { s.dock.around with metrics } }
    closers := s.closers.erase holder
    replies := s.replies ++ [.closed true] }

/-- The component after an event, if the event can take place. -/
def step (process : Behaviour σ) (s : Shared σ P) : Event → Option (Shared σ P)
  | .user e => (s.dock.step e).map fun dock => { s with dock }
  | .issue =>
    some { s with
      dock := { s.dock with
        around := { s.dock.around with ledger := s.dock.around.ledger.fresh.2 } } }
  | .move actor =>
    (s.engine.step process actor s.dock.around).map fun (engine, around) =>
      { s with engine, dock := { s.dock with around } }
  | .consume input fed => some (s.consume input fed)
  | .takeOutput =>
    some { s with
      engine := s.engine.takeOutput, replies := s.replies ++ [.took !s.engine.outputTaken] }
  | .askStop holder => some (s.askStop holder)
  | .finishClose holder => if holder ∈ s.closers then some (s.finishClose holder) else none
  | .wait =>
    let result := if s.engine.done then .ok () else .error .timeout
    some { s with replies := s.replies ++ [.waited result] }
  | .setSize ticket n =>
    (s.engine.setSize ticket n s.dock.around.metrics).map fun (result, engine, metrics) =>
      { s with
        engine
        dock := { s.dock with around := { s.dock.around with metrics } }
        replies := s.replies ++ result.toList.map (.resized n) }

/-- The component after a sequence of events, if each of them can take place. -/
def run (process : Behaviour σ) (s : Shared σ P) (events : List Event) : Option (Shared σ P) :=
  runFrom (step process) s events

end Shared

end Conveyor
