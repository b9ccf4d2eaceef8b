import Conveyor.Proofs.Pool.Winding
import Conveyor.Proofs.Shared

/-!
# Pools that cannot be bound

When a lane cannot be started the binding of a pool fails. The lanes in front of it were started
already; they are retired, and when the last of them has ended the pool is done. Until then, and from
then on, the pool refuses every input and every other number of lanes
(`Shared.failed_binding_winds_up`).
-/

namespace Conveyor

variable {σ P : Type} [Pipeline σ P] {process : Behaviour σ} {contract : Pipeline.Winding process P}

/-- Whether a pipeline leaves all response paths alone, whatever moves it makes. -/
def Pipeline.Aloof (process : Behaviour σ) (pipeline : P) : Prop :=
  ∃ keeps : P → Prop, keeps pipeline ∧ ∀ pipeline pipeline' actor s s', keeps pipeline →
    Pipeline.step process actor pipeline s = some (pipeline', s') →
      keeps pipeline' ∧ s'.ledger = s.ledger

lemma Pipeline.Aloof.step {pipeline pipeline' : P} {actor : Actor} {s s' : Surroundings}
    (h : Pipeline.Aloof process pipeline)
    (hs : Pipeline.step process actor pipeline s = some (pipeline', s')) :
    Pipeline.Aloof process pipeline' ∧ s'.ledger = s.ledger := by
  obtain ⟨keeps, now, keep⟩ := h
  obtain ⟨later, same⟩ := keep _ _ _ _ _ now hs
  exact ⟨⟨keeps, later, keep⟩, same⟩

/-- A pipeline that never moves does so. -/
lemma Pipeline.Aloof.of_still {pipeline : P}
    (still : ∀ actor s, Pipeline.step process actor pipeline s = none) :
    Pipeline.Aloof process pipeline := by
  refine ⟨(· = pipeline), rfl, ?_⟩
  rintro _ pipeline' actor s s' rfl hs
  simp [still] at hs

lemma Pipeline.Aloof.inr {A B : Type} [Pipeline σ A] [Pipeline σ B] {b : B}
    (h : Pipeline.Aloof process b) : Pipeline.Aloof process (.inr b : A ⊕ B) := by
  refine ⟨fun pipeline => ∃ b, pipeline = .inr b ∧ Pipeline.Aloof process b, ⟨b, rfl, h⟩, ?_⟩
  rintro _ pipeline' actor s s' ⟨b, rfl, aloof⟩ hs
  obtain ⟨⟨b', s₁⟩, hm, hs⟩ := Option.map_eq_some_iff.mp hs
  cases hs
  obtain ⟨aloof', same⟩ := aloof.step hm
  exact ⟨⟨b', rfl, aloof'⟩, same⟩

/-! ### The pool -/

namespace Pool

variable {pool pool' : Pool P} {d : Dispatcher P} {numbers : List Nat}

/-- A pool that could not be bound, at any time from then on. -/
structure Failed (contract : Pipeline.Winding process P) (numbers : List Nat) (pool : Pool P)
    (d : Dispatcher P) : Prop where
  state : pool.state = .closed (some d)
  calm : d.Calm contract
  numbers : pool.started = numbers
  phase : d.phase ≠ .serving
  done : pool.done = true ↔ d.phase = .ended
  size : d.phase = .ended → pool.size = 0

omit [Pipeline σ P] in
lemma dispatcher_of_closed (h : pool.state = .closed (some d)) : pool.dispatcher? = some d := by
  simp [dispatcher?, h]

/-- If a lane cannot be started the pool is closed, with the lanes in front of it. -/
lemma consume_of_refusal {front back : List (Nat × P)} {index : Nat} {lane : P}
    (idle : pool.state = .idle (front ++ (index, lane) :: back)) {new : List (Lane P)}
    (started : List.Forall₂ (fun l lane => lane.StartedFrom pool.laneBuffer l.1 l.2) front new)
    {e : PipelineError} {strays : List P}
    (refusal : Lane.Refusal pool.laneBuffer index lane e strays) :
    pool.consume = (.error e,
      { pool with state := .closed (some { lanes := new, strays, phase := .leaving }) }) := by
  simp [consume, idle, startLanes_of_refusal started refusal]

lemma failed_of_started (contract : Pipeline.Winding process P) (pool : Pool P)
    {front : List (Nat × P)} {new : List (Lane P)} {laneBuffer : Nat}
    (started : List.Forall₂ (fun l lane => lane.StartedFrom laneBuffer l.1 l.2) front new)
    (strays : List P) (undone : pool.done = false) :
    Failed contract (front.map Prod.fst)
      { pool with state := .closed (some { lanes := new, strays, phase := .leaving }) }
      { lanes := new, strays, phase := .leaving } := by
  refine ⟨rfl, ⟨rfl, rfl, ?_, nofun, nofun⟩, ?_, nofun, by simp [undone], nofun⟩
  · induction started with
    | nil => exact nofun
    | cons first _ ih => exact List.forall_mem_cons.mpr ⟨first.calm, ih⟩
  · induction started with
    | nil => rfl
    | cons first _ ih => exact congrArg₂ List.cons first.index ih

/-- What its owner can still do to such a pool changes nothing that counts. -/
lemma Failed.of_same (h : Failed contract numbers pool d) (state : pool'.state = pool.state)
    (done : pool'.done = pool.done) (size : pool'.size = pool.size) :
    Failed contract numbers pool' d := by
  refine ⟨state.trans h.state, h.calm, ?_, h.phase, by rw [done, h.done], fun hp => ?_⟩
  · rw [← h.numbers, started, started, dispatcher?, dispatcher?, state]
  · rw [size, h.size hp]

/-- A move at such a pool: a pipeline that could not be started does something by itself, or there is
less left to be done. Neither sends anything on the output. -/
lemma Failed.step (h : Failed contract numbers pool d) {actor : Actor} {s s' : Surroundings}
    (hs : pool.step process actor s = some (pool', s')) :
    ∃ d', Failed contract numbers pool' d' ∧ s'.output = s.output ∧
      (if actor.isAside then d'.left contract = d.left contract
        else d'.left contract < d.left contract) ∧
      ((∀ stray ∈ d.strays, Pipeline.Aloof process stray) →
        s'.ledger = s.ledger ∧ ∀ stray ∈ d'.strays, Pipeline.Aloof process stray) := by
  have hd := dispatcher_of_closed h.state
  have numbers_ : d.tags.map Prod.fst = numbers := by
    rw [← h.numbers, started, hd]
    rfl
  obtain ⟨main, d', winds, -, around, pool_⟩ | ⟨i, inner, stray, stray', s₁, rfl, hl, hm, rfl, rfl⟩ :=
    winds_of_step hd h.calm (fun hp => absurd hp h.phase) hs
  · refine ⟨d', ?_, by rw [around], ?_, fun aloof => ?_⟩
    · have phase : d'.phase ≠ .serving := fun hp => h.phase (winds.phase hp)
      have tags := winds.numbers.trans numbers_
      obtain ⟨ended, rfl⟩ | ⟨same, rfl⟩ := pool_
      · refine ⟨by simp [withDispatcher, h.state], winds.calm, ?_, phase, ?_, fun _ => ?_⟩
        · simpa [started, withDispatcher, dispatcher?, h.state] using tags
        · simp [withDispatcher, h.state, ended]
        · simp [withDispatcher, h.state]
      · refine ⟨by simp [withDispatcher, h.state], winds.calm, ?_, phase, ?_, fun ended => ?_⟩
        · simpa [started, withDispatcher, dispatcher?, h.state] using tags
        · simpa [withDispatcher, h.state, same] using h.done
        · simpa [withDispatcher, h.state] using h.size (same.mp ended)
    · rw [main]
      exact winds.left
    · rw [winds.strays]
      exact ⟨by rw [around], aloof⟩
  · refine ⟨{ d with strays := d.strays.set i stray' }, ⟨?_, ?_, ?_, h.phase, ?_, ?_⟩, rfl, rfl,
      fun aloof => ?_⟩
    · simp [withDispatcher, h.state]
    · exact ⟨h.calm.slot, h.calm.requests, h.calm.lanes, h.calm.retired, h.calm.ended⟩
    · rw [started, dispatcher_withDispatcher hd]
      exact numbers_
    · simpa [withDispatcher, h.state] using h.done
    · simpa [withDispatcher, h.state] using h.size
    · obtain ⟨now, same⟩ := (aloof stray (List.mem_of_getElem? hl)).step hm
      exact ⟨same, forall_mem_set aloof now⟩

/-- A pool that could not be bound leaves all response paths alone if what could not be started in it
does so. -/
lemma Failed.aloof (h : Failed contract numbers pool d)
    (strays : ∀ stray ∈ d.strays, Pipeline.Aloof process stray) : Pipeline.Aloof process pool := by
  refine ⟨fun pool => ∃ d, Failed contract numbers pool d ∧
    ∀ stray ∈ d.strays, Pipeline.Aloof process stray, ⟨d, h, strays⟩, ?_⟩
  rintro pool pool' actor s s' ⟨d, failed, strays⟩ hs
  obtain ⟨d', failed', -, -, aloof⟩ := failed.step hs
  obtain ⟨ledger, strays'⟩ := aloof strays
  exact ⟨⟨d', failed', strays'⟩, ledger⟩

end Pool

/-! ### Refused transactions -/

namespace Dock

/-- Whether nobody can answer on a path that was given out. -/
structure Orphaned (d : Dock) (id : Nat) : Prop where
  dropped : (d.around.ledger.path id).sender = .dropped
  given : id < d.around.ledger.paths.length
  others : ∀ t ∈ d.held ++ d.around.output.queue, t.reply ≠ id

variable {d d' : Dock} {id : Nat}

lemma Orphaned.of_same (h : d.Orphaned id) (ledger : d'.around.ledger = d.around.ledger)
    (output : d'.around.output = d.around.output) (held : d'.held = d.held) : d'.Orphaned id := by
  obtain ⟨dropped, given, others⟩ := h
  exact ⟨ledger ▸ dropped, ledger ▸ given, by rwa [held, output]⟩

lemma Orphaned.fresh (h : d.Orphaned id) (ledger : d'.around.ledger = d.around.ledger.fresh.2)
    (output : d'.around.output = d.around.output) (held : d'.held = d.held) : d'.Orphaned id := by
  obtain ⟨dropped, given, others⟩ := h
  refine ⟨?_, ?_, by rwa [held, output]⟩
  · rw [ledger, Ledger.path_fresh_of_lt given]
    exact dropped
  · rw [ledger, Ledger.length_fresh]
    exact Nat.lt_succ_of_lt given

lemma Orphaned.step (h : d.Orphaned id) {e : Event} (he : d.step e = some d') : d'.Orphaned id := by
  have whole := h
  obtain ⟨dropped, given, others⟩ := h
  cases e with
  | send payload =>
    simp only [Dock.step] at he
    split at he <;> cases he
    exact whole.fresh rfl rfl rfl
  | depart =>
    cases he
    exact ⟨dropped, given, others⟩
  | look other =>
    simp only [Dock.step] at he
    split at he <;> cases he
    exact ⟨(Ledger.sender_read _ _ _).trans dropped, by simpa using given, others⟩
  | release other =>
    simp only [Dock.step] at he
    split at he <;> cases he
    exact ⟨(Ledger.sender_release _ _ _).trans dropped, by simpa using given, others⟩
  | receive =>
    simp only [Dock.step] at he
    split at he
    next => cases he
    next t rest hq =>
      cases he
      exact ⟨dropped, given, by simpa [hq] using others⟩
  | answer t response =>
    simp only [Dock.step] at he
    split at he
    next ht =>
      cases he
      have other : t.reply ≠ id := others t (List.mem_append_left _ ht)
      refine ⟨?_, by simpa using given, fun u hu => others u ?_⟩
      · rwa [Ledger.path_respond_of_ne other.symm]
      · exact List.mem_append.mpr ((List.mem_append.mp hu).imp_left List.mem_of_mem_erase)
    next => cases he
  | discard t =>
    simp only [Dock.step] at he
    split at he
    next ht =>
      cases he
      refine ⟨Ledger.sender_abandon_of_dropped dropped, by simpa using given, fun u hu => others u ?_⟩
      exact List.mem_append.mpr ((List.mem_append.mp hu).imp_left List.mem_of_mem_erase)
    next => cases he
  | hangUp =>
    cases he
    refine ⟨Ledger.sender_abandonAll_of_dropped _ dropped, by simpa using given, fun u hu => others u ?_⟩
    exact List.mem_append_left _ (by simpa [Channel.shut] using hu)

end Dock

/-! ### The holders -/

namespace Shared

variable {s s' start : Shared σ P} {pool : Pool P} {d : Dispatcher P} {numbers : List Nat}

/-- The moves that bring a pool that could not be bound closer to its end: all but those of pipelines
that were never part of it. -/
def Event.drives : Event → Bool
  | .move actor => !actor.isAside
  | _           => false

/-- A shared pool that could not be bound, at any time from then on. -/
structure Failed (contract : Pipeline.Winding process P) (numbers : List Nat) (s : Shared σ P)
    (pool : Pool P) (d : Dispatcher P) : Prop where
  engine : s.engine = .pool pool
  pool : pool.Failed contract numbers d

/-- It refuses every input, which is dropped by the caller. -/
lemma Failed.consume (h : Failed contract numbers s pool d) (input : Channel) (fed : Bool) :
    s.consume input fed = { s with
      dock := { s.dock with around := { s.dock.around with
        ledger := s.dock.around.ledger.abandonAll input.queue } }
      replies := s.replies ++ [.consumed (.error .closed)] } := by
  simp [Shared.consume, h.engine, Engine.consume, Pool.consume, h.pool.state]

/-- It refuses every other number of lanes. -/
lemma Failed.setSize (h : Failed contract numbers s pool d) (ticket : Nat) {n : Nat} (hn : n ≠ 0) :
    s.step process (.setSize ticket n) =
      some { s with replies := s.replies ++ [.resized n (.error .closed)] } := by
  simp only [Shared.step, Engine.setSize, h.engine, Pool.setSize, hn, if_false, h.pool.state]
  rw [← h.engine]
  rfl

/-- What happens at a shared pool that could not be bound: one of its actors moves, or what its users
and holders do changes nothing that counts. Nobody gets to answer what nobody could answer before, if
the pipelines aside do not. -/
lemma Failed.step (h : Failed contract numbers s pool d) {e : Event}
    (he : s.step process e = some s') :
    ∃ pool' d', Failed contract numbers s' pool' d' ∧
      (if e.drives then d'.left contract < d.left contract
        else d'.left contract = d.left contract) ∧
      ((∀ stray ∈ d.strays, Pipeline.Aloof process stray) →
        (∀ stray ∈ d'.strays, Pipeline.Aloof process stray) ∧
          ∀ id, s.dock.Orphaned id → s'.dock.Orphaned id) := by
  cases e with
  | user e =>
    obtain ⟨dock, hd, rfl⟩ := Option.map_eq_some_iff.mp he
    exact ⟨pool, d, ⟨h.engine, h.pool⟩, rfl,
      fun aloof => ⟨aloof, fun _ orphaned => orphaned.step hd⟩⟩
  | issue =>
    cases he
    refine ⟨pool, d, ⟨h.engine, h.pool⟩, rfl, fun aloof => ⟨aloof, ?_⟩⟩
    exact fun _ orphaned => orphaned.fresh rfl rfl rfl
  | wait =>
    cases he
    exact ⟨pool, d, ⟨h.engine, h.pool⟩, rfl, fun aloof => ⟨aloof, fun _ => id⟩⟩
  | move actor =>
    obtain ⟨⟨engine, around⟩, hm, rfl⟩ := Option.map_eq_some_iff.mp he
    rw [h.engine] at hm
    obtain ⟨⟨pool', around'⟩, hm, moved⟩ := Option.map_eq_some_iff.mp hm
    cases moved
    obtain ⟨d', failed, output, left, aloof⟩ := h.pool.step hm
    refine ⟨pool', d', ⟨rfl, failed⟩, ?_, fun strays => ?_⟩
    · cases aside : actor.isAside <;> simpa [Event.drives, aside] using left
    · obtain ⟨ledger, strays'⟩ := aloof strays
      exact ⟨strays', fun _ orphaned => orphaned.of_same ledger output rfl⟩
  | consume input fed =>
    cases he
    rw [h.consume]
    refine ⟨pool, d, ⟨h.engine, h.pool⟩, rfl, fun aloof => ⟨aloof, ?_⟩⟩
    rintro id ⟨dropped, given, others⟩
    exact ⟨Ledger.sender_abandonAll_of_dropped _ dropped, by simpa using given, others⟩
  | takeOutput =>
    cases he
    refine ⟨{ pool with outputTaken := true }, d, ⟨?_, h.pool.of_same rfl rfl rfl⟩, rfl,
      fun aloof => ⟨aloof, fun _ => id⟩⟩
    simp [h.engine, Engine.takeOutput]
  | askStop holder =>
    cases he
    unfold Shared.askStop
    split
    next =>
      exact ⟨pool, d, ⟨h.engine, h.pool⟩, rfl, fun aloof => ⟨aloof, fun _ => id⟩⟩
    next =>
      refine ⟨{ pool with stopRequested := true }, d, ⟨?_, h.pool.of_same rfl rfl rfl⟩, rfl,
        fun aloof => ⟨aloof, fun _ => id⟩⟩
      simp [h.engine, Engine.requestStop, Pool.requestStop]
  | finishClose holder =>
    obtain ⟨-, he⟩ := Option.ite_none_right_eq_some.mp he
    cases he
    refine ⟨pool, d, ⟨?_, h.pool⟩, rfl,
      fun aloof => ⟨aloof, fun _ orphaned => orphaned.of_same rfl rfl rfl⟩⟩
    simp [Shared.finishClose, h.engine, Engine.closeIfIdle, Pool.closeIfIdle, h.pool.state]
  | setSize ticket n =>
    by_cases hn : n = 0
    · subst hn
      simp only [Shared.step, Engine.setSize, h.engine, Pool.setSize, if_true, Option.map_some,
        Option.some.injEq] at he
      subst he
      exact ⟨pool, d, ⟨rfl, h.pool⟩, rfl, fun aloof => ⟨aloof, fun _ => id⟩⟩
    · rw [h.setSize ticket hn] at he
      cases he
      exact ⟨pool, d, ⟨h.engine, h.pool⟩, rfl, fun aloof => ⟨aloof, fun _ => id⟩⟩

lemma Failed.run (h : Failed contract numbers s pool d) {events : List Event}
    (hr : s.run process events = some s') :
    ∃ pool' d', Failed contract numbers s' pool' d' := by
  refine runFrom_induction (P := fun s => ∃ pool d, Failed contract numbers s pool d) ?_
    ⟨pool, d, h⟩ hr
  rintro s s' e ⟨pool, d, failed⟩ he
  obtain ⟨pool', d', failed', -⟩ := failed.step he
  exact ⟨pool', d', failed'⟩

/-- Nobody ever gets to answer what nobody could answer, if the pipelines aside do not. -/
lemma Failed.orphaned (h : Failed contract numbers s pool d)
    (aloof : ∀ stray ∈ d.strays, Pipeline.Aloof process stray) {id : Nat}
    (orphaned : s.dock.Orphaned id) {events : List Event} (hr : s.run process events = some s') :
    s'.dock.Orphaned id := by
  have kept := runFrom_induction (P := fun s : Shared σ P => ∃ pool d,
    Failed contract numbers s pool d ∧ (∀ stray ∈ d.strays, Pipeline.Aloof process stray) ∧
      s.dock.Orphaned id) ?_ ⟨pool, d, h, aloof, orphaned⟩ hr
  · obtain ⟨-, -, -, -, orphaned⟩ := kept
    exact orphaned
  · rintro s s' e ⟨pool, d, failed, aloof, orphaned⟩ he
    obtain ⟨pool', d', failed', -, keep⟩ := failed.step he
    obtain ⟨aloof', keep⟩ := keep aloof
    exact ⟨pool', d', failed', aloof', keep id orphaned⟩

/-- As long as it is not done it can go on by itself. -/
lemma Failed.progress (h : Failed contract numbers s pool d) (undone : pool.done = false) :
    ∃ (actor : Actor) (s' : Shared σ P), (Event.move actor).drives = true ∧
      s.step process (.move actor) = some s' := by
  have active : d.phase ≠ .ended := fun ended => by simp [h.pool.done.mpr ended] at undone
  obtain ⟨actor, main, moves⟩ := Pool.progress_of_calm (Pool.dispatcher_of_closed h.pool.state)
    h.pool.calm (s := s.dock.around) (fun hp => absurd hp h.pool.phase) active
  obtain ⟨⟨pool', around⟩, hm⟩ := Option.isSome_iff_exists.mp moves
  have moved : s.engine.step process actor s.dock.around = some (.pool pool', around) := by
    simp [Engine.step, h.engine, hm]
  exact ⟨actor, _, by simp [Event.drives, main], congrArg (Option.map _) moved⟩

/-- By itself it comes to its end. -/
lemma Failed.reaches_end (h : Failed contract numbers s pool d) :
    ∃ (events : List Event) (last : Shared σ P), (∀ e ∈ events, e.drives = true) ∧
      s.run process events = some last ∧ last.engine.done = true := by
  generalize hleft : d.left contract = left
  induction left using Nat.strong_induction_on generalizing s pool d with
  | _ left ih =>
    cases hdone : pool.done with
    | true => exact ⟨[], s, nofun, rfl, by simp [h.engine, Engine.done, hdone]⟩
    | false =>
      obtain ⟨actor, next, drives, he⟩ := h.progress hdone
      obtain ⟨pool', d', failed, less, -⟩ := h.step he
      rw [if_pos drives, hleft] at less
      obtain ⟨events, last, all, hr, done⟩ := ih _ less failed rfl
      refine ⟨.move actor :: events, last, List.forall_mem_cons.mpr ⟨drives, all⟩, ?_, done⟩
      exact (congrArg (Option.bind · _) he).trans hr

/-- On an endless run its actors move only finitely often. -/
lemma Failed.finite (h : Failed contract numbers s pool d) {states : ℕ → Shared σ P}
    {events : ℕ → Event} (endless : Endless (Shared.step process) states events) (hstart : states 0 = s) :
    {n | (events n).drives = true}.Finite := by
  have inv (n : ℕ) : ∃ pool d, Failed contract numbers (states n) pool d := by
    refine endless.induction (P := fun s => ∃ pool d, Failed contract numbers s pool d) ?_ ?_ n
    · rintro s s' e ⟨pool, d, failed⟩ he
      obtain ⟨pool', d', failed', -⟩ := failed.step he
      exact ⟨pool', d', failed'⟩
    · exact ⟨pool, d, hstart ▸ h⟩
  choose pools ds inv using inv
  have step (n : ℕ) : if (events n).drives then
      (ds (n + 1)).left contract < (ds n).left contract
      else (ds (n + 1)).left contract = (ds n).left contract := by
    obtain ⟨pool', d', failed, left, -⟩ := (inv n).step (endless n)
    obtain rfl := Engine.pool.inj (failed.engine.symm.trans (inv (n + 1)).engine)
    obtain rfl : d' = ds (n + 1) := by
      simpa using failed.pool.state.symm.trans (inv (n + 1)).pool.state
    exact left
  have order : WellFounded ((· < ·) : ℕ → ℕ → Prop) := wellFounded_lt
  refine finite_of_less order (m := fun n => (ds n).left contract) Set.finite_empty (fun n _ => ?_)
    fun n drives => ?_
  · have left := step n
    split at left
    · exact .inr left
    · exact .inl left
  · have drives : (events n).drives = true := drives
    have left := step n
    rwa [if_pos drives] at left

/-- What is left of a shared pool that could not be bound, at any time from then on. No lanes were
started but those with these numbers, and no transaction is in them. Every input and every number of
lanes is refused, which changes nothing. As long as the pool is not done something can move, and it can
come to its end by itself. When it is done all these lanes are retired and drained, its output is
dropped, and no lane is counted. -/
structure Aftermath (contract : Pipeline.Winding process P) (numbers : List Nat) (s : Shared σ P)
    (pool : Pool P) (d : Dispatcher P) : Prop where
  engine : s.engine = .pool pool
  closed : pool.state = .closed (some d)
  started : pool.started = numbers
  lanes : ∀ lane ∈ d.lanes, lane.Calm contract
  consume : ∀ input fed, s.consume input fed = { s with
    dock := { s.dock with around := { s.dock.around with
      ledger := s.dock.around.ledger.abandonAll input.queue } }
    replies := s.replies ++ [.consumed (.error .closed)] }
  setSize : ∀ ticket n, n ≠ 0 → s.step process (.setSize ticket n) =
    some { s with replies := s.replies ++ [.resized n (.error .closed)] }
  progress : pool.done = false → ∃ (actor : Actor) (s' : Shared σ P),
    (Event.move actor).drives = true ∧ s.step process (.move actor) = some s'
  ends : ∃ (events : List Event) (last : Shared σ P), (∀ e ∈ events, e.drives = true) ∧
    s.run process events = some last ∧ last.engine.done = true
  finished : pool.done = true → pool.size = 0 ∧ s.engine.holdsOutput = false ∧
    ∀ lane ∈ d.lanes, lane.retired = true ∧ lane.relayEnded = true

lemma Failed.aftermath (h : Failed contract numbers s pool d) :
    Aftermath contract numbers s pool d := by
  refine ⟨h.engine, h.pool.state, h.pool.numbers, h.pool.calm.lanes, h.consume,
    fun ticket n hn => h.setSize ticket hn, h.progress, h.reaches_end, fun done => ?_⟩
  have ended := h.pool.done.mp done
  refine ⟨h.pool.size ended, ?_, fun lane hlane => ?_⟩
  · simp [h.engine, Engine.holdsOutput, Pool.holdsOutput, h.pool.state, Pool.dispatcher?, ended]
  · exact ⟨h.pool.calm.retired (.inr ended) lane hlane, h.pool.calm.ended ended lane hlane⟩

/-- If a lane of a pool cannot be started the binding fails with the error of the first such lane, and
the input is dropped: whoever waits for the answer to one of its transactions sees that there is none,
then and at any time later. The lanes in front were started, and the others never are. Whatever the
users, the holders and the actors do from then on, the pool refuses all inputs and numbers of lanes, and
its actors bring it to its end: they have something to do until it is done, and can do so only finitely
often. -/
theorem failed_binding_winds_up (contract : Pipeline.Winding process P)
    (hp : start.engine = .pool pool) (undone : pool.done = false) {front back : List (Nat × P)}
    {index : Nat} {lane : P} (idle : pool.state = .idle (front ++ (index, lane) :: back))
    (startable : ∀ l ∈ front, ∃ started : Lane P, started.StartedFrom pool.laneBuffer l.1 l.2)
    {e : PipelineError} {strays : List P}
    (refusal : Lane.Refusal pool.laneBuffer index lane e strays) (input : Channel) (fed : Bool) :
    let failed := start.consume input fed
    (∃ new : List (Lane P),
      List.Forall₂ (fun l lane => lane.StartedFrom pool.laneBuffer l.1 l.2) front new ∧
        failed = { start with
          engine := .pool { pool with
            state := .closed (some { lanes := new, strays, phase := .leaving }) }
          dock := { start.dock with around := { start.dock.around with
            ledger := start.dock.around.ledger.abandonAll input.queue } }
          replies := start.replies ++ [.consumed (.error e)] }) ∧
      (∀ t ∈ input.queue, (failed.dock.around.ledger.read t.reply).1 = .abandoned) ∧
      (∀ events later, failed.run process events = some later →
        (∃ p d, Aftermath contract (front.map Prod.fst) later p d) ∧
        ((∀ stray ∈ strays, Pipeline.Aloof process stray) → ∀ t ∈ input.queue,
          t.reply < start.dock.around.ledger.paths.length →
          (∀ other ∈ start.dock.held ++ start.dock.around.output.queue, other.reply ≠ t.reply) →
          (later.dock.around.ledger.read t.reply).1 = .abandoned)) ∧
      ∀ states events, Endless (step process) states events → states 0 = failed →
        {n | (events n).drives = true}.Finite := by
  intro failed
  obtain ⟨new, started⟩ := Pool.exists_startedFrom startable
  have call : failed = { start with
      engine := .pool { pool with
        state := .closed (some { lanes := new, strays, phase := .leaving }) }
      dock := { start.dock with around := { start.dock.around with
        ledger := start.dock.around.ledger.abandonAll input.queue } }
      replies := start.replies ++ [.consumed (.error e)] } := by
    simp [failed, Shared.consume, hp, Engine.consume, Pool.consume_of_refusal idle started refusal]
  have inv : Failed contract (front.map Prod.fst) failed _ _ :=
    ⟨by rw [call], Pool.failed_of_started contract pool started strays undone⟩
  refine ⟨⟨new, started, call⟩, fun t ht => ?_, fun events later hr => ⟨?_, ?_⟩, ?_⟩
  · rw [call]
    exact Ledger.read_abandonAll _ ht
  · obtain ⟨p, d, failed⟩ := inv.run hr
    exact ⟨p, d, failed.aftermath⟩
  · intro aloof t ht given others
    have orphaned : failed.dock.Orphaned t.reply := by
      rw [call]
      exact ⟨Ledger.sender_abandonAll_of_mem _ ht, by simpa using given, others⟩
    exact Ledger.read_of_dropped (inv.orphaned aloof orphaned hr).dropped
  · exact fun states events endless hstart => inv.finite endless hstart

/-- A pool of pipelines that are not pools, which nobody has bound. -/
def shallow (lanes : List (Nat × SimplePipeline)) : Pool (Nested 0) where
  construct _ _ := { lane := .error .closed }
  laneBuffer := 1
  outputCapacity := 1
  nextIndex := lanes.length
  size := lanes.length
  state := .idle lanes

def plainLane : SimplePipeline := .processor { chain := [] }

def refusingLane : SimplePipeline := .refusing .alreadyConsuming false

/-- Two lanes that can be started. The second one is a pool. -/
def nestedFront : List (Nat × Nested 1) :=
  [(0, .inl plainLane), (1, .inr (shallow [(0, plainLane), (1, .deaf false)]))]

/-- A pool among whose lanes there is a third one that cannot be started, because a lane in it refuses
its input. -/
def nestedPool : Pool (Nested 1) where
  construct _ _ := { lane := .error .closed }
  laneBuffer := 1
  outputCapacity := 1
  nextIndex := 4
  size := 4
  state := .idle (nestedFront ++
    [(2, .inr (shallow [(0, plainLane), (1, refusingLane)])), (3, .inl plainLane)])

def nested : Shared Stage (Nested 1) where
  engine := .pool nestedPool
  dock :=
    { around :=
        { input := .new 1, fed := false, output := .new 1, ledger := { paths := [{}] },
          metrics := {} } }

/-- The lanes wind up, also inside of the first inner pool, while the second one does so aside, and
another input and another number of lanes are refused. -/
def unwinding : List Event :=
  [.move .dispatcher, .move (.inLane 1 .dispatcher), .consume (.new 1) true,
    .move (.inLane 0 .worker), .move (.inStray 0 .dispatcher), .move (.inLane 0 .worker),
    .move (.relay 0), .setSize 1 3, .move (.inLane 1 .dispatcher), .move (.inLane 1 .dispatcher),
    .move (.inLane 1 (.inLane 0 .worker)), .move (.inLane 1 (.inLane 0 .worker)),
    .move (.inLane 1 (.relay 1)), .move (.inLane 1 (.relay 0)), .move (.inLane 1 .dispatcher),
    .move (.relay 1), .move .dispatcher]

theorem failed_binding_winds_up_nested :
    ∃ later p d, (nested.consume { capacity := 1, queue := [⟨.empty, 0⟩] } true).run
        (Stage.process .empty) unwinding = some later ∧
      later.replies = [.consumed (.error .alreadyConsuming), .consumed (.error .closed),
        .resized 3 (.error .closed)] ∧
      (later.dock.around.ledger.read 0).1 = .abandoned ∧
      Aftermath (Nested.winding (Stage.process .empty) 1) [0, 1] later p d ∧
      p.done = true ∧ p.size = 0 ∧ later.engine.holdsOutput = false := by
  obtain ⟨later, hr, hlater⟩ := Option.map_eq_some_iff.mp
    (show ((nested.consume { capacity := 1, queue := [⟨.empty, 0⟩] } true).run
        (Stage.process .empty) unwinding).map (fun s => (s.engine.done, s.replies)) =
        some (true, [.consumed (.error .alreadyConsuming), .consumed (.error .closed),
          .resized 3 (.error .closed)]) by decide +kernel)
  simp only [Prod.mk.injEq] at hlater
  obtain ⟨done, replies⟩ := hlater
  have startable : ∀ l ∈ nestedFront, ∃ lane : Lane (Nested 1), lane.StartedFrom 1 l.1 l.2 :=
    List.forall_mem_cons.mpr ⟨⟨_, rfl, _, _, rfl, rfl⟩,
      List.forall_mem_singleton.mpr ⟨_, rfl, _, _, rfl, rfl⟩⟩
  obtain ⟨-, -, all, -⟩ := failed_binding_winds_up (Nested.winding (Stage.process .empty) 1)
    (show nested.engine = .pool nestedPool from rfl) rfl rfl startable (.refused rfl rfl)
    { capacity := 1, queue := [⟨.empty, 0⟩] } true
  -- the inner pool fails in the same way, and leaves all response paths alone
  have inner : List.Forall₂ (fun l lane => Lane.StartedFrom lane 1 l.1 l.2)
      [((0, plainLane) : Nat × Nested 0)] _ := .cons ⟨rfl, _, _, rfl, rfl⟩ .nil
  have still : Pipeline.Aloof (Stage.process .empty) (SimplePipeline.refusing .alreadyConsuming true) :=
    .of_still fun _ _ => rfl
  have aloof := (Pool.failed_of_started (Nested.winding (Stage.process .empty) 0)
    { shallow [(0, plainLane), (1, refusingLane)] with outputTaken := true } inner
    [SimplePipeline.refusing .alreadyConsuming true] rfl).aloof (List.forall_mem_singleton.mpr still)
  obtain ⟨⟨p, d, aftermath⟩, abandoned⟩ := all unwinding later hr
  have hdone : p.done = true := by simpa [aftermath.engine, Engine.done] using done
  obtain ⟨size, output, -⟩ := aftermath.finished hdone
  refine ⟨later, p, d, hr, replies, ?_, aftermath, hdone, size, output⟩
  exact abandoned (List.forall_mem_singleton.mpr aloof.inr) ⟨.empty, 0⟩ (List.mem_singleton.mpr rfl)
    (by decide) (by decide)

end Shared

end Conveyor
