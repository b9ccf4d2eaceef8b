import Conveyor.Proofs.Metrics
import Conveyor.Proofs.Pool.Renumbering
import Conveyor.Proofs.Shared.Calls
import Conveyor.Proofs.Shared.Size

/-!
# The numbers of the lanes of a shared pool

Whatever its holders and actors do, and whichever lanes cannot be made or started, a pool makes every
lane under a number of its own, holds its lanes in the order of their numbers, and gives lanes up from
the end (`Shared.lanes_numbered_once`).
-/

namespace Conveyor

namespace Shared

variable {σ P : Type} [Pipeline σ P] {process : Behaviour σ} {s s' start : Shared σ P}

/-! ### The lanes that are made -/

/-- The numbers under which an event makes lanes. -/
def makes (s : Shared σ P) (e : Event) : List Nat :=
  match s.engine, e with
  | .pool p, .setSize _ n => p.madeBySetSize n
  | .pool p, .move actor  => p.madeByMove actor
  | _, _                  => []

/-- The numbers under which the events of a run make lanes, the oldest first. -/
def madeIn (process : Behaviour σ) (s : Shared σ P) : List Event → List Nat
  | []          => []
  | e :: events => s.makes e ++
      match s.step process e with
      | none    => []
      | some s' => madeIn process s' events

/-- The numbers of all lanes that were made up to the end of a run, of those that the pool was created
with too. -/
def everMade (process : Behaviour σ) (start : Shared σ P) (events : List Event) : List Nat :=
  match start.engine with
  | .processor _ => []
  | .pool p      => p.numbers ++ start.madeIn process events

/-! ### The run -/

/-- Every event changes the lanes of a pool as it may. -/
lemma renumbers_of_step {p : Pool P} (hp : s.engine = .pool p) {e : Event}
    (he : s.step process e = some s') :
    ∃ p', s'.engine = .pool p' ∧ p.Renumbers p' (s.makes e) := by
  obtain ⟨p', new, hp', event, -⟩ := PoolEvent.of_step hp he
  refine ⟨p', hp', ?_⟩
  unfold makes
  rw [hp]
  cases event with
  | quiet outputTaken stopRequested asked still =>
    cases e with
    | setSize ticket n => cases asked
    | move actor => exact absurd rfl (still actor)
    | _ => exact .of_same rfl rfl rfl
  | move h => exact Pool.renumbers_step h
  | bind input fed => exact Pool.renumbers_consume p
  | close holder => exact Pool.renumbers_closeIfIdle p _
  | ask h => exact (Pool.renumbers_setSize h).1

/-- Numbers that were used stay different from all that are used later. -/
lemma numbered_of_run {p : Pool P} (hp : s.engine = .pool p) {ever : List Nat}
    (numbered : p.Numbered ever) {events : List Event} (hr : s.run process events = some s') :
    ∃ p', s'.engine = .pool p' ∧ p'.Numbered (ever ++ s.madeIn process events) := by
  induction events generalizing s p ever with
  | nil =>
    cases hr
    exact ⟨p, hp, by simpa [madeIn] using numbered⟩
  | cons e events ih =>
    obtain ⟨next, he, hr⟩ := Option.bind_eq_some_iff.mp hr
    obtain ⟨p₁, hp₁, renumbers⟩ := renumbers_of_step hp he
    obtain ⟨p', hp', later⟩ := ih hp₁ (numbered.step renumbers) hr
    refine ⟨p', hp', ?_⟩
    rw [madeIn, he, ← List.append_assoc]
    exact later

/-! ### Requests that are met -/

/-- Whether a number of lanes is reached at an event: a pool that is not bound yet says so at once, and
a bound one when its dispatcher has handled the request. -/
inductive Meets (s : Shared σ P) : Event → Shared σ P → (n : Nat) → Prop where
  | atOnce {s' : Shared σ P} {ticket n : Nat} (h : s'.answers = s.answers ++ [(n, .ok ())]) :
      Meets s (.setSize ticket n) s' n
  | handled {s' : Shared σ P} {p p' : Pool P} {d d' : Dispatcher P} {request : Dispatcher.Request}
      {later : List Dispatcher.Request} (hp : s.engine = .pool p) (hd : p.dispatcher? = some d)
      (hr : d.requests = request :: later) (hp' : s'.engine = .pool p')
      (hd' : p'.dispatcher? = some d') (h : d'.replies = d.replies ++ [(request.ticket, .ok ())]) :
      Meets s (.move .dispatcher) s' request.size

/-- A number of lanes that is reached is made up of the first lanes and new ones. -/
lemma reaches_of_step {p p' : Pool P} (hp : s.engine = .pool p) {e : Event}
    (he : s.step process e = some s') (hp' : s'.engine = .pool p') {n : Nat}
    (meets : s.Meets e s' n) : p.Reaches p' n (s.makes e) := by
  obtain ⟨p₁, new, hp₁, event, answers⟩ := PoolEvent.of_step hp he
  obtain rfl := Engine.pool.inj (hp'.symm.trans hp₁)
  unfold makes
  rw [hp]
  cases meets with
  | atOnce h =>
    rw [h, List.append_cancel_left_eq] at answers
    cases event with
    | quiet _ _ asked => cases asked
    | @ask _ _ result _ _ hr =>
      refine (Pool.renumbers_setSize hr).2 ?_
      cases result with
      | none => cases answers
      | some answer =>
        cases answers
        rfl
  | handled hp₁ hd hr hp₁' hd' h =>
    obtain rfl := Engine.pool.inj (hp.symm.trans hp₁)
    obtain rfl := Engine.pool.inj (hp'.symm.trans hp₁')
    cases event with
    | quiet _ _ _ still => exact absurd rfl (still _)
    | move hstep =>
      simp only [Pool.step, hd] at hstep
      simp only [Pool.madeByMove, hd, Option.map_some, Option.getD_some]
      exact Pool.reaches_of_dispatch hd hstep hd' hr h

/-! ### The numbers of lanes -/

/-- Whatever is done with a pool that was created, and whichever calls of its constructor fail and lanes
cannot be started: the numbers of the lanes that it holds grow along its list and are below the next
number. All lanes that it ever made, those that it holds and those that it has retired among them, have
different numbers, and so different labels. No event leaves anything but the first ones of the lanes that
were held and lanes with numbers that were not used before, and when a number of lanes is reached the
first ones of the lanes, up to this number, are as they were. -/
theorem lanes_numbered_once (created : start.Created) {events : List Event}
    (hr : start.run process events = some s) {p : Pool P} (hp : s.engine = .pool p) :
    let ever := start.everMade process events
    (p.numbers.Pairwise (· < ·) ∧ ∀ i ∈ p.numbers, i < p.nextIndex) ∧
      (ever.Nodup ∧ p.numbers ⊆ ever ∧ p.started ⊆ ever ∧ p.started.Nodup) ∧
      (∀ path, (ever.map fun i => Metrics.Stat.labelled path ["lane"] [toString i]).Nodup) ∧
      ∀ e s' p', s.step process e = some s' → s'.engine = .pool p' →
        (∃ kept added, p'.numbers = kept ++ added ∧ kept <+: p.numbers ∧
          ∀ i ∈ added, i ∈ s.makes e ∧ i ∉ ever) ∧
        ∀ n, s.Meets e s' n → ∃ added, p'.roster = p.roster.take n ++ added ∧
          p'.roster.length = n ∧ ∀ l ∈ added, l.1 ∈ s.makes e ∧ l.1 ∉ ever := by
  intro ever
  obtain ⟨construct, threads, laneBuffer, outputCapacity, metered, metrics, p₀, made, pool⟩ :=
    created.pool
  obtain ⟨p', hp', numbered⟩ := numbered_of_run pool (Pool.Numbered.of_create made) hr
  obtain rfl := Engine.pool.inj (hp.symm.trans hp')
  have here : ever = p₀.numbers ++ start.madeIn process events := by
    simp only [ever, everMade, pool]
  rw [← here] at numbered
  obtain ⟨increasing, lt_next, held, started⟩ := numbered
  have distinct : ever.Nodup := increasing.imp fun h => h.ne
  -- what is made in an event lies above all that was made before
  have unused {e : Event} {s' : Shared σ P} (he : s.step process e = some s') :
      ∀ i ∈ s.makes e, i ∉ ever := by
    obtain ⟨p', -, renumbers⟩ := renumbers_of_step hp he
    obtain ⟨n, hmade, -⟩ := renumbers.unused
    intro i hi hever
    rw [hmade] at hi
    exact (lt_next i hever).not_ge (List.mem_range'_1.mp hi).1
  refine ⟨⟨increasing.sublist held, fun i hi => lt_next i (held.subset hi)⟩,
    ⟨distinct, held.subset, started.subset, distinct.sublist started⟩, ?_, ?_⟩
  · intro path
    exact distinct.map (Metrics.Stat.labelled_injective path "lane")
  · intro e s' p' he hp'
    obtain ⟨p₁, hp₁, renumbers⟩ := renumbers_of_step hp he
    obtain rfl := Engine.pool.inj (hp'.symm.trans hp₁)
    constructor
    · obtain ⟨kept, added, numbers, hkept, hadded⟩ := renumbers.numbers
      refine ⟨kept, added, numbers, hkept, fun i hi => ?_⟩
      exact ⟨hadded.subset hi, unused he i (hadded.subset hi)⟩
    · intro n meets
      obtain ⟨⟨added, roster, hadded⟩, length⟩ := reaches_of_step hp he hp' meets
      refine ⟨added, roster, length, fun l hl => ?_⟩
      have made := hadded.subset (List.mem_map_of_mem hl)
      exact ⟨made, unused he _ made⟩

/-- The lane that fails is made in the end under the number that was tried first. Two of the three lanes
are retired after that, and the one that stays is still the first. -/
theorem lanes_numbered_once_frail :
    ∃ s p, frail.run fickle resizing = some s ∧ s.engine = .pool p ∧ p.numbers = [0] ∧
      p.started = [0, 1, 2] ∧ frail.everMade fickle resizing = [0, 1, 2] ∧
      (frail.everMade fickle resizing).Nodup ∧ (∀ i ∈ p.numbers, i < p.nextIndex) := by
  obtain ⟨s, p, hr, hp, held, started, made⟩ :
      ∃ s p, frail.run fickle resizing = some s ∧ s.engine = .pool p ∧ p.numbers = [0] ∧
        p.started = [0, 1, 2] ∧ frail.everMade fickle resizing = [0, 1, 2] :=
    ⟨_, _, rfl, rfl, rfl, rfl, rfl⟩
  obtain ⟨⟨-, below⟩, ⟨distinct, -⟩, -⟩ := lanes_numbered_once created_frail hr hp
  exact ⟨s, p, hr, hp, held, started, made, distinct, below⟩

end Shared

end Conveyor
