import Conveyor.Proofs.Shared
import Conveyor.Proofs.Stage

/-!
# The life of a shared component

A component is bound at most once, and a shutdown is never lost, whatever happens between its two
steps: a component that was bound in time sees it and closes its input, and one that was not is closed
(`Shared.bound_once_and_stopped`). The invariant behind this speaks only of what the holders see, of
the input, and of what the calls came to (`Shared.Lawful`).
-/

namespace Conveyor

namespace Shared

variable {σ P : Type} [Pipeline σ P] {process : Behaviour σ} {s s' start : Shared σ P}

/-! ### What the calls came to -/

def Reply.binds : Reply → Bool
  | .consumed (.ok ()) => true
  | _                  => false

def Reply.yielded? : Reply → Option Bool
  | .took yielded => some yielded
  | _             => none

/-- How often an input was bound. -/
def bindings (s : Shared σ P) : Nat := s.replies.countP Reply.binds

/-- Whether the output was yielded, for each time that it was asked for. -/
def yields (s : Shared σ P) : List Bool := s.replies.filterMap Reply.yielded?

/-! ### The invariant -/

/-- How what the calls came to agrees with what the holders see. -/
structure Accounts (v : Engine.View) (closers : List Nat) (replies : List Reply) : Prop where
  bindings : replies.countP Reply.binds =
    if v.standing = .started ∨ v.standing = .ended then 1 else 0
  yields : ∃ n, replies.filterMap Reply.yielded? =
    if v.taken then true :: List.replicate n false else []
  closers : v.asked = false → closers = []
  returned : .closed true ∈ replies → v.asked = true ∧ v.standing ≠ .idle
  waited : .waited (.ok ()) ∈ replies → v.done = true

/-- How the input agrees with what the holders see: it is closed when the actor at the input has heard
of a shutdown, and nobody can send when it is not there. -/
structure Attentive (v : Engine.View) (input : Channel) (fed : Bool) : Prop where
  heard : v.heard = true → input.closed = true
  unbound : v.standing = .idle ∨ v.standing = .closed → fed = false
  ended : v.standing = .ended → input.queue = [] ∧ input.closed = true

/-- What holds of a shared component at any time. -/
structure Lawful (s : Shared σ P) : Prop where
  fit : s.engine.Fit
  accounts : Accounts s.engine.view s.closers s.replies
  attentive : Attentive s.engine.view s.dock.around.input s.dock.around.fed

section Calls

variable {v : Engine.View} {closers : List Nat} {replies : List Reply} {input : Channel} {fed : Bool}

lemma yields_concat {reply : Reply} (h : reply.yielded? = none) :
    (replies ++ [reply]).filterMap Reply.yielded? = replies.filterMap Reply.yielded? := by
  rw [List.filterMap_append, List.filterMap_cons_none h, List.filterMap_nil, List.append_nil]

lemma Accounts.bind (h : Accounts v closers replies) (idle : v.standing = .idle) :
    Accounts { v with standing := .started } closers (replies ++ [.consumed (.ok ())]) where
  bindings := by simp [h.bindings, idle, Reply.binds]
  yields := by
    rw [yields_concat rfl]
    exact h.yields
  closers := h.closers
  returned := fun closed => absurd idle (h.returned (by simpa using closed)).2
  waited := by simpa using h.waited

/-- A reply that tells of nothing new. -/
lemma Accounts.quiet (h : Accounts v closers replies) {reply : Reply}
    (binds : reply.binds = false) (yielded : reply.yielded? = none) (closed : reply ≠ .closed true)
    (waited : reply = .waited (.ok ()) → v.done = true) :
    Accounts v closers (replies ++ [reply]) where
  bindings := by simpa [binds] using h.bindings
  yields := by
    rw [yields_concat yielded]
    exact h.yields
  closers := h.closers
  returned := fun hclosed => h.returned (by simpa [closed.symm] using hclosed)
  waited := fun hwaited => by
    obtain hwaited | rfl : .waited (.ok ()) ∈ replies ∨ .waited (.ok ()) = reply := by
      simpa using hwaited
    · exact h.waited hwaited
    · exact waited rfl

lemma Accounts.take (h : Accounts v closers replies) :
    Accounts { v with taken := true } closers (replies ++ [.took !v.taken]) where
  bindings := by simpa [Reply.binds] using h.bindings
  yields := by
    obtain ⟨n, yields⟩ := h.yields
    have took : [Reply.took !v.taken].filterMap Reply.yielded? = [!v.taken] := rfl
    rw [List.filterMap_append, yields, took]
    cases v.taken with
    | false => exact ⟨0, rfl⟩
    | true => exact ⟨n + 1, by simp [List.replicate_succ']⟩
  closers := h.closers
  returned := by simpa using h.returned
  waited := by simpa using h.waited

lemma Accounts.ask (h : Accounts v closers replies) (holder : Nat) :
    Accounts { v with asked := true } (closers ++ [holder]) replies where
  bindings := h.bindings
  yields := h.yields
  closers := nofun
  returned := fun closed => ⟨rfl, (h.returned closed).2⟩
  waited := h.waited

/-- The second step of a shutdown closes what is not bound, and leaves all else as it is. -/
lemma Accounts.finish (h : Accounts v closers replies) {holder : Nat} (inside : holder ∈ closers)
    {v' : Engine.View}
    (hv : v.standing = .idle ∧ v' = { v with standing := .closed, done := true } ∨
      v.standing ≠ .idle ∧ v' = v) :
    Accounts v' (closers.erase holder) (replies ++ [.closed true]) := by
  have asked : v.asked = true := by
    by_contra unasked
    rw [h.closers (by simpa using unasked)] at inside
    cases inside
  obtain ⟨bindings, yields, -, -, waited⟩ := h
  have closed : Reply.yielded? (.closed true) = none := rfl
  rw [← yields_concat closed] at yields
  obtain ⟨idle, rfl⟩ | ⟨bound, rfl⟩ := hv
  · refine ⟨by simpa [idle, Reply.binds] using bindings, yields, by simp [asked], ?_, fun _ => rfl⟩
    exact fun _ => ⟨asked, nofun⟩
  · refine ⟨by simpa [Reply.binds] using bindings, yields, by simp [asked], ?_,
      by simpa using waited⟩
    exact fun _ => ⟨asked, bound⟩

lemma Accounts.wait (h : Accounts v closers replies) :
    Accounts v closers (replies ++ [.waited (if v.done then .ok () else .error .timeout)]) := by
  refine h.quiet ?_ rfl nofun ?_
  · split <;> rfl
  · split <;> simp_all

lemma Accounts.resize (h : Accounts v closers replies) (n : Nat)
    (result : Option (Except PipelineError Unit)) :
    Accounts v closers (replies ++ result.toList.map (.resized n)) := by
  cases result with
  | none => simpa using h
  | some result => exact h.quiet rfl rfl nofun nofun

end Calls

/-! ### It is kept -/

lemma Lawful.user (h : s.Lawful) {e : Dock.Event} {dock : Dock} (he : s.dock.step e = some dock) :
    Lawful { s with dock } := by
  obtain ⟨hfed, new, -, hinput, spent⟩ := Dock.input_of_step he
  refine ⟨h.fit, h.accounts, fun heard => ?_, fun unbound => ?_, fun ended => ?_⟩
  · simpa [hinput] using h.attentive.heard heard
  · have unfed := h.attentive.unbound unbound
    rw [← Bool.not_eq_true] at unfed ⊢
    exact fun fed => unfed (hfed fed)
  · obtain ⟨hq, hc⟩ := h.attentive.ended ended
    obtain rfl := spent (.inl hc)
    simpa [hinput, hq] using hc

lemma Lawful.move (h : s.Lawful) {actor : Actor} {engine : Engine σ P} {around : Surroundings}
    (hm : s.engine.step process actor s.dock.around = some (engine, around)) :
    Lawful { s with engine, dock := { s.dock with around } } := by
  obtain ⟨fit, stride⟩ := h.fit.step hm
  obtain ⟨-, ⟨bindings, yields, closers, returned, waited⟩, ⟨heard, unbound, ended⟩⟩ := h
  cases stride with
  | hear started asked view input fed =>
    have standing : s.engine.view.standing = .started := started
    refine ⟨fit, ?_, ?_⟩
    · rw [view]
      exact ⟨bindings, yields, closers, returned, waited⟩
    · rw [view, input, fed]
      exact ⟨fun _ => rfl, unbound, fun ended => by simp [standing] at ended⟩
  | read started visible view hq input fed =>
    have standing : s.engine.view.standing = .started := started
    refine ⟨fit, ?_, ?_⟩
    · rw [view]
      exact ⟨bindings, yields, closers, returned, waited⟩
    · rw [view, input, fed]
      exact ⟨heard, unbound, fun ended => by simp [standing] at ended⟩
  | finish started view input fed =>
    have standing : s.engine.view.standing = .started := started
    refine ⟨fit, ?_, ?_⟩
    · rw [view]
      refine ⟨by simpa [standing] using bindings, yields, closers, fun closed => ?_, fun _ => rfl⟩
      exact ⟨(returned closed).1, nofun⟩
    · rw [view, input, fed]
      exact ⟨fun _ => rfl, by simp, fun _ => ⟨rfl, rfl⟩⟩
  | work view input fed =>
    refine ⟨fit, ?_, ?_⟩
    · rw [view]
      exact ⟨bindings, yields, closers, returned, waited⟩
    · rw [view, input, fed]
      exact ⟨heard, unbound, ended⟩

lemma Lawful.consume (h : s.Lawful) (input : Channel) (fed : Bool) :
    (s.consume input fed).Lawful := by
  by_cases idle : s.engine.standing = .idle
  · obtain ⟨engine, hc, fit, view⟩ := h.fit.consume idle
    have unheard := h.fit.fresh idle
    simp only [Shared.consume, hc]
    refine ⟨fit, view ▸ h.accounts.bind idle, ?_⟩
    rw [view]
    refine ⟨fun heard => ?_, by simp, by simp⟩
    have heard : s.engine.heard = true := heard
    simp [unheard] at heard
  · obtain ⟨error, -, hc⟩ := Engine.consume_refused idle
    simp only [Shared.consume, hc]
    exact ⟨h.fit, h.accounts.quiet rfl rfl nofun nofun, h.attentive⟩

lemma Lawful.askStop (h : s.Lawful) (holder : Nat) : (s.askStop holder).Lawful := by
  unfold Shared.askStop
  split
  next => exact ⟨h.fit, h.accounts.quiet rfl rfl nofun nofun, h.attentive⟩
  next =>
    obtain ⟨fit, view⟩ := h.fit.requestStop
    refine ⟨fit, view ▸ h.accounts.ask holder, ?_⟩
    rw [view]
    exact ⟨h.attentive.heard, h.attentive.unbound, h.attentive.ended⟩

lemma Lawful.finishClose (h : s.Lawful) {holder : Nat} (inside : holder ∈ s.closers) :
    (s.finishClose holder).Lawful := by
  by_cases idle : s.engine.standing = .idle
  · obtain ⟨fit, view⟩ := h.fit.closeIfIdle idle s.dock.around.metrics
    refine ⟨fit, h.accounts.finish inside (.inl ⟨idle, view⟩), ?_⟩
    change Attentive (s.engine.closeIfIdle s.dock.around.metrics).1.view _ _
    rw [view]
    exact ⟨h.attentive.heard, fun _ => h.attentive.unbound (.inl idle), nofun⟩
  · simp only [Shared.finishClose, Engine.closeIfIdle_of_bound idle]
    exact ⟨h.fit, h.accounts.finish inside (.inr ⟨idle, rfl⟩), h.attentive⟩

/-- The invariant is kept by every event. -/
theorem Lawful.step (h : s.Lawful) {e : Event} (he : s.step process e = some s') : s'.Lawful := by
  cases e with
  | user e =>
    obtain ⟨dock, hd, rfl⟩ := Option.map_eq_some_iff.mp he
    exact h.user hd
  | issue =>
    cases he
    exact ⟨h.fit, h.accounts, h.attentive⟩
  | move actor =>
    obtain ⟨⟨engine, around⟩, hm, rfl⟩ := Option.map_eq_some_iff.mp he
    exact h.move hm
  | consume input fed =>
    cases he
    exact h.consume input fed
  | takeOutput =>
    cases he
    obtain ⟨fit, view⟩ := h.fit.takeOutput
    refine ⟨fit, view ▸ h.accounts.take, ?_⟩
    rw [view]
    exact ⟨h.attentive.heard, h.attentive.unbound, h.attentive.ended⟩
  | askStop holder =>
    cases he
    exact h.askStop holder
  | finishClose holder =>
    obtain ⟨inside, he⟩ := Option.ite_none_right_eq_some.mp he
    cases he
    exact h.finishClose inside
  | wait =>
    cases he
    exact ⟨h.fit, h.accounts.wait, h.attentive⟩
  | setSize ticket n =>
    obtain ⟨⟨result, engine, metrics⟩, hs, rfl⟩ := Option.map_eq_some_iff.mp he
    obtain ⟨fit, view⟩ := h.fit.setSize hs
    refine ⟨fit, view ▸ h.accounts.resize n result, ?_⟩
    rw [view]
    exact h.attentive

lemma Lawful.run (h : s.Lawful) {events : List Event} (hr : s.run process events = some s') :
    s'.Lawful :=
  runFrom_induction (fun h he => Lawful.step h he) h hr

/-! ### A shutdown is not lost -/

/-- Once a bound component has closed its input, nothing opens it again, and nobody can send on it. -/
lemma Lawful.sealed (h : s.Lawful) (bound : s.engine.standing ≠ .idle)
    (closed : s.dock.around.input.closed = true) {e : Event} (he : s.step process e = some s') :
    s'.engine.standing ≠ .idle ∧ s'.dock.around.input.closed = true ∧
      s'.dock.accepted = s.dock.accepted := by
  have kept {engine : Engine σ P} {v : Engine.View} (hv : engine.view = v)
      (hs : v.standing ≠ .idle) : engine.standing ≠ .idle := by
    subst hv
    exact hs
  cases e with
  | user e =>
    obtain ⟨dock, hd, rfl⟩ := Option.map_eq_some_iff.mp he
    obtain ⟨-, new, haccepted, hinput, spent⟩ := Dock.input_of_step hd
    obtain rfl := spent (.inl closed)
    exact ⟨bound, by simpa [hinput] using closed, by simpa using haccepted⟩
  | issue | wait =>
    cases he
    exact ⟨bound, closed, rfl⟩
  | move actor =>
    obtain ⟨⟨engine, around⟩, hm, rfl⟩ := Option.map_eq_some_iff.mp he
    cases (h.fit.step hm).2 with
    | hear started asked view input => exact ⟨kept view bound, by simp [input, Channel.close], rfl⟩
    | read started visible view hq input => exact ⟨kept view bound, by simpa [input] using closed, rfl⟩
    | finish started view input => exact ⟨kept view nofun, by simp [input, Channel.shut], rfl⟩
    | work view input => exact ⟨kept view bound, by simpa [input] using closed, rfl⟩
  | consume input fed =>
    cases he
    obtain ⟨error, -, hc⟩ := Engine.consume_refused bound
    simp [Shared.consume, hc, bound, closed]
  | takeOutput =>
    cases he
    exact ⟨kept h.fit.takeOutput.2 bound, closed, rfl⟩
  | askStop holder =>
    cases he
    unfold Shared.askStop
    split
    next => exact ⟨bound, closed, rfl⟩
    next => exact ⟨kept h.fit.requestStop.2 bound, closed, rfl⟩
  | finishClose holder =>
    obtain ⟨-, he⟩ := Option.ite_none_right_eq_some.mp he
    cases he
    simp [Shared.finishClose, Engine.closeIfIdle_of_bound bound, bound, closed]
  | setSize ticket n =>
    obtain ⟨⟨result, engine, metrics⟩, hs, rfl⟩ := Option.map_eq_some_iff.mp he
    exact ⟨kept (h.fit.setSize hs).2 bound, closed, rfl⟩

/-- From then on nothing is accepted. -/
lemma Lawful.accepted_of_closed (h : s.Lawful) (bound : s.engine.standing ≠ .idle)
    (closed : s.dock.around.input.closed = true) {more : List Event}
    (hr : s.run process more = some s') : s'.dock.accepted = s.dock.accepted := by
  induction more generalizing s with
  | nil =>
    obtain rfl := Option.some.inj hr
    rfl
  | cons e more ih =>
    obtain ⟨next, he, hr⟩ := Option.bind_eq_some_iff.mp hr
    obtain ⟨bound, closed, same⟩ := h.sealed bound closed he
    exact (ih (h.step he) bound closed hr).trans same

/-- The shutdown of a bound component is visible to the actor at the input: it reads nothing before
it has closed the input, it can do so when it turns to the input, and from then on nothing is
accepted. -/
structure Heeds (process : Behaviour σ) (s : Shared σ P) : Prop where
  asked : s.engine.stopRequested = true
  first : ∀ actor later, s.step process (.move actor) = some later →
    later.dock.around.input = s.dock.around.input ∨ later.dock.around.input.closed = true
  turns : s.engine.attends → s.dock.around.input.closed = false →
    ∃ actor later, s.step process (.move actor) = some later ∧
      later.dock.around.input.closed = true
  last : s.dock.around.input.closed = true → ∀ more later, s.run process more = some later →
    later.dock.accepted = s.dock.accepted

lemma Lawful.heeds (h : s.Lawful) (asked : s.engine.stopRequested = true)
    (bound : s.engine.standing ≠ .idle) : s.Heeds process := by
  refine ⟨asked, fun actor later hm => ?_, fun attends open_ => ?_, fun closed more later hr => ?_⟩
  · obtain ⟨⟨engine, around⟩, moved, rfl⟩ := Option.map_eq_some_iff.mp hm
    cases (h.fit.step moved).2 with
    -- only the reading needs the invariant: there is no shutdown that was not heard of, and what was
    -- heard of has closed the input
    | hear started _ view input => exact .inr (by simp [input, Channel.close])
    | read started visible view hq input =>
      exact .inr (by simpa [input] using h.attentive.heard (visible asked))
    | finish started view input => exact .inr (by simp [input, Channel.shut])
    | work view input => exact .inl input
  · have unheard : s.engine.heard = false := by
      by_contra heard
      have closed := h.attentive.heard (by simpa [Engine.view] using heard)
      simp [open_] at closed
    obtain ⟨actor, engine, hm⟩ := Engine.hears attends asked unheard process s.dock.around
    exact ⟨actor, _, Option.map_eq_some_iff.mpr ⟨_, hm, rfl⟩, rfl⟩
  · exact h.accepted_of_closed bound closed hr

/-! ### The life of a component -/

/-- A component that nobody has bound, closed or called yet, and whose lanes can be started if it is a
pool. -/
structure Opening (s : Shared σ P) : Prop where
  lanes : ∀ p, s.engine = .pool p → p.Offers Pipeline.Starts
  engine : s.engine.view = ⟨.idle, false, false, false, false⟩
  unfed : s.dock.around.fed = false
  closers : s.closers = []
  replies : s.replies = []

/-- A new pool is fit for that if all lanes can be started that its constructor makes. -/
lemma opening_of_create {construct : Nat → Nat → LaneBuild P}
    (starts : ∀ attempt index lane, (construct attempt index).lane = .ok lane → Pipeline.Starts lane)
    {threads laneBuffer outputCapacity : Nat} {metered : Bool} {metrics metrics' : Metrics.Store}
    {pool : Pool P}
    (made : Pool.create construct threads laneBuffer outputCapacity metered metrics =
      (.ok pool, metrics'))
    {dock : Dock} (unfed : dock.around.fed = false) :
    ({ engine := .pool pool, dock } : Shared σ P).Opening := by
  refine ⟨?_, ?_, unfed, rfl, rfl⟩
  · rintro _ ⟨⟩
    exact Pool.offers_of_create starts made
  · unfold Pool.create at made
    split at made
    next => cases made
    next =>
      dsimp only at made
      split at made <;> cases made
      rfl

lemma Opening.lawful (h : s.Opening) : s.Lawful := by
  obtain ⟨lanes, engine, unfed, closers, replies⟩ := h
  refine ⟨⟨fun p hp => ?_, ?_, ?_⟩, ?_, ?_⟩
  · obtain ⟨⟨ls, hstate, -, starts⟩, made, -⟩ := lanes p hp
    rw [hstate]
    refine ⟨?_, made, by simp⟩
    rintro _ ⟨⟩
    exact starts
  · simp only [Engine.view, Engine.View.mk.injEq] at engine
    simp [engine]
  · simp only [Engine.view, Engine.View.mk.injEq] at engine
    simp [engine]
  · rw [engine, closers, replies]
    exact ⟨rfl, ⟨0, rfl⟩, fun _ => rfl, by simp, by simp⟩
  · rw [engine]
    exact ⟨by simp, fun _ => unfed, by simp⟩

/-- Nobody has bound the component, and a shutdown has closed it. -/
structure Closed (s : Shared σ P) : Prop where
  unbound : s.bindings = 0
  standing : s.engine.standing = .closed
  output : s.engine.holdsOutput = false
  done : s.engine.done = true

/-- The component was bound, and its actors have left and dropped both the input and the output. -/
structure Ended (s : Shared σ P) : Prop where
  bound : s.bindings = 1
  standing : s.engine.standing = .ended
  input : s.dock.around.input.queue = [] ∧ s.dock.around.input.closed = true
  output : s.engine.holdsOutput = false

lemma Lawful.bindings_eq (h : s.Lawful) :
    s.bindings = if s.engine.standing = .started ∨ s.engine.standing = .ended then 1 else 0 :=
  h.accounts.bindings

lemma Lawful.closed_or_heeds (h : s.Lawful) (returned : .closed true ∈ s.replies) :
    s.Closed ∨ s.bindings = 1 ∧ s.Heeds process := by
  obtain ⟨asked, bound⟩ := h.accounts.returned returned
  cases hs : s.engine.standing with
  | idle => exact absurd hs bound
  | closed =>
    refine .inl ⟨by simp [h.bindings_eq, hs], hs, h.fit.drops_output (.inr hs), ?_⟩
    exact h.fit.done.mpr (.inr hs)
  | started | ended => exact .inr ⟨by simp [h.bindings_eq, hs], h.heeds asked bound⟩

lemma Lawful.closed_or_ended (h : s.Lawful) (done : s.engine.done = true) : s.Closed ∨ s.Ended := by
  rcases h.fit.done.mp done with ended | closed
  · refine .inr ⟨by simp [h.bindings_eq, ended], ended, h.attentive.ended ended, ?_⟩
    exact h.fit.drops_output (.inl ended)
  · refine .inl ⟨by simp [h.bindings_eq, closed], closed, ?_, done⟩
    exact h.fit.drops_output (.inr closed)

/-- An input is accepted as long as nobody has bound or closed the component. -/
lemma Lawful.consume_ok_iff (h : s.Lawful) :
    s.engine.consume.1 = .ok () ↔ s.engine.standing = .idle := by
  refine ⟨fun ok => ?_, fun idle => ?_⟩
  · by_contra bound
    obtain ⟨error, -, hc⟩ := Engine.consume_refused bound
    rw [hc] at ok
    cases ok
  · obtain ⟨engine, hc, -⟩ := h.fit.consume idle
    rw [hc]

/-- A refused input leaves the component alone and is dropped with what is queued in it. -/
lemma consume_of_error {error : PipelineError} (input : Channel) (fed : Bool)
    (h : s.engine.consume.1 = .error error) (lawful : s.Lawful) :
    (error = .alreadyConsuming ∨ error = .closed) ∧ (s.consume input fed).engine = s.engine ∧
      (s.consume input fed).dock = { s.dock with around := { s.dock.around with
        ledger := s.dock.around.ledger.abandonAll input.queue } } := by
  have bound : s.engine.standing ≠ .idle := fun idle => by
    rw [lawful.consume_ok_iff.mpr idle] at h
    cases h
  obtain ⟨error, known, hc⟩ := Engine.consume_refused bound
  rw [hc] at h
  cases h
  exact ⟨known, by simp [Shared.consume, hc]⟩

/-- Whatever the holders, the users and the actors do, and in whichever order: at most one input is
bound, and all others are refused without a change and dropped, which those who wait for their
transactions see; the output is yielded once; when the first shutdown has returned the component is
closed, or was bound and heeds the shutdown; and it is done only when it is closed, or has ended. -/
theorem bound_once_and_stopped (opening : start.Opening) {events : List Event}
    (hr : start.run process events = some s) :
    s.bindings ≤ 1 ∧ (s.engine.consume.1 = .ok () ↔ s.engine.standing = .idle) ∧
      (∀ input fed error, s.engine.consume.1 = .error error →
        (error = .alreadyConsuming ∨ error = .closed) ∧ (s.consume input fed).engine = s.engine ∧
          (s.consume input fed).dock = { s.dock with around := { s.dock.around with
            ledger := s.dock.around.ledger.abandonAll input.queue } } ∧
          ∀ t ∈ input.queue,
            ((s.consume input fed).dock.around.ledger.read t.reply).1 = .abandoned) ∧
      (∃ n, s.yields = [] ∨ s.yields = true :: List.replicate n false) ∧
      (.closed true ∈ s.replies → s.Closed ∨ s.bindings = 1 ∧ s.Heeds process) ∧
      (s.engine.done = true → s.Closed ∨ s.Ended) ∧
      (.waited (.ok ()) ∈ s.replies → s.engine.done = true) := by
  have lawful := opening.lawful.run hr
  refine ⟨?_, lawful.consume_ok_iff, fun input fed error refused => ?_, ?_,
    fun returned => lawful.closed_or_heeds returned, fun done => lawful.closed_or_ended done,
    lawful.accounts.waited⟩
  · rw [lawful.bindings_eq]
    split <;> decide
  · obtain ⟨known, engine, dock⟩ := consume_of_error input fed refused lawful
    refine ⟨known, engine, dock, fun t ht => ?_⟩
    rw [dock]
    exact Ledger.read_abandonAll _ ht
  · obtain ⟨n, yields⟩ := lawful.accounts.yields
    split at yields
    next => exact ⟨n, .inr yields⟩
    next => exact ⟨n, .inl yields⟩

/-- A lane with a fickle stage, for every number. -/
def plain (index : Nat) : LaneBuild (Processor Nat) where
  lane := .ok { lane := index, chain := [0], metered := false }

/-- A new pool of one lane, which nobody has called yet. -/
def small : Shared Nat (Processor Nat) where
  engine := .pool
    { construct := fun _ => plain
      laneBuffer := 1
      outputCapacity := 1
      metered := false
      nextIndex := 1
      size := 1
      state := .idle [(0, { chain := [0], metered := false })] }
  dock :=
    { around := { input := .new 1, fed := false, output := .new 1, ledger := {}, metrics := {} } }

lemma opening_small : small.Opening := by
  have made : Pool.create (fun _ => plain) 1 1 1 false {} = (.ok _, {}) := rfl
  refine opening_of_create ?_ made rfl
  rintro attempt index p hp
  cases hp
  exact ⟨rfl, fun _ => rfl⟩

/-- An input is bound between the two steps of a shutdown, and another one is refused. -/
def course : List Event :=
  [.issue, .askStop 1, .askStop 2, .consume { capacity := 2, queue := [⟨.empty, 0⟩] } true,
    .takeOutput, .issue, .consume { capacity := 2, queue := [⟨.empty, 1⟩] } true, .finishClose 1,
    .takeOutput, .wait]

theorem bound_once_and_stopped_small :
    ∃ s, small.run fickle course = some s ∧ s.yields = [true, false] ∧ s.engine.done = false ∧
      s.dock.around.ledger.settled = [(1, .abandoned)] ∧ s.bindings = 1 ∧ s.Heeds fickle := by
  obtain ⟨s, hr, hs⟩ := Option.map_eq_some_iff.mp
    (show (small.run fickle course).map (fun s =>
        (s.yields, s.engine.done, s.dock.around.ledger.settled, s.bindings,
          decide (.closed true ∈ s.replies))) =
        some ([true, false], false, [(1, .abandoned)], 1, true) by decide +kernel)
  simp only [Prod.mk.injEq, decide_eq_true_eq] at hs
  obtain ⟨yields, undone, settled, bindings, returned⟩ := hs
  obtain ⟨-, -, -, -, stopped, -⟩ := bound_once_and_stopped opening_small hr
  obtain closed | heeds := stopped returned
  · simp [closed.done] at undone
  · exact ⟨s, hr, yields, undone, settled, heeds⟩

end Shared

end Conveyor
