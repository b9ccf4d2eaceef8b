import Conveyor.Proofs.Pool.Rolls
import Conveyor.Proofs.Shared.Calls
import Conveyor.Proofs.Shared.Size

/-!
# Changing the number of lanes before and after binding

The same pool is asked for the same numbers of lanes, once before it is bound and once after that. The
answers are the same, and so are the numbers of the lanes that it holds then, until a lane fails for the
second time (`Shared.resizing_agrees`): a pool that is not bound yet tries the number that failed again,
and a bound one takes the next number (`Shared.resizing_differs`).
-/

namespace Conveyor.Shared

variable {σ P : Type} [Pipeline σ P] {process : Behaviour σ} {s s' mid start : Shared σ P}
  {p p' p₀ : Pool P} {around : Surroundings} {e : Event}
  {new : List (Nat × Except PipelineError Unit)} {construct : Nat → LaneBuild P}

/-! ### Before binding -/

/-- What an event does to a pool that is not bound afterwards. -/
lemma PoolEvent.ask_of_idle (h : PoolEvent process p around e p' new)
    (steady : p.construct = fun _ => construct) {lanes' : List (Nat × P)}
    (idle : p'.state = .idle lanes') :
    (∃ lanes, p.state = .idle lanes) ∧
      (new, p'.roll) = p.roll.askAll false construct ((e.asked?.map Prod.snd).toList) := by
  cases h with
  | quiet _ _ asked =>
    rw [asked]
    exact ⟨⟨lanes', idle⟩, rfl⟩
  | move h =>
    obtain ⟨⟨d, hd⟩, -⟩ := Pool.dispatcher_of_step h
    simp [Pool.dispatcher?, idle] at hd
  | bind =>
    exfalso
    simp only [Pool.consume] at idle
    split at idle
    next hstate => simp [hstate] at idle
    next hstate => simp [hstate] at idle
    next => split at idle <;> cases idle
  | close =>
    exfalso
    unfold Pool.closeIfIdle at idle
    split at idle
    next => cases idle
    next notIdle => exact notIdle _ idle
  | @ask ticket n result p' metrics h =>
    have asked : (((Event.setSize ticket n).asked?.map Prod.snd).toList) = [n] := rfl
    rw [asked]
    by_cases hn : n = 0
    · rw [Pool.setSize, if_pos hn] at h
      cases h
      refine ⟨⟨lanes', idle⟩, ?_⟩
      rw [Pool.Roll.askAll, Pool.Roll.ask, if_pos hn]
      rfl
    · obtain ⟨-, rfl, -, refused⟩ | ⟨d, requests, -, -, rfl, -⟩ | ⟨lanes, answer, hidle, -, rfl, hr⟩ :=
        Pool.setSize_cases h
      · rcases refused with rfl | ⟨d, hrunning, -⟩ | ⟨d, hclosed⟩
        · exact absurd rfl hn
        · simp [hrunning] at idle
        · simp [hclosed] at idle
      · cases idle
      · have roll := Pool.roll_resizeIdle steady hidle hn hr
        refine ⟨⟨lanes, hidle⟩, ?_⟩
        rw [Pool.Roll.askAll, ← roll]
        rfl

/-- A pool that is not bound yet follows the rule, and tries a number that fails again. -/
lemma askAll_of_run {events : List Event} (hp₀ : start.engine = .pool p₀)
    (steady : p₀.construct = fun _ => construct) (hr : start.run process events = some s)
    (hp : s.engine = .pool p) {lanes : List (Nat × P)} (idle : p.state = .idle lanes) :
    (∃ lanes, p₀.state = .idle lanes) ∧
      s.answers = start.answers ++
        (p₀.roll.askAll false construct ((calls events).map Prod.snd)).1 ∧
      p.roll = (p₀.roll.askAll false construct ((calls events).map Prod.snd)).2 := by
  induction events generalizing start p₀ with
  | nil =>
    cases hr
    obtain rfl := Engine.pool.inj (hp₀.symm.trans hp)
    exact ⟨⟨lanes, idle⟩, (List.append_nil _).symm, rfl⟩
  | cons e events ih =>
    obtain ⟨next, he, hr⟩ := Option.bind_eq_some_iff.mp hr
    obtain ⟨p₁, new, hp₁, event, hnew⟩ := PoolEvent.of_step hp₀ he
    obtain ⟨⟨lanes₁, idle₁⟩, hanswers, hroll⟩ := ih hp₁ (event.construct.trans steady) hr
    obtain ⟨idle₀, first⟩ := event.ask_of_idle steady idle₁
    obtain ⟨rfl, hfirst⟩ := Prod.mk.inj (first.trans (Prod.mk.eta).symm)
    rw [sizes_cons, Pool.Roll.askAll_append, ← hfirst]
    refine ⟨idle₀, ?_, hroll⟩
    rw [hanswers, hnew, List.append_assoc]

/-! ### After binding -/

variable {d d' d₀ : Dispatcher P}

/-- The request that a call for a number of lanes leaves with a bound pool. -/
def Event.request? : Event → Option Dispatcher.Request
  | .setSize ticket n => if n = 0 then none else some ⟨ticket, n⟩
  | _                 => none

/-- What a bound pool does with the requests for a number of lanes that it has and gets, as long as it
serves: it handles the first ones in their order, skips every number that fails, and keeps the
others. -/
structure Handles (construct : Nat → LaneBuild P) (p : Pool P) (d : Dispatcher P)
    (asked : List Dispatcher.Request) (p' : Pool P) (d' : Dispatcher P) : Prop where
  serving : d.phase = .serving
  handled : ∃ handled, d.requests ++ asked = handled ++ d'.requests ∧
    d'.replies.map Prod.fst = d.replies.map Prod.fst ++ handled.map Dispatcher.Request.ticket ∧
    d'.replies.map Prod.snd = d.replies.map Prod.snd ++
      (p.roll.askAll true construct (handled.map Dispatcher.Request.size)).1.map Prod.snd ∧
    p'.roll = (p.roll.askAll true construct (handled.map Dispatcher.Request.size)).2

lemma Handles.of_same {asked : List Dispatcher.Request} (serving : d.phase = .serving)
    (roll : p'.roll = p.roll) (requests : d'.requests = d.requests ++ asked)
    (replies : d'.replies = d.replies) : Handles construct p d asked p' d' :=
  ⟨serving, [], by simp [requests], by simp [replies],
    by simp [replies, Pool.Roll.askAll], roll⟩

lemma Handles.trans {asked more : List Dispatcher.Request} {p₁ : Pool P} {d₁ : Dispatcher P}
    (first : Handles construct p d asked p₁ d₁) (second : Handles construct p₁ d₁ more p' d') :
    Handles construct p d (asked ++ more) p' d' := by
  obtain ⟨serving, handled, requests, tickets, results, roll⟩ := first
  obtain ⟨-, handled', requests', tickets', results', roll'⟩ := second
  refine ⟨serving, handled ++ handled', ?_, ?_, ?_, ?_⟩
  · rw [← List.append_assoc, requests, List.append_assoc, requests', List.append_assoc]
  · rw [tickets', tickets, List.map_append, List.append_assoc]
  · rw [results', results, List.map_append, Pool.Roll.askAll_append, List.map_append,
      List.append_assoc, roll]
  · rw [roll', List.map_append, Pool.Roll.askAll_append, roll]

/-- The roll of a bound pool. -/
lemma roll_of_running (hd : p.state = .running d) :
    p.roll = ⟨d.roster.map Prod.fst, p.nextIndex⟩ := by
  simp [Pool.roll, Pool.numbers, Pool.roster, Pool.dispatcher?, hd]

/-- What a dispatcher that goes on serving does with the requests. -/
lemma handles_of_dispatch (hd : p.state = .running d)
    (steady : p.construct = fun _ => construct)
    (starts : ∀ index lane, (construct index).lane = .ok lane → Pipeline.Starts lane)
    {around' : Surroundings} (h : p.dispatch d around = some (p', around'))
    (hd' : p'.state = .running d') (serving : d'.phase = .serving) :
    Handles construct p d [] p' d' := by
  cases hattended : p.attended d with
  | nil =>
    obtain ⟨p₁, d₁, turn, rfl⟩ := Pool.Turn.of_dispatch h
    obtain ⟨next, -, -, replies, same⟩ := turn.numbers hattended
    obtain ⟨nextIndex, attempt, size, done, rfl⟩ := turn.frame
    rw [Pool.withDispatcher_of_running (by exact hd)] at hd'
    obtain rfl := Pool.State.running.inj hd'
    obtain ⟨hp, requests, numbers⟩ := same serving
    refine .of_same hp ?_ (by rw [requests, List.append_nil]) replies
    rw [roll_of_running hd, Pool.withDispatcher_of_running (by exact hd), roll_of_running rfl,
      numbers]
    exact congrArg _ next
  | cons request later =>
    have requests := Pool.requests_of_attended hattended nofun
    have hp : d.phase = .serving := by
      unfold Pool.attended at hattended
      split at hattended
      next => cases hattended
      next hp _ => exact hp
      next => cases hattended
    obtain ⟨result, p₁, d₁, metrics, hresize, rfl⟩ := Pool.resize_of_attended hattended h
    have ask : p.roll.ask true construct request.size =
        (result, ⟨d₁.roster.map Prod.fst, p₁.nextIndex⟩) := by
      rw [roll_of_running hd]
      exact (Pool.roll_resizeRunning steady starts hresize).symm
    obtain ⟨⟨lanes, strays, hd₁⟩, ⟨nextIndex, attempt, hp₁⟩, -⟩ := Pool.resizeRunning_cases hresize
    have state : p₁.state = .running d := by rw [hp₁, hd]
    rw [Pool.withDispatcher_of_running state] at hd' ⊢
    obtain rfl := Pool.State.running.inj hd'
    have after : ({ p₁ with
        state := .running { d₁ with replies := d₁.replies ++ [(request.ticket, result)] } } :
          Pool P).roll = (p.roll.ask true construct request.size).2 := by
      rw [ask, roll_of_running rfl]
      rfl
    refine ⟨hp, [request], ?_, ?_, ?_, after⟩
    · rw [requests, hd₁]
      exact List.append_nil _
    · simp [hd₁]
    · simp [hd₁, Pool.Roll.askAll_cons, ask, Pool.Roll.askAll]

/-- What an event does to the requests with a bound pool, and what it answers at once. -/
lemma PoolEvent.handles (h : PoolEvent process p around e p' new) (hd : p.state = .running d)
    (steady : p.construct = fun _ => construct)
    (starts : ∀ index lane, (construct index).lane = .ok lane → Pipeline.Starts lane) :
    ∃ d', p'.state = .running d' ∧ (d'.phase = .serving →
      Handles construct p d e.request?.toList p' d' ∧
        new = ((e.asked?.map Prod.snd).toList.filter (· = 0)).map
          fun n => (n, .error (.invalidSize 0))) := by
  cases h with
  | quiet _ _ asked still =>
    refine ⟨d, hd, fun hp => ⟨.of_same hp rfl ?_ rfl, by rw [asked]; rfl⟩⟩
    cases e with
    | setSize => cases asked
    | _ => exact (List.append_nil _).symm
  | move h =>
    obtain ⟨nextIndex, attempt, size, done, d', rfl⟩ := Pool.step_frame hd h
    refine ⟨d', rfl, fun serving => ⟨?_, rfl⟩⟩
    have hdispatcher : p.dispatcher? = some d := by simp [Pool.dispatcher?, hd]
    obtain ⟨rfl, hm⟩ | ⟨-, lanes, strays, hp', tags⟩ := Pool.tags_of_step hdispatcher h
    · exact handles_of_dispatch hd steady starts hm rfl serving
    · rw [Pool.withDispatcher_of_running hd] at hp'
      cases hp'
      refine .of_same serving ?_ (List.append_nil _).symm rfl
      rw [roll_of_running hd, roll_of_running rfl, Dispatcher.numbers_roster, tags,
        Dispatcher.numbers_roster]
  | bind =>
    have same : p.consume.2 = p := by simp [Pool.consume, hd]
    rw [same]
    exact ⟨d, hd, fun hp => ⟨.of_same hp rfl (List.append_nil _).symm rfl, rfl⟩⟩
  | close =>
    have same : (p.closeIfIdle around.metrics).1 = p := by simp [Pool.closeIfIdle, hd]
    rw [same]
    exact ⟨d, hd, fun hp => ⟨.of_same hp rfl (List.append_nil _).symm rfl, rfl⟩⟩
  | @ask ticket n result p' metrics h =>
    by_cases hn : n = 0
    · rw [Pool.setSize, if_pos hn] at h
      cases h
      refine ⟨d, hd, fun hp => ⟨.of_same hp rfl ?_ rfl, ?_⟩⟩
      · simp [Event.request?, hn]
      · simp [Event.asked?, hn]
    · rw [Pool.setSize, if_neg hn] at h
      simp only [hd] at h
      split at h
      next ended =>
        cases h
        refine ⟨d, hd, fun hp => ?_⟩
        rw [hp] at ended
        cases ended
      next =>
        cases h
        refine ⟨_, rfl, fun hp => ⟨.of_same hp ?_ ?_ rfl, ?_⟩⟩
        · rw [roll_of_running hd, roll_of_running rfl]
          rfl
        · simp [Event.request?, hn]
        · simp [Event.asked?, hn]

/-- A bound pool follows the rule, and skips a number that fails. -/
lemma handles_of_run {events : List Event} (hp₀ : start.engine = .pool p₀)
    (hd₀ : p₀.state = .running d₀) (steady : p₀.construct = fun _ => construct)
    (starts : ∀ index lane, (construct index).lane = .ok lane → Pipeline.Starts lane)
    (hr : start.run process events = some s) (hp : s.engine = .pool p) (hd : p.state = .running d)
    (serving : d.phase = .serving) :
    Handles construct p₀ d₀ (events.filterMap Event.request?) p d ∧
      s.answers = start.answers ++ (((calls events).map Prod.snd).filter (· = 0)).map
        fun n => (n, .error (.invalidSize 0)) := by
  induction events generalizing start p₀ d₀ with
  | nil =>
    cases hr
    obtain rfl := Engine.pool.inj (hp₀.symm.trans hp)
    obtain rfl := Pool.State.running.inj (hd₀.symm.trans hd)
    exact ⟨.of_same serving rfl (List.append_nil _).symm rfl, (List.append_nil _).symm⟩
  | cons e events ih =>
    obtain ⟨next, he, hr⟩ := Option.bind_eq_some_iff.mp hr
    obtain ⟨p₁, new, hp₁, event, hnew⟩ := PoolEvent.of_step hp₀ he
    obtain ⟨d₁, hd₁, first⟩ := event.handles hd₀ steady starts
    obtain ⟨later, hanswers⟩ := ih hp₁ hd₁ (event.construct.trans steady) hr
    obtain ⟨handles, rfl⟩ := first later.serving
    have requests : (e :: events).filterMap Event.request? =
        e.request?.toList ++ events.filterMap Event.request? := by
      rw [List.filterMap_cons]
      cases e.request? <;> rfl
    rw [requests, sizes_cons, List.filter_append, List.map_append, ← List.append_assoc, hanswers, hnew]
    exact ⟨handles.trans later, rfl⟩

/-- A pool that was closed stays so. -/
lemma PoolEvent.closed (h : PoolEvent process p around e p' new) {lost : Option (Dispatcher P)}
    (hclosed : p.state = .closed lost) : ∃ lost', p'.state = .closed lost' := by
  cases h with
  | quiet => exact ⟨lost, hclosed⟩
  | move h => exact Pool.closed_of_step hclosed h
  | bind => exact ⟨lost, by simp [Pool.consume, hclosed]⟩
  | close => exact ⟨lost, by simp [Pool.closeIfIdle, hclosed]⟩
  | ask h =>
    obtain ⟨-, rfl, -⟩ | ⟨d, requests, hrunning, -⟩ | ⟨lanes, answer, hidle, -⟩ :=
      Pool.setSize_cases h
    · exact ⟨lost, hclosed⟩
    · simp [hclosed] at hrunning
    · simp [hclosed] at hidle

/-- What a pool is at that nobody has asked for a number of lanes since it had a given roll. -/
inductive Untouched (roll : Pool.Roll) (p : Pool P) : Prop where
  | idle {lanes : List (Nat × P)} (h : p.state = .idle lanes)
      (ready : ∀ l ∈ lanes, Pipeline.Starts l.2) (same : p.roll = roll)
  | running {d : Dispatcher P} (h : p.state = .running d)
      (fresh : d.phase = .serving → d.requests = [] ∧ d.replies = [] ∧ p.roll = roll)
  | closed {lost : Option (Dispatcher P)} (h : p.state = .closed lost)

lemma Untouched.event {roll : Pool.Roll} (h : Untouched roll p)
    (steady : p.construct = fun _ => construct)
    (starts : ∀ index lane, (construct index).lane = .ok lane → Pipeline.Starts lane)
    (unasked : e.asked? = none) (event : PoolEvent process p around e p' new) :
    Untouched roll p' ∧ new = [] := by
  have silent : new = [] := by
    cases event with
    | ask => cases unasked
    | _ => rfl
  refine ⟨?_, silent⟩
  cases h with
  | closed hclosed =>
    obtain ⟨lost', h⟩ := event.closed hclosed
    exact .closed h
  | @running d hd fresh =>
    obtain ⟨d', hd', handles⟩ := event.handles hd steady starts
    refine .running hd' fun serving => ?_
    obtain ⟨⟨hp, handled, requests, tickets, results, same⟩, -⟩ := handles serving
    obtain ⟨empty, unanswered, roll⟩ := fresh hp
    have request : e.request? = none := by
      cases e with
      | setSize => cases unasked
      | _ => rfl
    rw [empty, request] at requests
    obtain ⟨rfl, left⟩ := List.append_eq_nil_iff.mp requests.symm
    refine ⟨left, ?_, same.trans roll⟩
    rw [unanswered] at tickets
    exact List.map_eq_nil_iff.mp tickets
  | @idle lanes hidle ready same =>
    cases event with
    | quiet => exact .idle hidle ready same
    | move h => simp [Pool.step, Pool.dispatcher?, hidle] at h
    | bind =>
      have ok := Pool.consume_of_starts hidle ready
      obtain ⟨d, bound, -, requests, replies, kept⟩ := Pool.roll_consume (Prod.ext ok rfl)
      exact .running (congrArg Pool.state bound) fun _ => ⟨requests, replies, kept.trans same⟩
    | close => exact .closed (by simp [Pool.closeIfIdle, hidle, Pool.recordSize]; rfl)
    | ask => cases unasked

/-- A pool that was bound and not asked for anything has answered nothing. -/
lemma Untouched.of_started {roll : Pool.Roll} (h : Untouched roll p)
    (bound : (.pool p : Engine σ P).standing = .started) :
    ∃ d, p.state = .running d ∧
      (d.phase = .serving → d.requests = [] ∧ d.replies = [] ∧ p.roll = roll) := by
  cases h with
  | idle h => simp [Engine.standing, h] at bound
  | closed h => simp [Engine.standing, h] at bound
  | running h fresh => exact ⟨_, h, fresh⟩

lemma untouched_of_run {events : List Event} (hp₀ : start.engine = .pool p₀) {roll : Pool.Roll}
    (untouched : Untouched roll p₀) (steady : p₀.construct = fun _ => construct)
    (starts : ∀ index lane, (construct index).lane = .ok lane → Pipeline.Starts lane)
    (unasked : ∀ e ∈ events, e.asked? = none) (hr : start.run process events = some s) :
    ∃ p, s.engine = .pool p ∧ Untouched roll p ∧ p.construct = p₀.construct ∧
      s.answers = start.answers := by
  induction events generalizing start p₀ with
  | nil =>
    cases hr
    exact ⟨p₀, hp₀, untouched, rfl, rfl⟩
  | cons e events ih =>
    obtain ⟨next, he, hr⟩ := Option.bind_eq_some_iff.mp hr
    obtain ⟨p₁, new, hp₁, event, hnew⟩ := PoolEvent.of_step hp₀ he
    obtain ⟨first, later⟩ := List.forall_mem_cons.mp unasked
    obtain ⟨untouched, rfl⟩ := untouched.event steady starts first event
    obtain ⟨p, hp, untouched, same, answers⟩ := ih hp₁ untouched
      (event.construct.trans steady) later hr
    exact ⟨p, hp, untouched, same.trans event.construct, answers.trans (by rw [hnew]; simp)⟩

/-! ### The comparison -/

/-- The number that is recorded is that of the lanes, if no call before binding has left it behind. -/
lemma Created.size_eq (created : start.Created) {events : List Event}
    (hr : start.run process events = some s) (hp : s.engine = .pool p) {held : Nat}
    (hheld : p.held? = some held) (reached : drifting s.replies = false) :
    p.size = p.numbers.length := by
  have same : p.numbers.length = held := by
    unfold Pool.held? at hheld
    split at hheld
    next hidle => simpa [Pool.numbers, Pool.roster, hidle] using hheld
    next hd =>
      obtain ⟨-, size⟩ := Option.ite_none_right_eq_some.mp hheld
      simpa [Pool.numbers, Pool.roster, Pool.dispatcher?, hd, Dispatcher.roster, Dispatcher.size]
        using size
    next => cases hheld
  exact ((created.recorded hr p hp held hheld).exact (.inl reached)).trans same.symm

/-- The lanes of a new pool are ready if all that it makes can be started. -/
lemma Created.ready (created : start.Created) (hp₀ : start.engine = .pool p₀)
    (starts : ∀ attempt index lane,
      (p₀.construct attempt index).lane = .ok lane → Pipeline.Starts lane) :
    ∃ lanes, p₀.state = .idle lanes ∧ ∀ l ∈ lanes, Pipeline.Starts l.2 := by
  obtain ⟨construct, threads, laneBuffer, outputCapacity, metered, metrics, p, made, pool⟩ :=
    created.pool
  obtain rfl := Engine.pool.inj (hp₀.symm.trans pool)
  rw [(Pool.frame_of_create made).1] at starts
  obtain ⟨lanes, idle, -, ready⟩ := (Pool.offers_of_create starts made).lanes
  exact ⟨lanes, idle, ready⟩

/-- The requests that calls leave with a bound pool. -/
lemma requests_of_calls (events : List Event) :
    events.filterMap Event.request? =
      ((calls events).filter (·.2 ≠ 0)).map fun c => ⟨c.1, c.2⟩ := by
  induction events with
  | nil => rfl
  | cons e events ih =>
    rw [calls] at ih ⊢
    cases e with
    | setSize ticket n =>
      by_cases hn : n = 0
      · simpa [Event.request?, Event.asked?, hn] using ih
      · simpa [Event.request?, Event.asked?, hn] using ih
    | _ => exact ih

/-- A pool whose calls for a number of lanes were refused at once does not drift. -/
lemma drifting_of_refused {replies : List Reply}
    (h : ∀ a ∈ replies.filterMap Reply.answer?, a.1 = 0) : drifting replies = false := by
  induction replies using List.reverseRecOn with
  | nil => rfl
  | append_singleton replies reply ih =>
    rw [List.filterMap_append, List.forall_mem_append] at h
    rw [drifting_concat, ih h.1]
    cases reply with
    | resized n result =>
      have hn : n = 0 := h.2 (n, result) (by simp [Reply.answer?])
      cases result <;> simp [Reply.drifts, Pool.drifts, hn]
    | _ => rfl

/-- A pool that was created is asked for the same numbers of lanes, once before it is bound and once after
that. What its constructor does depends on the number of the lane alone, and the lanes that it makes can
all be started. If not more than one of the calls before it is bound comes to a lane that fails, then each
call has the same answer in both cases, and the lanes that are held then have the same numbers. The size
that is recorded is the same too, unless the last number that was asked for before binding was not
reached. If a lane has failed its number is the next one of the pool that is not bound, and lies before the
next one of the bound pool. -/
theorem resizing_agrees (created : start.Created) (hp₀ : start.engine = .pool p₀)
    (steady : p₀.construct = fun _ => construct)
    (starts : ∀ index lane, (construct index).lane = .ok lane → Pipeline.Starts lane)
    -- the calls are made before binding
    {early : List Event} (hr : start.run process early = some s) (hp : s.engine = .pool p)
    {lanes : List (Nat × P)} (idle : p.state = .idle lanes)
    -- the calls are made after binding, and all of them were handled
    {before late : List Event} (hb : start.run process before = some mid)
    (unasked : calls before = []) (bound : mid.engine.standing = .started)
    (hr' : mid.run process late = some s') (hp' : s'.engine = .pool p')
    (hd : p'.state = .running d) (serving : d.phase = .serving) (handled : d.requests = [])
    (same : (calls late).map Prod.snd = (calls early).map Prod.snd)
    (once : s.answers.countP Pool.Roll.missed ≤ 1) :
    s.answers.map Prod.fst = (calls early).map Prod.snd ∧
      s'.answers = s.answers.filter (·.1 = 0) ∧
      d.replies.map Prod.fst = ((calls late).filter (·.2 ≠ 0)).map Prod.fst ∧
      d.replies.map Prod.snd = (s.answers.filter (·.1 ≠ 0)).map Prod.snd ∧
      p'.numbers = p.numbers ∧
      (drifting s.replies = false → p'.size = p.size) ∧
      if s.answers.any Pool.Roll.missed then
        p'.nextIndex = p.nextIndex + 1 ∧ ∃ error, (construct p.nextIndex).lane = .error error
      else p'.nextIndex = p.nextIndex := by
  obtain ⟨-, hanswers, hroll⟩ := askAll_of_run hp₀ steady hr hp idle
  have fresh : start.answers = [] := by rw [answers, created.replies, List.filterMap_nil]
  rw [fresh, List.nil_append] at hanswers
  obtain ⟨lanes₀, idle₀, ready⟩ := created.ready hp₀ (by rw [steady]; exact fun _ => starts)
  obtain ⟨p₁, hp₁, untouched, kept, unanswered⟩ := untouched_of_run hp₀ (.idle idle₀ ready rfl)
    steady starts (List.filterMap_eq_nil_iff.mp unasked) hb
  rw [hp₁] at bound
  obtain ⟨d₁, hd₁, still⟩ := untouched.of_started bound
  obtain ⟨⟨serving₁, done, requests, tickets, results, roll⟩, refused⟩ :=
    handles_of_run hp₁ hd₁ (kept.trans steady) starts hr' hp' hd serving
  obtain ⟨empty, silent, roll₁⟩ := still serving₁
  rw [empty, handled, List.nil_append, List.append_nil, requests_of_calls] at requests
  subst requests
  have sizes : (((calls late).filter (·.2 ≠ 0)).map fun c => (⟨c.1, c.2⟩ : Dispatcher.Request)).map
      Dispatcher.Request.size = ((calls early).map Prod.snd).filter (· ≠ 0) := by
    rw [← same, List.filter_map, List.map_map]
    rfl
  rw [sizes, roll₁, Pool.Roll.askAll_nonzero] at results roll
  rw [silent] at tickets results
  have once : (if false then 1 else 0) + (p₀.roll.askAll false construct
      ((calls early).map Prod.snd)).1.countP Pool.Roll.missed ≤ 1 := by
    simpa [← hanswers] using once
  obtain ⟨agree, agrees⟩ := (Pool.Roll.Agrees.refl construct p₀.roll).askAll once
  rw [← hanswers, ← hroll, ← roll, Bool.false_or] at agrees
  rw [agree, ← hanswers] at results
  obtain ⟨numbers, next, fails⟩ := agrees
  have zeros : s'.answers = s.answers.filter (·.1 = 0) := by
    rw [refused, unanswered, fresh, List.nil_append, same, hanswers, Pool.Roll.askAll_zero]
  refine ⟨?_, zeros, ?_, ?_, numbers, ?_, ?_⟩
  · rw [hanswers, Pool.Roll.askAll_sizes]
  · rw [tickets, List.map_nil, List.nil_append, List.map_map]
    rfl
  · rw [results, List.map_nil, List.nil_append]
  · intro reached
    have hrun : start.run process (before ++ late) = some s' := (runFrom_append hb).trans hr'
    have quiet : drifting s'.replies = false := by
      refine drifting_of_refused fun a ha => ?_
      have ha : a ∈ s'.answers := ha
      rw [zeros, List.mem_filter] at ha
      simpa using ha.2
    have held : p.held? = some lanes.length := by simp [Pool.held?, idle]
    have held' : p'.held? = some d.size := by simp [Pool.held?, hd, serving]
    rw [created.size_eq hr hp held reached, created.size_eq hrun hp' held' quiet]
    exact congrArg List.length numbers
  · split
    next hmissed =>
      rw [if_pos hmissed] at next
      exact ⟨next, fails hmissed⟩
    next hmissed =>
      rw [if_neg hmissed] at next
      exact next

/-- A constructor that fails for the second lane only. -/
def gapped (index : Nat) : LaneBuild (Processor Nat) where
  lane :=
    if index = 1 then .error (.construction "lane 1 broken")
    else .ok { lane := index, chain := [] }

/-- A new pool of one lane. -/
def gap : Shared Nat (Processor Nat) where
  engine := .pool
    { construct := fun _ => gapped
      laneBuffer := 1
      outputCapacity := 1
      nextIndex := 1
      size := 1
      state := .idle [(0, { chain := [] })] }
  dock := frail.dock

lemma created_gap : gap.Created where
  pool := ⟨fun _ => gapped, 1, 1, 1, true, {}, _, rfl, rfl⟩
  replies := rfl

lemma starts_gapped (index : Nat) (lane : Processor Nat) (h : (gapped index).lane = .ok lane) :
    Pipeline.Starts lane := by
  unfold gapped at h
  dsimp only at h
  split at h
  next => cases h
  next =>
    cases h
    exact ⟨rfl, fun _ => rfl⟩

/-- A number of lanes that is not reached, and then the one that is there. -/
theorem resizing_agrees_gap :
    ∃ (s s' : Shared Nat (Processor Nat)) (p p' : Pool (Processor Nat))
      (d : Dispatcher (Processor Nat)),
      gap.run fickle [.setSize 0 2, .setSize 1 1] = some s ∧
      gap.run fickle [.consume { capacity := 1 } true, .setSize 0 2, .setSize 1 1,
        .move .dispatcher, .move .dispatcher] = some s' ∧
      s.engine = .pool p ∧ s'.engine = .pool p' ∧ p'.state = .running d ∧
      s.answers.map Prod.snd = [.error (.construction "lane 1 broken"), .ok ()] ∧
      d.replies.map Prod.snd = [.error (.construction "lane 1 broken"), .ok ()] ∧
      p'.numbers = p.numbers ∧ p'.nextIndex = p.nextIndex + 1 := by
  obtain ⟨s, p, hr, hp, idle, answers⟩ :
      ∃ s p, gap.run fickle [.setSize 0 2, .setSize 1 1] = some s ∧ s.engine = .pool p ∧
        p.state = .idle [(0, { chain := [] })] ∧
        s.answers = [(2, .error (.construction "lane 1 broken")), (1, .ok ())] :=
    ⟨_, _, rfl, rfl, rfl, rfl⟩
  obtain ⟨mid, hb, bound⟩ :
      ∃ mid, gap.run fickle [.consume { capacity := 1 } true] = some mid ∧
        mid.engine.standing = .started := ⟨_, rfl, rfl⟩
  obtain ⟨s', p', d, hr', hwhole, hp', hd, serving, handled⟩ :
      ∃ s' p' d, mid.run fickle [.setSize 0 2, .setSize 1 1, .move .dispatcher, .move .dispatcher] =
          some s' ∧
        gap.run fickle [.consume { capacity := 1 } true, .setSize 0 2, .setSize 1 1,
          .move .dispatcher, .move .dispatcher] = some s' ∧
        s'.engine = .pool p' ∧ p'.state = .running d ∧ d.phase = .serving ∧ d.requests = [] := by
    obtain rfl := Option.some.inj hb
    exact ⟨_, _, _, rfl, rfl, rfl, rfl, rfl, rfl⟩
  obtain ⟨-, -, -, results, numbers, -, next⟩ :=
    resizing_agrees created_gap rfl rfl starts_gapped hr hp idle hb rfl bound hr' hp' hd serving
      handled rfl (by rw [answers]; decide)
  rw [answers] at results next
  rw [if_pos (by decide)] at next
  exact ⟨s, s', p, p', d, hr, hwhole, hp, hp', hd, by rw [answers]; rfl, results, numbers, next.1⟩

/-- When two lanes are asked for twice, the pool that is not bound tries the lane that failed again, and
fails again. The bound pool goes on to the next number, and reaches two lanes. -/
theorem resizing_differs :
    gap.Created ∧
      (∀ index lane, (gapped index).lane = .ok lane → Pipeline.Starts lane) ∧
      ∃ (s s' : Shared Nat (Processor Nat)) (p p' : Pool (Processor Nat))
        (d : Dispatcher (Processor Nat)),
        gap.run fickle [.setSize 0 2, .setSize 1 2] = some s ∧
        gap.run fickle [.consume { capacity := 1 } true, .setSize 0 2, .setSize 1 2,
          .move .dispatcher, .move .dispatcher] = some s' ∧
        s.engine = .pool p ∧ s'.engine = .pool p' ∧ p'.state = .running d ∧
        d.phase = .serving ∧ d.requests = [] ∧
        s.answers = [(2, .error (.construction "lane 1 broken")),
          (2, .error (.construction "lane 1 broken"))] ∧
        d.replies = [(0, .error (.construction "lane 1 broken")), (1, .ok ())] ∧
        p.numbers = [0] ∧ p'.numbers = [0, 2] :=
  ⟨created_gap, starts_gapped, _, _, _, _, _, rfl, rfl, rfl, rfl, rfl, rfl, rfl, rfl, rfl, rfl, rfl⟩

end Conveyor.Shared
