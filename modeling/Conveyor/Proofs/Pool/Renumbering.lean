import Conveyor.Proofs.Pool.Numbers

/-!
# Changes of the numbers that are held

Three pieces of code hand out the numbers of lanes: the one that creates a pool, the one that adds
lanes before the pool is bound, and the one that adds lanes to a bound pool. All of them take the
next number from one counter. `Pool.Renumbers` says what an event may do to the lanes and to this
counter, given the numbers under which it makes lanes, and `Pool.Numbered` is what follows for a
pool and for all lanes that it has ever made.
-/

namespace Conveyor.Pool

variable {σ P : Type} [Pipeline σ P] {pool pool' : Pool P} {d d' : Dispatcher P}
  {metrics metrics' : Metrics.Store} {result : Except PipelineError Unit}

/-! ### What a pool holds and what it has started -/

/-- The lanes that a pool holds, under their numbers: those that are ready to be started, or those in
use. -/
def roster (pool : Pool P) : List (Nat × P) :=
  match pool.state with
  | .idle lanes => lanes
  | _           => (pool.dispatcher?.map Dispatcher.roster).getD []

def numbers (pool : Pool P) : List Nat := pool.roster.map Prod.fst

/-- The numbers of all lanes that a pool has started, of those that are retired too. -/
def started (pool : Pool P) : List Nat :=
  (pool.dispatcher?.map fun d => d.tags.map Prod.fst).getD []

omit [Pipeline σ P] in
lemma dispatcher_withDispatcher (hd : pool.dispatcher? = some d) (d' : Dispatcher P) :
    (pool.withDispatcher d').dispatcher? = some d' := by
  cases hstate : pool.state with
  | idle lanes => simp [dispatcher?, hstate] at hd
  | running d₁ => simp [withDispatcher, dispatcher?, hstate]
  | closed d₁ => simp [withDispatcher, dispatcher?, hstate]

omit [Pipeline σ P] in
lemma roster_of_dispatcher (hd : pool.dispatcher? = some d) :
    pool.roster = d.roster ∧ pool.started = d.tags.map Prod.fst := by
  cases hstate : pool.state with
  | idle lanes => simp [dispatcher?, hstate] at hd
  | running d₁ => simp_all [roster, started, dispatcher?]
  | closed d₁ => simp_all [roster, started, dispatcher?]

omit [Pipeline σ P] in
lemma roster_withDispatcher (hd : pool.dispatcher? = some d) (d' : Dispatcher P) :
    (pool.withDispatcher d').roster = d'.roster ∧
      (pool.withDispatcher d').started = d'.tags.map Prod.fst :=
  roster_of_dispatcher (dispatcher_withDispatcher hd d')

/-- What an event may do to the lanes of a pool, if it makes lanes under these numbers. The numbers
were not used before, the lanes that are held are the first ones of those held before and some that
were made, and lanes that were started before stay known. -/
structure Renumbers (pool pool' : Pool P) (made : List Nat) : Prop where
  unused : ∃ n, made = List.range' pool.nextIndex n ∧ pool.nextIndex + n ≤ pool'.nextIndex
  numbers : ∃ kept added, pool'.numbers = kept ++ added ∧ kept <+: pool.numbers ∧ added <+: made
  started : ∃ before, (before = pool.started ∨ before = pool.numbers) ∧
    pool'.started.Sublist (before ++ made)

omit [Pipeline σ P] in
lemma Renumbers.of_same (next : pool'.nextIndex = pool.nextIndex)
    (numbers : pool'.numbers = pool.numbers) (started : pool'.started = pool.started) :
    Renumbers pool pool' [] where
  unused := ⟨0, rfl, next.ge⟩
  numbers := ⟨pool.numbers, [], by simp [numbers], List.prefix_rfl, List.prefix_rfl⟩
  started := ⟨pool.started, .inl rfl, by simp [started]⟩

/-- What follows for a pool and for the numbers of all lanes that it has ever made, the oldest
first. -/
structure Numbered (pool : Pool P) (ever : List Nat) : Prop where
  increasing : ever.Pairwise (· < ·)
  lt_next : ∀ i ∈ ever, i < pool.nextIndex
  held : pool.numbers.Sublist ever
  started : pool.started.Sublist ever

omit [Pipeline σ P] in
lemma frame_of_create {construct : Nat → Nat → LaneBuild P} {threads laneBuffer outputCapacity : Nat}
    {metered : Bool} (h : create construct threads laneBuffer outputCapacity metered metrics =
      (.ok pool, metrics')) : pool.construct = construct ∧ pool.metered = metered := by
  unfold create at h
  split at h
  next => cases h
  next =>
    generalize constructFrom construct metrics threads 0 = built at h
    obtain ⟨built, metrics₁⟩ := built
    cases built with
    | error e => cases h
    | ok lanes =>
      cases h
      exact ⟨rfl, rfl⟩

/-- Whatever number of lanes is asked for, the pool goes on making and counting them in the same way. -/
lemma frame_of_setSize {ticket n : Nat} {answer : Option (Except PipelineError Unit)}
    (h : pool.setSize ticket n metrics = (answer, pool', metrics')) :
    pool'.construct = pool.construct ∧ pool'.metered = pool.metered := by
  obtain ⟨-, rfl, -⟩ | ⟨d, requests, -, -, rfl, -⟩ | ⟨lanes, answer, -, -, -, hr⟩ := setSize_cases h
  · exact ⟨rfl, rfl⟩
  · exact ⟨rfl, rfl⟩
  · obtain ⟨lanes', nextIndex, attempt, -, reached⟩ := resizeIdle_cases hr
    obtain ⟨-, -, rfl, -⟩ | ⟨-, -, -, rfl, -⟩ := reached
    all_goals exact ⟨rfl, rfl⟩

omit [Pipeline σ P] in
lemma Numbered.of_create {construct : Nat → Nat → LaneBuild P}
    {threads laneBuffer outputCapacity : Nat} {metered : Bool}
    (h : create construct threads laneBuffer outputCapacity metered metrics =
      (.ok pool, metrics')) : pool.Numbered pool.numbers := by
  unfold create at h
  split at h
  next => cases h
  next =>
    generalize hbuilt : constructFrom construct metrics threads 0 = built at h
    obtain ⟨built, metrics₁⟩ := built
    cases built with
    | error e => cases h
    | ok lanes =>
      obtain ⟨hmade, hcount, -⟩ := made_of_constructFrom hbuilt
      cases h
      have numbers : lanes.map Prod.fst = List.range threads := by
        rw [hmade.numbers, hcount, List.range_eq_range']
      change Numbered _ (lanes.map Prod.fst)
      refine ⟨numbers ▸ List.pairwise_lt_range, fun i hi => ?_, List.Sublist.refl _,
        List.nil_sublist _⟩
      rw [numbers] at hi
      exact List.mem_range.mp hi

omit [Pipeline σ P] in
/-- All numbers ever used stay different from each other. -/
lemma Numbered.step {ever made : List Nat} (h : pool.Numbered ever)
    (event : Renumbers pool pool' made) : pool'.Numbered (ever ++ made) := by
  obtain ⟨increasing, lt_next, held, started⟩ := h
  obtain ⟨⟨n, rfl, next⟩, ⟨kept, added, numbers, hkept, hadded⟩, before, hbefore, hstarted⟩ := event
  constructor
  · refine List.pairwise_append.mpr ⟨increasing, List.pairwise_lt_range', fun i hi j hj => ?_⟩
    exact (lt_next i hi).trans_le (List.mem_range'_1.mp hj).1
  · intro i hi
    rcases List.mem_append.mp hi with hi | hi
    · exact (lt_next i hi).trans_le ((Nat.le_add_right _ _).trans next)
    · exact (List.mem_range'_1.mp hi).2.trans_le next
  · rw [numbers]
    exact (hkept.sublist.trans held).append hadded.sublist
  · refine hstarted.trans (List.Sublist.append ?_ (List.Sublist.refl _))
    rcases hbefore with rfl | rfl
    · exact started
    · exact held

/-! ### The events -/

/-- The numbers under which a pool makes lanes when it is asked for `n` lanes. A bound pool does that
later. -/
def madeBySetSize (pool : Pool P) (n : Nat) : List Nat :=
  match pool.state with
  | .idle lanes => (makes pool.construct (n - lanes.length) pool.attempt pool.nextIndex).1
  | _           => []

/-- The requests that a dispatcher is free to turn to. -/
def attended (pool : Pool P) (d : Dispatcher P) : List Dispatcher.Request :=
  match d.phase, d.slot with
  | .serving, .reserved _ _ => []
  | .serving, _             => if pool.stopRequested && !d.closing then [] else d.requests
  | _, _                    => []

/-- The numbers under which the dispatcher makes lanes in its next move. -/
def madeByDispatch (pool : Pool P) (d : Dispatcher P) : List Nat :=
  match pool.attended d with
  | []               => []
  | request :: later => pool.madeRunning { d with requests := later } (request.size - d.size)

/-- The outcome of a request for a number of lanes that was met: the first lanes are kept as they are,
and the others are new. -/
structure Reaches (pool pool' : Pool P) (n : Nat) (made : List Nat) : Prop where
  roster : ∃ added, pool'.roster = pool.roster.take n ++ added ∧ added.map Prod.fst <+: made
  length : pool'.roster.length = n

omit [Pipeline σ P] in
lemma Reaches.renumbers {n : Nat} {made : List Nat} (h : Reaches pool pool' n made) :
    ∃ kept added, pool'.numbers = kept ++ added ∧ kept <+: pool.numbers ∧ added <+: made := by
  obtain ⟨added, hroster, hadded⟩ := h.roster
  refine ⟨(pool.roster.take n).map Prod.fst, added.map Prod.fst, ?_, ?_, hadded⟩
  · rw [numbers, hroster, List.map_append]
  · exact (List.take_prefix n pool.roster).map Prod.fst

/-- A pool that is not bound yet changes its lanes at once. -/
lemma renumbers_resizeIdle {lanes : List (Nat × P)} (hidle : pool.state = .idle lanes) {n : Nat}
    (h : pool.resizeIdle lanes n metrics = (result, pool', metrics')) :
    Renumbers pool pool' (pool.madeBySetSize n) ∧
      (result = .ok () → Reaches pool pool' n (pool.madeBySetSize n)) := by
  have held : pool.roster = lanes := by simp [roster, hidle]
  have made : pool.madeBySetSize n =
      (makes pool.construct (n - lanes.length) pool.attempt pool.nextIndex).1 := by
    simp [madeBySetSize, hidle]
  rw [made]
  cases Adjusts.of_resizeIdle h with
  | missed fewer hg =>
    obtain ⟨more, attempt, rfl, same, -⟩ := growIdle_numbers hg
    have numbers := makes_numbers pool.construct (n - lanes.length) pool.attempt pool.nextIndex
    rw [← same, List.length_map] at numbers
    rw [← same]
    refine ⟨⟨⟨_, numbers, le_rfl⟩, ?_, _, .inl rfl, by simp [started, dispatcher?]⟩, nofun⟩
    exact ⟨lanes.map Prod.fst, more.map Prod.fst, by simp [Pool.numbers, roster],
      by rw [Pool.numbers, held], List.prefix_rfl⟩
  | reached fewer hg =>
    obtain ⟨more, attempt, rfl, same, all⟩ := growIdle_numbers hg
    have numbers := makes_numbers pool.construct (n - lanes.length) pool.attempt pool.nextIndex
    rw [← same, List.length_map] at numbers
    rw [← same]
    have count := all rfl
    have reaches : Reaches pool
        { pool with
          state := .idle (lanes ++ more), nextIndex := pool.nextIndex + more.length, attempt
          size := n }
        n (more.map Prod.fst) := by
      refine ⟨⟨more, ?_, List.prefix_rfl⟩, ?_⟩
      · rw [held, List.take_of_length_le fewer.le]
        rfl
      · change (lanes ++ more).length = n
        rw [List.length_append, count]
        omega
    exact ⟨⟨⟨_, numbers, le_rfl⟩, reaches.renumbers, _, .inl rfl, by simp [started, dispatcher?]⟩,
      fun _ => reaches⟩
  | shrunk enough =>
    rw [Nat.sub_eq_zero_of_le enough]
    have reaches : Reaches pool { pool with state := .idle (lanes.take n), size := n } n [] :=
      ⟨⟨[], by simp [roster, hidle], List.prefix_rfl⟩, List.length_take_of_le enough⟩
    exact ⟨⟨⟨0, rfl, le_rfl⟩, reaches.renumbers, _, .inl rfl,
      by simp [started, dispatcher?]⟩, fun _ => reaches⟩

lemma renumbers_setSize {ticket n : Nat} {answer : Option (Except PipelineError Unit)}
    (h : pool.setSize ticket n metrics = (answer, pool', metrics')) :
    Renumbers pool pool' (pool.madeBySetSize n) ∧
      (answer = some (.ok ()) → Reaches pool pool' n (pool.madeBySetSize n)) := by
  obtain ⟨⟨error, rfl⟩, rfl, -, refused⟩ | ⟨d, requests, hrunning, rfl, rfl, -⟩ |
    ⟨lanes, answer, hidle, -, rfl, hr⟩ := setSize_cases h
  · have none : pool'.madeBySetSize n = [] := by
      rcases refused with rfl | ⟨d, hrunning, -⟩ | ⟨d, hclosed⟩
      · unfold madeBySetSize
        split
        next => rw [Nat.zero_sub, makes]
        next => rfl
      · simp [madeBySetSize, hrunning]
      · simp [madeBySetSize, hclosed]
    rw [none]
    exact ⟨.of_same rfl rfl rfl, by simp⟩
  · have none : pool.madeBySetSize n = [] := by simp [madeBySetSize, hrunning]
    have hd : pool.dispatcher? = some d := by simp [dispatcher?, hrunning]
    have before := roster_of_dispatcher hd
    rw [none]
    refine ⟨.of_same rfl ?_ ?_, by simp⟩
    · rw [numbers, numbers, before.1]
      rfl
    · rw [before.2]
      rfl
  · obtain ⟨renumbers, reaches⟩ := renumbers_resizeIdle hidle hr
    exact ⟨renumbers, fun ok => reaches (Option.some.inj ok)⟩

lemma renumbers_consume (pool : Pool P) : Renumbers pool pool.consume.2 [] := by
  unfold consume
  split
  next => exact .of_same rfl rfl rfl
  next => exact .of_same rfl rfl rfl
  next lanes hidle =>
    generalize hs : startLanes pool.laneBuffer {} lanes = given
    obtain ⟨r, d⟩ := given
    obtain ⟨new, strays, rfl, used, numbers, -⟩ := startLanes_numbers hs
    have held : pool.numbers = lanes.map Prod.fst := by simp [Pool.numbers, roster, hidle]
    have bound : ({ lanes := [] ++ new, strays } : Dispatcher P).roster.map Prod.fst =
        new.map Lane.index := Dispatcher.numbers_of_used used
    have known : ({ lanes := [] ++ new, strays } : Dispatcher P).tags.map Prod.fst =
        new.map Lane.index := by
      rw [Dispatcher.tags, List.nil_append, List.map_map]
      rfl
    have renumbers {pool' : Pool P} (next : pool'.nextIndex = pool.nextIndex)
        (here : pool'.numbers = new.map Lane.index) (there : pool'.started = new.map Lane.index) :
        Renumbers pool pool' [] := by
      refine ⟨⟨0, rfl, next.ge⟩, ⟨new.map Lane.index, [], ?_, ?_, List.prefix_rfl⟩, pool.numbers,
        .inr rfl, ?_⟩
      · rw [here, List.append_nil]
      · rwa [held]
      · rw [there, List.append_nil, held]
        exact numbers.sublist
    cases r with
    | ok => exact renumbers rfl bound known
    | error e => exact renumbers rfl bound known

lemma renumbers_closeIfIdle (pool : Pool P) (metrics : Metrics.Store) :
    Renumbers pool (pool.closeIfIdle metrics).1 [] := by
  unfold closeIfIdle
  split
  next =>
    refine ⟨⟨0, rfl, le_rfl⟩, ⟨[], [], rfl, List.nil_prefix, List.prefix_rfl⟩, _, .inl rfl, ?_⟩
    simp [recordSize, started, dispatcher?]
  next => exact .of_same rfl rfl rfl

/-! ### The moves -/

variable {s s' : Surroundings}

/-- A bound pool changes its lanes when its dispatcher handles a request. -/
lemma renumbers_resizeRunning (hd : pool.dispatcher? = some d) {n : Nat}
    {later : List Dispatcher.Request} {entry : Nat × Except PipelineError Unit}
    (h : pool.resizeRunning { d with requests := later } n metrics = (result, pool', d', metrics')) :
    let after := pool'.withDispatcher { d' with replies := d'.replies ++ [entry] }
    let made := pool.madeRunning { d with requests := later } (n - d.size)
    Renumbers pool after made ∧ (result = .ok () → Reaches pool after n made) := by
  obtain ⟨-, ⟨nextIndex, attempt, hpool⟩, -⟩ := resizeRunning_cases h
  have hd' : pool'.dispatcher? = some d := by
    rw [hpool]
    exact hd
  obtain ⟨held, known⟩ := roster_of_dispatcher hd
  obtain ⟨roster, started⟩ := roster_withDispatcher hd' { d' with replies := d'.replies ++ [entry] }
  have next : (pool'.withDispatcher { d' with replies := d'.replies ++ [entry] }).nextIndex =
      pool'.nextIndex := by
    unfold withDispatcher
    split <;> rfl
  obtain ⟨k, added, hroster, htags, hadded, ⟨m, hmade, hnext⟩, hok⟩ := resizeRunning_numbers h
  intro after made
  have hroster : after.roster = pool.roster.take k ++ added := by
    rw [held]
    exact roster.trans hroster
  have htags : after.started = pool.started ++ added.map Prod.fst := by
    rw [known]
    exact started.trans htags
  constructor
  · refine ⟨⟨m, hmade, hnext.trans next.ge⟩, ⟨(pool.roster.take k).map Prod.fst,
      added.map Prod.fst, ?_, (List.take_prefix k _).map Prod.fst, hadded⟩, pool.started, .inl rfl, ?_⟩
    · rw [numbers, hroster, List.map_append]
    · rw [htags]
      exact (List.Sublist.refl _).append hadded.sublist
  · intro ok
    obtain ⟨rfl, length⟩ := hok ok
    refine ⟨⟨added, hroster, hadded⟩, ?_⟩
    have same : after.roster = d'.roster := roster
    rw [same, length]

omit [Pipeline σ P] in
lemma requests_of_attended {requests : List Dispatcher.Request}
    (h : pool.attended d = requests) (some : requests ≠ []) : d.requests = requests := by
  unfold attended at h
  split at h
  next => exact absurd h.symm some
  next =>
    split at h
    next => exact absurd h.symm some
    next => exact h
  next => exact absurd h.symm some

/-- A dispatcher that is free to turn to a request handles it. -/
lemma resize_of_attended {final : Pool P} {request : Dispatcher.Request}
    {later : List Dispatcher.Request} (hr : pool.attended d = request :: later)
    (h : pool.dispatch d s = some (final, s')) :
    ∃ result pool' d' metrics,
      pool.resizeRunning { d with requests := later } request.size s.metrics =
        (result, pool', d', metrics) ∧
      final = pool'.withDispatcher { d' with replies := d'.replies ++ [(request.ticket, result)] } := by
  unfold attended at hr
  split at hr
  next => cases hr
  next hp hs =>
    split at hr
    next => cases hr
    next heard =>
      have serves : pool.dispatch d s = pool.serve d s := by simp only [dispatch, hp]
      rw [serves, serve] at h
      split at h
      next hslot => exact absurd hslot (hs _ _)
      next =>
        rw [if_neg heard, hr] at h
        cases h
        exact ⟨_, _, _, _, rfl, rfl⟩
  next => cases hr

/-- A dispatcher that does not turn to a request makes no lanes. -/
lemma Turn.numbers {d' : Dispatcher P} (turn : Turn pool d s pool' d' s')
    (unattended : pool.attended d = []) :
    pool'.nextIndex = pool.nextIndex ∧ d'.tags.map Prod.fst = d.tags.map Prod.fst ∧
      d'.roster.map Prod.fst <+: d.roster.map Prod.fst ∧ d'.replies = d.replies ∧
      (d'.phase = .serving → d.phase = .serving ∧ d'.requests = d.requests ∧
        d'.roster.map Prod.fst = d.roster.map Prod.fst) := by
  cases turn with
  | @hand t position i lane hp hs hl room =>
    have same : Dispatcher.tags
        { d with lanes := d.lanes.set i { lane with queue := lane.queue.push t } } = d.tags :=
      Dispatcher.tags_set (Dispatcher.mem_inUse.mp (List.mem_of_getElem? hl)).1 rfl rfl
    have numbers := Dispatcher.numbers_roster d
    rw [← same, ← Dispatcher.numbers_roster] at numbers
    exact ⟨rfl, congrArg _ same, numbers ▸ List.prefix_rfl, rfl, fun _ => ⟨hp, rfl, numbers.symm⟩⟩
  | keep hp | hear hp | choose hp | refuse hp | read hp =>
    exact ⟨rfl, rfl, List.prefix_rfl, rfl, fun _ => ⟨hp, rfl, rfl⟩⟩
  | leave hp | finish hp => exact ⟨rfl, rfl, List.prefix_rfl, rfl, nofun⟩
  | resize hp hs heard hr =>
    have attended : pool.attended d = d.requests := by
      unfold attended
      rw [hp]
      split
      next t position _ hslot => exact absurd hslot (hs t position)
      next => exact if_neg (by simpa using heard)
      next => simp_all
    rw [unattended, hr] at attended
    cases attended
  | retire hp =>
    obtain ⟨lanes, frame⟩ := d.shrink_frame 0 s.metrics
    refine ⟨rfl, d.started_shrink 0 s.metrics, ?_, by simp [frame], nofun⟩
    change (d.shrink 0 s.metrics).1.roster.map Prod.fst <+: _
    rw [Dispatcher.roster_shrink, List.take_zero, List.map_nil]
    exact List.nil_prefix

/-- A move of the dispatcher changes the lanes that are held when it handles a request, and when it
retires them all. -/
lemma renumbers_dispatch (hd : pool.dispatcher? = some d) {final : Pool P}
    (h : pool.dispatch d s = some (final, s')) : Renumbers pool final (pool.madeByDispatch d) := by
  cases hr : pool.attended d with
  | cons request later =>
    obtain ⟨result, pool', d', metrics, hresize, rfl⟩ := resize_of_attended hr h
    rw [madeByDispatch, hr]
    exact (renumbers_resizeRunning hd hresize).1
  | nil =>
    rw [madeByDispatch, hr]
    obtain ⟨pool', d', turn, rfl⟩ := Turn.of_dispatch h
    obtain ⟨next, tags, kept, -, -⟩ := turn.numbers hr
    obtain ⟨held, known⟩ := roster_of_dispatcher hd
    obtain ⟨nextIndex, attempt, size, done, rfl⟩ := turn.frame
    have here : ({ pool with nextIndex, attempt, size, done } : Pool P).dispatcher? = some d := hd
    obtain ⟨roster, started⟩ := roster_withDispatcher here d'
    refine ⟨⟨0, rfl, ?_⟩, ⟨_, [], (List.append_nil _).symm, ?_, List.prefix_rfl⟩, pool.started,
      .inl rfl, ?_⟩
    · unfold withDispatcher
      split <;> exact next.ge
    · rwa [numbers, numbers, roster, held]
    · rw [started, known, tags, List.append_nil]

/-- A request that the dispatcher answers with success was met. -/
lemma reaches_of_dispatch (hd : pool.dispatcher? = some d) {final : Pool P}
    (h : pool.dispatch d s = some (final, s')) (hd' : final.dispatcher? = some d')
    {request : Dispatcher.Request} {later : List Dispatcher.Request}
    (hr : d.requests = request :: later)
    (answer : d'.replies = d.replies ++ [(request.ticket, .ok ())]) :
    Reaches pool final request.size (pool.madeByDispatch d) := by
  cases hattended : pool.attended d with
  | nil =>
    obtain ⟨pool₁, d₁, turn, rfl⟩ := Turn.of_dispatch h
    obtain ⟨-, -, -, replies, -⟩ := turn.numbers hattended
    have hd₁ : pool₁.dispatcher? = some d := by
      rw [dispatcher?, turn.state]
      exact hd
    rw [dispatcher_withDispatcher hd₁] at hd'
    obtain rfl := Option.some.inj hd'
    rw [replies] at answer
    simp at answer
  | cons first rest =>
    obtain ⟨rfl, rfl⟩ := List.cons.inj (hr.symm.trans
      (requests_of_attended hattended (List.cons_ne_nil _ _)))
    obtain ⟨result, pool₁, d₁, metrics, hresize, rfl⟩ := resize_of_attended hattended h
    obtain ⟨⟨lanes, strays, rfl⟩, ⟨nextIndex, attempt, rfl⟩, -⟩ := resizeRunning_cases hresize
    have here (size : Nat) :
        ({ pool with nextIndex, attempt, size } : Pool P).dispatcher? = some d := hd
    rw [dispatcher_withDispatcher (here _)] at hd'
    obtain rfl := Option.some.inj hd'
    have ok : result = .ok () := by simpa using answer
    rw [madeByDispatch, hattended]
    exact (renumbers_resizeRunning hd hresize).2 ok

/-- The numbers under which a move of an actor makes lanes. -/
def madeByMove (pool : Pool P) : Actor → List Nat
  | .dispatcher => (pool.dispatcher?.map pool.madeByDispatch).getD []
  | _           => []

/-- A move inside the lanes or the strays leaves the numbers of all lanes as they are. -/
lemma tags_of_step {process : Behaviour σ} {actor : Actor} (hd : pool.dispatcher? = some d)
    (h : pool.step process actor s = some (pool', s')) :
    (actor = .dispatcher ∧ pool.dispatch d s = some (pool', s')) ∨
      pool.madeByMove actor = [] ∧ ∃ lanes strays,
        pool' = pool.withDispatcher { d with lanes, strays } ∧
        ({ d with lanes, strays } : Dispatcher P).tags = d.tags := by
  simp only [step, hd] at h
  split at h
  next => cases h
  next => exact .inl ⟨rfl, h⟩
  next i =>
    obtain ⟨lane, hl, h⟩ := Option.bind_eq_some_iff.mp h
    obtain ⟨⟨lane', around⟩, hm, h⟩ := Option.map_eq_some_iff.mp h
    cases h
    exact .inr ⟨rfl, _, _, rfl,
      Dispatcher.tags_set hl (Lane.index_relay hm) (Lane.relay_frame hm).1⟩
  next i actor =>
    obtain ⟨lane, hl, h⟩ := Option.bind_eq_some_iff.mp h
    obtain ⟨⟨lane', around⟩, hm, h⟩ := Option.map_eq_some_iff.mp h
    cases h
    obtain ⟨_, -, hm⟩ := Option.map_eq_some_iff.mp hm
    cases hm
    exact .inr ⟨rfl, _, _, rfl, Dispatcher.tags_set hl rfl rfl⟩
  next i actor =>
    obtain ⟨stray, -, h⟩ := Option.bind_eq_some_iff.mp h
    obtain ⟨_, -, h⟩ := Option.map_eq_some_iff.mp h
    cases h
    exact .inr ⟨rfl, _, _, rfl, rfl⟩

/-- Only a bound pool moves. It stays bound, and goes on making lanes in the same way. -/
lemma dispatcher_of_step {process : Behaviour σ} {actor : Actor}
    (h : pool.step process actor s = some (pool', s')) :
    (∃ d, pool'.dispatcher? = some d) ∧ pool'.construct = pool.construct := by
  have construct (pool₁ : Pool P) (d' : Dispatcher P) :
      (pool₁.withDispatcher d').construct = pool₁.construct := by
    unfold withDispatcher
    split <;> rfl
  cases hd : pool.dispatcher? with
  | none => simp [step, hd] at h
  | some d =>
    obtain ⟨-, hm⟩ | ⟨-, lanes, strays, rfl, -⟩ := tags_of_step hd h
    · obtain ⟨pool₁, d', turn, rfl⟩ := Turn.of_dispatch hm
      obtain ⟨nextIndex, attempt, size, done, rfl⟩ := turn.frame
      have here : ({ pool with nextIndex, attempt, size, done } : Pool P).dispatcher? = some d := hd
      exact ⟨⟨d', dispatcher_withDispatcher here d'⟩, construct _ d'⟩
    · exact ⟨⟨_, dispatcher_withDispatcher hd _⟩, construct _ _⟩

lemma renumbers_step {process : Behaviour σ} {actor : Actor}
    (h : pool.step process actor s = some (pool', s')) :
    Renumbers pool pool' (pool.madeByMove actor) := by
  cases hd : pool.dispatcher? with
  | none => simp [step, hd] at h
  | some d =>
    obtain ⟨rfl, hm⟩ | ⟨none, lanes, strays, rfl, tags⟩ := tags_of_step hd h
    · rw [madeByMove, hd]
      exact renumbers_dispatch hd hm
    · obtain ⟨held, known⟩ := roster_of_dispatcher hd
      obtain ⟨roster, started⟩ := roster_withDispatcher hd { d with lanes, strays }
      rw [none]
      refine .of_same ?_ ?_ (by rw [started, known, tags])
      · unfold withDispatcher
        split <;> rfl
      · rw [numbers, numbers, roster, held, Dispatcher.numbers_roster, tags,
          Dispatcher.numbers_roster]

end Conveyor.Pool
