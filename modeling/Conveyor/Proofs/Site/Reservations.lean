import Conveyor.Proofs.Site.Independence

/-!
# Reservations

A dispatcher looks for a lane with room, and hands its transaction over in a turn of its own. Between
the two nothing holds the place in the lane. If the lanes belong to the pool alone the place is still
there, because nobody else sends to the lane, its worker only makes room, and no lane is retired while
one is reserved (`Dispatcher.Secured`). So a lane never refuses the transaction, and some lane can take
the next one as long as the dispatcher serves (`Site.always_deliverable`).
-/

namespace Conveyor

variable {σ : Type} {process : Behaviour σ}

/-! ### Room in a lane -/

lemma Channel.hasRoom_of_rest {c : Channel} {t : Transaction} {rest : List Transaction}
    (hq : c.queue = t :: rest) (room : c.hasRoom = true) :
    ({ c with queue := rest } : Channel).hasRoom = true := by
  simp only [hasRoom, hq, List.length_cons, Bool.and_eq_true, decide_eq_true_eq] at room ⊢
  exact ⟨room.1, by omega⟩

/-- A worker that was not asked for a shutdown keeps the room in its input. -/
lemma Processor.Move.hasRoom {p p' : Processor σ} {s s' : Surroundings} {reports : List (Report σ)}
    (m : Processor.Move process p s reports p' s') (unasked : p.stopRequested = false)
    (fed : s.fed = true) (room : s.input.hasRoom = true) : s'.input.hasRoom = true := by
  cases m with
  | hear hp asked =>
    rw [unasked] at asked
    cases asked
  | take hp hq => exact Channel.hasRoom_of_rest hq room
  | leave hp hq spent =>
    obtain closed | unfed := spent
    · simp [Channel.hasRoom, closed] at room
    · rw [fed] at unfed
      cases unfed
  | _ => exact room

/-! ### The lane that is reserved -/

namespace Dispatcher

variable {d : Dispatcher (Processor σ)}

/-- If a lane was chosen for a transaction, it is in use and has room. -/
def Secured (d : Dispatcher (Processor σ)) : Prop :=
  ∀ t position, d.slot = .reserved t position →
    ∃ lane i, d.inUse[position]? = some (lane, i) ∧ lane.queue.hasRoom = true

lemma Secured.of_ne (hs : ∀ t position, d.slot ≠ .reserved t position) : d.Secured :=
  fun t position reserved => absurd reserved (hs t position)

/-- What happens inside a lane leaves the reservation alone if it keeps the room in the queue. -/
lemma Secured.set (h : d.Secured) {i : Nat} {lane lane' : Lane (Processor σ)}
    (hl : d.lanes[i]? = some lane) (retired : lane'.retired = lane.retired)
    (room : lane.retired = false → lane.queue.hasRoom = true → lane'.queue.hasRoom = true) :
    ({ d with lanes := d.lanes.set i lane' } : Dispatcher (Processor σ)).Secured := by
  intro t position hs
  obtain ⟨chosen, j, hchosen, hroom⟩ := h t position hs
  rw [inUse_set hl retired, List.getElem?_map, hchosen, Option.map_some]
  by_cases hj : j = i
  · subst hj
    obtain ⟨here, used⟩ := mem_inUse.mp (List.mem_of_getElem? hchosen)
    obtain rfl := Option.some.inj (hl.symm.trans here)
    exact ⟨lane', j, by simp, room used hroom⟩
  · exact ⟨chosen, j, by simp [hj], hroom⟩

/-- The lane that a search finds is in use and has room. -/
lemma secured_of_found {t : Transaction} {position : Nat}
    (found : reserveLane (d.inUse.map fun l => l.1.queue) d.cursor = .found position) :
    ({ d with slot := .reserved t position } : Dispatcher (Processor σ)).Secured := by
  intro t' position' hs
  cases hs
  have room := hasRoom_of_found found
  rw [List.getElem?_map, Option.any_map] at room
  obtain ⟨⟨lane, i⟩, hl, hroom⟩ := (Option.any_eq_true _ _).mp room
  exact ⟨lane, i, hl, hroom⟩

end Dispatcher

namespace Site

variable {Q : Processor σ → Prop} {site site' start : Site σ} {d d' : Dispatcher (Processor σ)}

lemma secured_of_turn (orderly : site.Orderly d) (h : d.Secured) {s s' : Surroundings}
    {pool : Pool (Processor σ)} (turn : site.pool.Turn d s pool d' s') : d'.Secured := by
  cases turn with
  | hear => exact h
  | resize hp hs heard hr hg =>
    obtain ⟨⟨lanes, strays, rfl⟩, -⟩ := Pool.resizeRunning_cases hg
    exact .of_ne hs
  | choose hp hs found => exact Dispatcher.secured_of_found found
  | leave hp hs => exact .of_ne (by simp [hs])
  | retire hp =>
    obtain ⟨hs, -⟩ := orderly.left (by simp [hp])
    obtain ⟨lanes, frame⟩ := d.shrink_frame 0 s.metrics
    refine .of_ne fun t position reserved => ?_
    rw [frame, hs] at reserved
    cases reserved
  | finish => exact h
  | hand | keep | refuse | read => exact .of_ne (by simp)

/-- A reserved lane stays in use and keeps its room until the transaction is handed over. -/
lemma Owned.secured_act (h : site.Owned Q d) (orderly : site.Orderly d) (secured : d.Secured)
    {e : Event} (owned : e.closesLane = false) (act : Act process site d e site' d') :
    d'.Secured := by
  cases act with
  | dispatch turn => exact secured_of_turn orderly secured turn
  | relay hl c =>
    obtain ⟨queue, -, retired, -⟩ := c.frame
    exact secured.set hl retired fun _ room => queue ▸ room
  | @work i lane reports p inner hl m =>
    have unasked := (h.hosts.lanes lane (List.mem_of_getElem? hl)).unasked
    refine secured.set hl rfl fun used room => ?_
    exact m.hasRoom (unasked used) (by simp [Lane.surroundings, used]) room
  | user | ask | stop => exact secured
  | closeLane => cases owned

/-! ### Hand-overs -/

/-- A dispatcher that has reserved a lane with room hands its transaction over in its next turn. -/
lemma step_of_secured (hstate : site.pool.state = .running d) (hp : d.phase = .serving)
    {t : Transaction} {position i : Nat} {lane : Lane (Processor σ)}
    (hs : d.slot = .reserved t position) (hl : d.inUse[position]? = some (lane, i))
    (room : lane.queue.hasRoom = true) :
    site.step process (.move .dispatcher) = some
      { pool := { site.pool with
          state := .running { d with
            lanes := d.lanes.set i { lane with queue := lane.queue.push t }
            cursor := position + 1
            slot := .empty } }
        dock := { site.dock with
          around := { site.dock.around with
            metrics := site.dock.around.metrics.count (site.pool.dispatchedStat lane.index) 1 } }
        journal := site.journal ++ [.handed i t] } := by
  have hd : site.pool.dispatcher? = some d := by simp [Pool.dispatcher?, hstate]
  have report : d.report = [(i, t)] := by simp [Dispatcher.report, hp, hs, hl, room]
  simp [step, Pool.step, hd, Pool.dispatch, hp, Pool.serve, hs, Pool.handOff, hl, room, entries,
    report, Pool.withDispatcher_of_running hstate]

/-- What the dispatcher of a site can rely on. -/
structure Deliverable (process : Behaviour σ) (site : Site σ) (d : Dispatcher (Processor σ)) :
    Prop where
  /-- As long as the dispatcher serves there are lanes. -/
  lanes : d.phase = .serving → d.inUse ≠ []
  open_ : ∀ l ∈ d.inUse, l.1.queue.closed = false
  /-- The search for a lane with room is never given up. -/
  possible : d.phase = .serving → ∀ cursor,
    reserveLane (d.inUse.map fun l => l.1.queue) cursor ≠ .impossible
  /-- A lane that was chosen has room when the dispatcher gets to it, and takes the transaction. -/
  taken : ∀ t position, d.slot = .reserved t position → ∃ lane i,
    d.inUse[position]? = some (lane, i) ∧ lane.queue.hasRoom = true ∧
      ∃ site', site.step process (.move .dispatcher) = some site' ∧
        site'.journal = site.journal ++ [.handed i t] ∧
        site'.pool.dispatcher? = some { d with
          lanes := d.lanes.set i { lane with queue := lane.queue.push t }
          cursor := position + 1
          slot := .empty }
  /-- The dispatcher never answers a transaction itself. -/
  silent : ∀ site', site.step process (.move .dispatcher) = some site' →
    site'.dock.around.ledger = site.dock.around.ledger
  /-- No transaction is left out: each was handed to a lane, is held, or waits in the input. -/
  queued : site.dock.accepted =
    site.dispatched ++ (d.slot.waiting ++ site.dock.around.input.queue)

lemma Owned.deliverable (h : site.Owned Q d) (orderly : site.Orderly d) (secured : d.Secured) :
    Deliverable process site d where
  lanes := fun hp none => by
    have some := h.serving hp
    simp [Dispatcher.size, none] at some
  open_ := fun l hl => by
    obtain ⟨here, used⟩ := Dispatcher.mem_inUse.mp hl
    exact (h.hosts.lanes l.1 (List.mem_of_getElem? here)).open_ used
  possible := fun hp cursor => h.possible hp
  taken := fun t position hs => by
    have hp : d.phase = .serving := by
      by_contra left
      rw [(orderly.left left).1] at hs
      cases hs
    obtain ⟨lane, i, hl, room⟩ := secured t position hs
    exact ⟨lane, i, hl, room, _, step_of_secured orderly.state hp hs hl room, rfl, rfl⟩
  silent := fun site' he => by
    obtain ⟨d', act, -⟩ := Act.of_step orderly.state orderly.strays he
    cases act with
    | dispatch turn =>
      cases turn with
      | refuse hp hs impossible => exact absurd impossible (h.possible hp)
      | _ => rfl
  queued := h.queued

/-- A pool of processors that belong to it alone can deliver every transaction at any time: it has
lanes that take transactions as long as its dispatcher serves, also while it stops and after every
change of their number, and a lane that was chosen for a transaction takes it. -/
theorem always_deliverable (h : start.OpeningWith Processor.New) {events : List Event}
    (owned : ∀ e ∈ events, e.closesLane = false) (hr : start.run process events = some site) :
    ∃ d, site.pool.dispatcher? = some d ∧ Deliverable process site d := by
  have new : ∀ p : Processor σ, p.New → p.New := fun _ hp => hp
  obtain ⟨d, invariant, own, secured⟩ : ∃ d, Invariant process site d ∧
      site.Owned Processor.New d ∧ d.Secured := by
    refine runFrom_induction_mem (P := fun site => ∃ d, Invariant process site d ∧
      site.Owned Processor.New d ∧ d.Secured) ?_ ?_ hr
    · rintro site site' e hmem ⟨d, invariant, own, secured⟩ he
      obtain ⟨hstate, made, strays, -⟩ := invariant.orderly
      obtain ⟨d', act, -⟩ := Act.of_step hstate strays he
      exact ⟨d', invariant.move (.of_act made act), own.act new invariant.orderly (owned e hmem) act,
        own.secured_act invariant.orderly secured (owned e hmem) act⟩
    · obtain ⟨d, invariant⟩ : ∃ d, Invariant process start d := (h.opening new).start
      obtain ⟨d', hstate, refits, -⟩ := (h.opening new).started
      obtain rfl := Pool.State.running.inj (invariant.orderly.state.symm.trans hstate)
      have slot : d.slot = .empty := refits.frame.1
      exact ⟨d, invariant, h.owned new invariant, .of_ne (by simp [slot])⟩
  have hd : site.pool.dispatcher? = some d := by
    simp [Pool.dispatcher?, invariant.orderly.state]
  exact ⟨d, hd, own.deliverable invariant.orderly secured⟩

/-- The small pool is asked for a single lane and then for a shutdown, and reserves the lane that is
left for the transaction that was sent before. -/
def reservedLate : List Event :=
  [.user (.send .empty), .setSize 0 1, .close, .move .dispatcher, .move .dispatcher,
    .move .dispatcher, .move .dispatcher]

theorem always_deliverable_small :
    ∃ site d, small.run fickle reservedLate = some site ∧ site.pool.dispatcher? = some d ∧
      (d.slot = .reserved ⟨.empty, 0⟩ 0 ∧ d.closing = true ∧ d.size = 1) ∧
      Deliverable fickle site d := by
  obtain ⟨site, hr, hsite⟩ := Option.map_eq_some_iff.mp
    (show (small.run fickle reservedLate).map (fun site => site.pool.dispatcher?.map fun d =>
      (d.slot, d.closing, d.size)) = some (some (.reserved ⟨.empty, 0⟩ 0, true, 1)) by
      decide +kernel)
  obtain ⟨d, hd, deliverable⟩ := always_deliverable
    (openingWith_small.mono fun _ hp => hp.1) (by decide) hr
  simp only [hd, Option.map_some, Option.some.injEq, Prod.mk.injEq] at hsite
  exact ⟨site, d, hr, hd, hsite, deliverable⟩

end Site

end Conveyor
