import Conveyor.Proofs.Site.Invariant

/-!
# Lanes that belong to the pool alone

If nobody but the pool shuts down its lanes, what is true of every lane that is started and is kept
by the moves inside a lane is true of all lanes at any time (`Site.Hosts.act`). In particular the
lanes in use are not asked for a shutdown and take transactions (`Lane.Owned`), and there is one as
long as the dispatcher serves. So every transaction that was accepted is handed to a lane in the end,
and none is refused (`Site.Owned.queued`).
-/

namespace Conveyor

variable {σ : Type} {process : Behaviour σ} {Q : Processor σ → Prop}
  {R : Lane (Processor σ) → Prop}

/-! ### New processors -/

/-- A processor as it was made: it is not bound, and nobody has asked it for anything. -/
structure Processor.New (p : Processor σ) : Prop where
  phase : p.phase = .idle
  outputTaken : p.outputTaken = false
  stopRequested : p.stopRequested = false
  closing : p.closing = false
  done : p.done = false

lemma Processor.New.rests {p : Processor σ} (h : p.New) : p.Rests := .inl h.phase

namespace Lane

/-- A processor that was started was not bound before. -/
lemma StartedFrom.eq_started {lane : Lane (Processor σ)} {laneBuffer index : Nat}
    {p : Processor σ} (h : lane.StartedFrom laneBuffer index p) :
    p.phase = .idle ∧ lane = .started laneBuffer index p := by
  obtain ⟨-, bound, queue, hc, rfl⟩ := h
  cases hp : p.phase with
  | idle =>
    simp only [Pipeline.consume, Pipeline.takeOutput, Processor.consume, hp] at hc
    cases hc
    exact ⟨rfl, rfl⟩
  | _ => simp [Pipeline.consume, Pipeline.takeOutput, Processor.consume, hp] at hc

/-! ### What lasts in a lane -/

/-- Whether something is true of the lanes that are started from some processors, and is kept by all
that can happen in a lane, unless somebody else shuts it down. -/
structure Lasting (process : Behaviour σ) (Q : Processor σ → Prop)
    (R : Lane (Processor σ) → Prop) : Prop where
  start : ∀ laneBuffer index p, Q p → R (.started laneBuffer index p)
  giveUp : ∀ lane, R lane → R lane.givenUp
  push : ∀ lane t, R lane → R { lane with queue := lane.queue.push t }
  carry : ∀ lane s lane' s', R lane → Carry lane s lane' s' → R lane'
  work : ∀ lane s reports p inner, R lane →
    Processor.Move process lane.pipeline (lane.surroundings s) reports p inner →
    R { lane with pipeline := p, queue := inner.input, output := inner.output }

/-- A lane in use was not asked for a shutdown, and takes transactions. -/
structure Owned (lane : Lane (Processor σ)) : Prop where
  unasked : lane.retired = false → lane.pipeline.stopRequested = false
  open_ : lane.retired = false → lane.queue.closed = false

lemma lasting_owned (new : ∀ p, Q p → p.New) : Lasting process Q Owned where
  start := fun laneBuffer index p hp => ⟨fun _ => (new p hp).stopRequested, fun _ => rfl⟩
  giveUp := fun lane h => ⟨nofun, nofun⟩
  push := fun lane t h => ⟨h.unasked, h.open_⟩
  carry := fun lane s lane' s' h c => by
    obtain ⟨queue, pipeline, retired, -⟩ := c.frame
    exact ⟨fun used => pipeline ▸ h.unasked (retired ▸ used),
      fun used => queue ▸ h.open_ (retired ▸ used)⟩
  work := fun lane s reports p inner h m => by
    cases m with
    | hear hp asked =>
      refine ⟨h.unasked, fun used => ?_⟩
      rw [h.unasked used] at asked
      cases asked
    | leave hp hq spent =>
      refine ⟨h.unasked, fun used => ?_⟩
      simp [surroundings, h.open_ used, show lane.retired = false from used] at spent
    | _ => exact ⟨h.unasked, h.open_⟩

end Lane

/-! ### What lasts in all lanes -/

namespace Site

/-- Whether an event is that somebody shuts down a single lane. -/
def Event.closesLane : Event → Bool
  | .closeLane _ => true
  | _            => false

variable {site site' start : Site σ} {d d' : Dispatcher (Processor σ)}

/-- What is asked of processors holds of all that the pool makes, and what lasts holds of all its
lanes. -/
structure Hosts (Q : Processor σ → Prop) (R : Lane (Processor σ) → Prop) (site : Site σ)
    (d : Dispatcher (Processor σ)) : Prop where
  made : ∀ attempt index p, (site.pool.construct attempt index).lane = .ok p → Q p
  lanes : ∀ lane ∈ d.lanes, R lane

lemma Hosts.turn (h : site.Hosts Q R d) (lasting : Lane.Lasting process Q R) {s s' : Surroundings}
    {pool : Pool (Processor σ)} (turn : site.pool.Turn d s pool d' s') :
    ∀ lane ∈ d'.lanes, R lane := by
  cases turn with
  | @hand t position i lane hp hs hl =>
    have hlane := (Dispatcher.mem_inUse.mp (List.mem_of_getElem? hl)).1
    exact forall_mem_set h.lanes (lasting.push lane t (h.lanes _ (List.mem_of_getElem? hlane)))
  | resize hp hs heard hr hg =>
    have lanes := Pool.forall_lanes_resizeRunning (R := R) (fun lane _ => lasting.giveUp lane)
      (fun index p lane builds started => by
        obtain ⟨-, rfl⟩ := started.eq_started
        exact lasting.start _ _ p (builds.holds h.made)) hg h.lanes
    exact lanes
  | retire =>
    exact Dispatcher.forall_lanes_shrink (fun lane _ => lasting.giveUp lane) 0 _ h.lanes
  | _ => exact h.lanes

/-- What lasts in a lane lasts in all lanes. -/
lemma Hosts.act (h : site.Hosts Q R d) (lasting : Lane.Lasting process Q R) {e : Event}
    (owned : e.closesLane = false) (act : Act process site d e site' d') : site'.Hosts Q R d' := by
  cases act with
  | dispatch turn =>
    refine ⟨?_, h.turn lasting turn⟩
    obtain ⟨nextIndex, attempt, size, done, rfl⟩ := turn.frame
    exact h.made
  | relay hl c =>
    have here := h.lanes _ (List.mem_of_getElem? hl)
    exact ⟨h.made, forall_mem_set h.lanes (lasting.carry _ _ _ _ here c)⟩
  | work hl m =>
    have here := h.lanes _ (List.mem_of_getElem? hl)
    exact ⟨h.made, forall_mem_set h.lanes (lasting.work _ _ _ _ _ here m)⟩
  | user | ask | stop => exact ⟨h.made, h.lanes⟩
  | closeLane => cases owned

/-! ### No transaction is refused -/

/-- What holds of a site whose lanes belong to the pool alone. -/
structure Owned (Q : Processor σ → Prop) (site : Site σ) (d : Dispatcher (Processor σ)) :
    Prop where
  hosts : site.Hosts Q Lane.Owned d
  serving : d.phase = .serving → 1 ≤ d.size
  /-- The accepted transactions are, in their order, those handed to lanes, the one that the
  dispatcher holds, and those in the input. -/
  queued : site.dock.accepted =
    site.dispatched ++ (d.slot.waiting ++ site.dock.around.input.queue)

/-- As long as the dispatcher serves, some lane takes transactions. -/
lemma Owned.possible (h : site.Owned Q d) (hp : d.phase = .serving) {cursor : Nat} :
    reserveLane (d.inUse.map fun l => l.1.queue) cursor ≠ .impossible := by
  intro impossible
  obtain ⟨⟨lane, i⟩, hl⟩ := List.exists_mem_of_length_pos (h.serving hp)
  obtain ⟨here, used⟩ := Dispatcher.mem_inUse.mp hl
  have closed := closed_of_impossible impossible lane.queue (List.mem_map_of_mem hl)
  rw [(h.hosts.lanes lane (List.mem_of_getElem? here)).open_ used] at closed
  cases closed

lemma Owned.turn (h : site.Owned Q d) (orderly : site.Orderly d) {s' : Surroundings}
    {pool : Pool (Processor σ)} (turn : site.pool.Turn d site.dock.around pool d' s') :
    (d'.phase = .serving → 1 ≤ d'.size) ∧
      site.dock.accepted = (site.dispatched ++ d.report.map Prod.snd) ++
        (d'.slot.waiting ++ s'.input.queue) := by
  have queued := h.queued
  cases turn with
  | @hand t position i lane hp hs hl room =>
    have hlane := (Dispatcher.mem_inUse.mp (List.mem_of_getElem? hl)).1
    have report : d.report = [(i, t)] := by simp [Dispatcher.report, hp, hs, hl, room]
    have size : ({ d with lanes := d.lanes.set i { lane with queue := lane.queue.push t } } :
        Dispatcher (Processor σ)).size = d.size := Dispatcher.size_set hlane rfl
    exact ⟨fun _ => (h.serving hp).trans size.ge,
      by simp [queued, report, hs, Dispatcher.Slot.waiting]⟩
  | keep hp hs stale =>
    refine ⟨fun _ => h.serving hp, ?_⟩
    simp [queued, Pool.report_of_stale hs stale, hs, Dispatcher.Slot.waiting]
  | hear hp hs =>
    refine ⟨fun _ => h.serving hp, ?_⟩
    simp [queued, Pool.report_of_ne hs]
  | resize hp hs heard hr hg =>
    obtain ⟨⟨lanes, strays, rfl⟩, -, -, some⟩ := Pool.resizeRunning_cases hg
    refine ⟨fun _ => some (h.serving hp), ?_⟩
    simp [queued, Pool.report_of_ne hs]
  | choose hp hs =>
    refine ⟨fun _ => h.serving hp, ?_⟩
    simp [queued, Pool.report_of_ne, hs, Dispatcher.Slot.waiting]
  | refuse hp hs impossible => exact absurd impossible (h.possible hp)
  | read hp hs heard hq =>
    refine ⟨fun _ => h.serving hp, ?_⟩
    simp [queued, Pool.report_of_ne, hs, hq, Dispatcher.Slot.waiting]
  | leave hp hs =>
    refine ⟨by simp, ?_⟩
    simp [queued, Pool.report_of_ne, hs]
  | retire hp =>
    obtain ⟨lanes, frame⟩ := d.shrink_frame 0 site.dock.around.metrics
    refine ⟨by simp, ?_⟩
    simp [queued, Pool.report_of_phase, hp, frame]
  | finish hp =>
    obtain ⟨-, hq, -⟩ := orderly.left (by simp [hp])
    refine ⟨by simp, ?_⟩
    simp [queued, Pool.report_of_phase, hp, hq, Channel.shut]

lemma Owned.act (h : site.Owned Q d) (new : ∀ p, Q p → p.New) (orderly : site.Orderly d)
    {e : Event} (owned : e.closesLane = false) (act : Act process site d e site' d') :
    site'.Owned Q d' := by
  have hosts := h.hosts.act (Lane.lasting_owned new) owned act
  cases act with
  | user hdock =>
    obtain ⟨-, new, haccepted, hinput, -⟩ := Dock.input_of_step hdock
    refine ⟨hosts, h.serving, ?_⟩
    simp [haccepted, h.queued, hinput, dispatched]
  | dispatch turn =>
    obtain ⟨serving, queued⟩ := h.turn orderly turn
    refine ⟨hosts, serving, ?_⟩
    rw [dispatched_dispatch]
    exact queued
  | relay hl c =>
    obtain ⟨-, -, retired, hinput, -⟩ := c.frame
    refine ⟨hosts, fun hp => (h.serving hp).trans (Dispatcher.size_set hl retired).ge, ?_⟩
    rw [hinput]
    exact h.queued
  | @work i lane reports p inner hl m =>
    refine ⟨hosts, fun hp => (h.serving hp).trans (Dispatcher.size_set hl ?_).ge, ?_⟩
    · rfl
    · rw [dispatched_work]
      exact h.queued
  | ask | stop => exact ⟨hosts, h.serving, h.queued⟩
  | closeLane => cases owned

/-! ### The beginning -/

end Site

lemma Pool.Offers.mono {pool : Pool (Processor σ)} {Q' : Processor σ → Prop} (h : pool.Offers Q)
    (imp : ∀ p, Q p → Q' p) : pool.Offers Q' where
  lanes :=
    let ⟨lanes, hidle, nonempty, hlanes⟩ := h.lanes
    ⟨lanes, hidle, nonempty, fun l hl => imp _ (hlanes l hl)⟩
  made := fun attempt index p hp => imp p (h.made attempt index p hp)
  done := h.done

namespace Site

variable {site start : Site σ} {d : Dispatcher (Processor σ)}

/-- A site whose pool has just bound the input, with lanes of which something is asked. -/
structure OpeningWith (Q : Processor σ → Prop) (site : Site σ) : Prop where
  bound : ∃ pool : Pool (Processor σ), pool.Offers Q ∧ pool.consume = (.ok (), site.pool)
  dock : site.dock.Opening
  journal : site.journal = []

lemma OpeningWith.mono {Q' : Processor σ → Prop} (h : start.OpeningWith Q)
    (imp : ∀ p, Q p → Q' p) : start.OpeningWith Q' where
  bound := by
    obtain ⟨pool, offers, hc⟩ := h.bound
    exact ⟨pool, offers.mono imp, hc⟩
  dock := h.dock
  journal := h.journal

lemma OpeningWith.opening (h : start.OpeningWith Q) (new : ∀ p, Q p → p.New) :
    start.Opening where
  bound := by
    obtain ⟨pool, offers, hc⟩ := h.bound
    exact ⟨pool, (offers.mono fun p hp => (new p hp).rests).ready, hc⟩
  dock := h.dock
  journal := h.journal

/-- What is true of every lane that is started is true of all lanes in the beginning. -/
lemma OpeningWith.hosts (h : start.OpeningWith Q)
    (started : ∀ laneBuffer index p, Q p → R (.started laneBuffer index p))
    (hstate : start.pool.state = .running d) : start.Hosts Q R d ∧ 1 ≤ d.size := by
  obtain ⟨pool, ⟨⟨lanes, hidle, some, hlanes⟩, made, -⟩, hc⟩ := h.bound
  obtain ⟨lanes', new, strays, hidle', hpool, hnew, hlength⟩ := Pool.consume_cases hc
  obtain rfl := Pool.State.idle.inj (hidle.symm.trans hidle')
  rw [hpool] at hstate
  obtain rfl := Pool.State.running.inj hstate
  refine ⟨⟨?_, fun lane hlane => ?_⟩, ?_⟩
  · rw [hpool]
    exact made
  · obtain ⟨l, hl, started'⟩ := hnew lane hlane
    obtain ⟨-, rfl⟩ := started'.eq_started
    exact started _ _ _ (hlanes l hl)
  · have used : ∀ lane ∈ new, lane.retired = false := fun lane hlane =>
      let ⟨_, _, started'⟩ := hnew lane hlane
      started'.used
    have size : ({ lanes := new, strays } : Dispatcher (Processor σ)).size = _ + new.length :=
      Dispatcher.size_append {} used
    rw [size, hlength]
    exact (List.length_pos_iff.mpr some).trans_le (Nat.le_add_left _ _)

lemma OpeningWith.owned (h : start.OpeningWith Q) (new : ∀ p, Q p → p.New)
    (inv : Invariant process start d) : start.Owned Q d := by
  have lasting : Lane.Lasting process Q Lane.Owned := Lane.lasting_owned new
  obtain ⟨hosts, some⟩ := h.hosts lasting.start inv.orderly.state
  obtain ⟨gone, haccepted, -⟩ := inv.queued
  have nothing : gone = [] ∧ d.slot.waiting = [] := by
    simpa [h.dock.accepted, ← List.append_assoc] using haccepted
  refine ⟨hosts, fun _ => some, ?_⟩
  simp [h.dock.accepted, dispatched, h.journal, nothing]

end Site

end Conveyor
