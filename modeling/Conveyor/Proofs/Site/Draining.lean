import Conveyor.Proofs.Site.Progress

/-!
# Draining comes to an end

The parties of a site that drains wait for each other, but not in a circle: a consumer that has
nothing to do leaves room in the output, so no relay waits for it, so no worker waits for a relay or
for a result, so no lane is full, and the dispatcher waits for nobody (`Site.Invariant.dispatcher_rests`).
As all of them bring the end closer, it is reached (`Site.draining_ends`).
-/

namespace Conveyor

variable {σ : Type} {process : Behaviour σ}

/-! ### Standstill of a lane -/

namespace Lane

/-- Why the relay of a lane cannot move: it has ended, nobody makes room in the output, or there is
nothing to carry yet. -/
inductive Stuck (lane : Lane (Processor σ)) (s : Surroundings) : Prop where
  | ended (hr : lane.relayEnded = true)
  | full {t : Transaction} (hc : lane.carried = some t) (open_ : s.output.closed = false)
      (full : s.output.hasRoom = false)
  | starving (hc : lane.carried = none) (hq : lane.output.queue = [])
      (held : lane.pipeline.holdsOutput = true)

variable {lane : Lane (Processor σ)} {s : Surroundings}

/-- There is no other reason. -/
lemma Stuck.of_relay (h : lane.relay s = none) : lane.Stuck s := by
  unfold relay at h
  split at h
  next hr => exact .ended hr
  next =>
    split at h
    next t hc =>
      split at h
      next => cases h
      next open_ =>
        split at h
        next => cases h
        next full => exact .full hc (by simpa using open_) (by simpa using full)
    next hc =>
      split at h
      next => cases h
      next hq =>
        split at h
        next held => exact .starving hc hq held
        next => cases h

/-- A relay that cannot move although there is room in the output has carried everything. -/
lemma Stuck.empty (h : lane.Stuck s) (orderly : lane.Orderly) (hq : s.output.queue = [])
    (capacity : 0 < s.output.capacity) :
    lane.carried = none ∧ lane.output.queue = [] ∧
      (lane.relayEnded = false → lane.pipeline.holdsOutput = true) := by
  cases h with
  | ended hr =>
    obtain ⟨-, houtput, hc⟩ := orderly.relay hr
    exact ⟨hc, houtput, by simp [hr]⟩
  | full hc open_ full =>
    simp [Channel.hasRoom, open_, hq] at full
    omega
  | starving hc houtput held => exact ⟨hc, houtput, fun _ => held⟩

end Lane

/-! ### Standstill of a site -/

namespace Site

variable {site site' start : Site σ} {d d' : Dispatcher (Processor σ)}

/-- Neither an actor inside the pool nor the consumer can do anything. -/
def Rests (process : Behaviour σ) (site : Site σ) : Prop :=
  ∀ e : Event, e.drives → site.step process e = none

/-- No actor can move, and there is nothing for the consumer. -/
lemma rests_iff :
    site.Rests process ↔ (∀ actor, site.pool.step process actor site.dock.around = none) ∧
      site.dock.around.output.queue = [] ∧ site.dock.held = [] := by
  constructor
  · intro h
    have consumer {e : Dock.Event} (hd : Event.drives (.user e)) : site.dock.step e = none :=
      Option.map_eq_none_iff.mp (h (.user e) hd)
    exact ⟨fun actor => Option.map_eq_none_iff.mp (h (.move actor) rfl),
      Dock.consumer_rests_iff.mp ⟨consumer rfl, fun _ => consumer rfl⟩⟩
  · rintro ⟨stuck, output, held⟩ e hd
    cases e with
    | move actor => exact Option.map_eq_none_iff.mpr (stuck actor)
    | user e =>
      refine Option.map_eq_none_iff.mpr ?_
      cases e with
      | receive => simp [Dock.step, output]
      | answer | discard => simp [Dock.step, held]
      | _ => cases hd
    | _ => cases hd

/-- When a site is at rest nothing is on its way, neither in a lane nor at the dock. -/
lemma Rests.goods_eq_zero (h : site.Rests process) (orderly : site.Orderly d)
    (capacity : 0 < site.dock.around.output.capacity) :
    (∀ lane ∈ d.lanes, lane.carried = none ∧ lane.output.queue = [] ∧
      (lane.relayEnded = false → lane.pipeline.holdsOutput = true)) ∧
      (site.books d).goods = 0 := by
  obtain ⟨stuck, output, held⟩ := rests_iff.mp h
  have hd : site.pool.dispatcher? = some d := orderly.dispatcher
  have lanes : ∀ lane ∈ d.lanes, lane.carried = none ∧ lane.output.queue = [] ∧
      (lane.relayEnded = false → lane.pipeline.holdsOutput = true) := by
    intro lane hmem
    obtain ⟨i, hl⟩ := List.mem_iff_getElem?.mp hmem
    have relay : lane.relay site.dock.around = none := by
      simpa [Pool.step, hd, hl] using stuck (.relay i)
    exact (Lane.Stuck.of_relay relay).empty (orderly.lanes lane hmem) output capacity
  refine ⟨lanes, ?_⟩
  have total : d.total Lane.goods = 0 := total_eq_zero fun lane hmem => by
    obtain ⟨hc, hq, -⟩ := lanes lane hmem
    simp [Lane.goods, hc, hq]
  simp [books, Dock.books, output, held, total]

/-- The worker of a lane at rest has ended, or its lane is in use and it waits for a transaction. -/
lemma Invariant.worker_rests (h : Invariant process site d) (roomy : site.Roomy d)
    (rests : site.Rests process) {lane : Lane (Processor σ)} (hmem : lane ∈ d.lanes) :
    lane.pipeline.phase = .ended ∨ lane.pipeline.phase = .waiting ∧
      lane.queue.queue = [] ∧ lane.queue.closed = false ∧ lane.retired = false := by
  have hd : site.pool.dispatcher? = some d := h.orderly.dispatcher
  obtain ⟨i, hl⟩ := List.mem_iff_getElem?.mp hmem
  obtain ⟨lanes, goods⟩ := rests.goods_eq_zero h.orderly roomy.output
  have stuck : lane.pipeline.step process (lane.surroundings site.dock.around) = none := by
    simpa [Pool.step, hd, hl, Lane.step, Pipeline.step] using
      (rests_iff.mp rests).1 (.inLane i .worker)
  cases Processor.Stuck.of_step stuck with
  | waiting hp hq heard hc =>
    exact .inr ⟨hp, hq, hc, by simpa [Lane.surroundings] using Processor.fed_of_waiting hp stuck⟩
  | emitting hp hc full =>
    obtain ⟨-, hq, -⟩ := lanes lane hmem
    have room := (roomy.lanes lane hmem).2
    have hc : lane.output.closed = false := hc
    simp [Channel.hasRoom, Lane.surroundings, hc, hq] at full
    omega
  | @joining origin watched failure hp hw hf =>
    -- a watched result that has not come to an end would be on its way
    obtain ⟨id, hid⟩ := List.exists_mem_of_ne_nil _ hw
    obtain ⟨awaited, before, -, -⟩ := books_worker site hl
    have awaited : id ∈ (site.books d).awaited := by
      rw [before]
      simp [Processor.books, Processor.awaited, hp, hid]
    have running : id ∉ (site.books d).ledger.ended := fun ended => by
      obtain ⟨e, he⟩ := Ledger.mem_ended.mp ended
      exact Ledger.firstSettled_eq_none hf _ he hid
    have onItsWay := h.balanced.mem_goods (h.balanced.awaited_emitted awaited) running
    simp [goods] at onItsWay
  | rests hp =>
    have bound := (h.orderly.lanes lane hmem).bound
    exact .inl ((hp.resolve_left bound.1).resolve_right bound.2)

/-- The dispatcher of a site at rest has ended, or it holds nothing, and waits for a transaction that
can still be sent. -/
lemma Invariant.dispatcher_rests (h : Invariant process site d) (roomy : site.Roomy d)
    (rests : site.Rests process) :
    d.phase = .ended ∨ d.slot = .empty ∧ site.dock.around.input.queue = [] ∧
      ¬site.Draining := by
  have orderly := h.orderly
  have hd : site.pool.dispatcher? = some d := orderly.dispatcher
  have stuck : site.pool.dispatch d site.dock.around = none := by
    simpa [Pool.step, hd] using (rests_iff.mp rests).1 .dispatcher
  cases Pool.Stuck.of_dispatch stuck with
  | full hp hs wait =>
    -- an open lane without room has something for its worker
    obtain ⟨queue, hqueue, open_⟩ := open_of_wait wait
    have notFound : ∀ position,
        reserveLane (d.inUse.map fun l => l.1.queue) d.cursor ≠ .found position := by simp [wait]
    have full := noRoom_of_not_found notFound queue hqueue
    obtain ⟨⟨lane, i⟩, hl, rfl⟩ := List.mem_map.mp hqueue
    have open_ : lane.queue.closed = false := open_
    have hmem := List.mem_of_getElem? (Dispatcher.mem_inUse.mp hl).1
    rcases h.worker_rests roomy rests hmem with ended | ⟨-, hq, -, -⟩
    · simp [((orderly.lanes lane hmem).ended ended).2] at open_
    · have room := (roomy.lanes lane hmem).1
      simp [Channel.hasRoom, open_, hq] at full
      omega
  | starving hp hs heard hq hc fed =>
    refine .inr ⟨hs, hq, ?_⟩
    rintro (departed | asked)
    · simp [departed] at fed
    · simp [roomy.closing (heard asked)] at hc
  | draining hp some =>
    obtain ⟨lane, hmem, active⟩ := some
    obtain ⟨lanes, -⟩ := rests.goods_eq_zero orderly roomy.output
    have held := (lanes lane hmem).2.2 active
    rcases h.worker_rests roomy rests hmem with ended | ⟨-, -, -, used⟩
    · simp [Processor.holdsOutput, ended] at held
    · simp [orderly.retired (.inl hp) lane hmem] at used
  | ended hp => exact .inl hp

/-- When a site that drains is at rest the dispatcher has ended. -/
lemma DrainingInvariant.ended (h : DrainingInvariant process site d)
    (rests : site.Rests process) : d.phase = .ended :=
  (h.invariant.dispatcher_rests h.roomy rests).resolve_right fun ⟨_, _, active⟩ =>
    active h.draining

/-- When the dispatcher has ended nobody can do anything. -/
lemma Invariant.rests (h : Invariant process site d) (hp : d.phase = .ended) :
    site.Rests process := by
  have hd : site.pool.dispatcher? = some d := h.orderly.dispatcher
  obtain ⟨relays, -⟩ := h.orderly.ended hp
  have nothing := h.goods_eq_zero hp
  refine rests_iff.mpr ⟨fun actor => ?_, ?_, ?_⟩
  · cases actor with
    | worker => simp [Pool.step, hd]
    | dispatcher => simp [Pool.step, hd, Pool.dispatch, hp]
    | relay i =>
      cases hl : d.lanes[i]? with
      | none => simp [Pool.step, hd, hl]
      | some lane => simp [Pool.step, hd, hl, Lane.relay, relays lane (List.mem_of_getElem? hl)]
    | inLane i actor =>
      cases hl : d.lanes[i]? with
      | none => simp [Pool.step, hd, hl]
      | some lane =>
        have hmem := List.mem_of_getElem? hl
        have ended := ((h.orderly.lanes lane hmem).relay (relays lane hmem)).1
        cases actor <;> simp [Pool.step, hd, hl, Lane.step, Pipeline.step, Processor.step, ended]
    | inStray i actor =>
      cases hl : d.strays[i]? with
      | none => simp [Pool.step, hd, hl]
      | some stray =>
        have rests := h.orderly.strays stray (List.mem_of_getElem? hl)
        cases actor <;>
          simp [Pool.step, hd, hl, Pipeline.step, Processor.step_of_rests process rests]
  · refine List.eq_nil_iff_forall_not_mem.mpr fun t ht => ?_
    have goods : t.reply ∈ (site.books d).goods :=
      Multiset.mem_add.mpr (.inl (mem_replies.mpr ⟨t, ht, rfl⟩))
    simp [nothing] at goods
  · refine List.eq_nil_iff_forall_not_mem.mpr fun t ht => ?_
    have goods : t.reply ∈ (site.books d).goods :=
      Multiset.mem_add.mpr (.inr (Multiset.mem_add.mpr (.inl (mem_replies.mpr ⟨t, ht, rfl⟩))))
    simp [nothing] at goods

/-! ### The end -/

lemma DrainingInvariant.run (h : DrainingInvariant process site d) {events : List Event}
    (hr : site.run process events = some site') : ∃ d', DrainingInvariant process site' d' := by
  refine runFrom_induction (P := fun later => ∃ d, DrainingInvariant process later d) ?_ ⟨d, h⟩ hr
  rintro later next e ⟨d, inv⟩ he
  obtain ⟨d', inv', -⟩ := inv.step he
  exact ⟨d', inv'⟩

/-- The actors and the consumer can bring a site that drains to its end by themselves. -/
lemma DrainingInvariant.reaches_end (h : DrainingInvariant process site d) :
    ∃ events last, (∀ e ∈ events, e.drives) ∧ site.run process events = some last ∧
      last.pool.done = true := by
  generalize houtlook : outlook site.dock d = m
  induction m using Less.wellFounded.induction generalizing site d with
  | _ m ih =>
    by_cases rests : site.Rests process
    · exact ⟨[], site, nofun, rfl, h.invariant.orderly.done.mpr (h.ended rests)⟩
    · simp only [Rests, not_forall, ← ne_eq, Option.ne_none_iff_exists'] at rests
      obtain ⟨e, hd, next, he⟩ := rests
      obtain ⟨d', inv, -, less⟩ := h.step he
      obtain ⟨events, last, drives, hr, hdone⟩ := ih _ (houtlook ▸ less hd) inv rfl
      refine ⟨e :: events, last, List.forall_mem_cons.mpr ⟨hd, drives⟩, ?_, hdone⟩
      exact (congrArg (Option.bind · _) he).trans hr

/-- On an endless run that asks only finitely often for another number of lanes, the actors and the
consumer do only finitely many things. -/
lemma DrainingInvariant.finite (h : DrainingInvariant process site d) {sites : ℕ → Site σ}
    {events : ℕ → Event} (endless : Endless (Site.step process) sites events) (hstart : sites 0 = site)
    (requests : {n | (events n).resizes}.Finite) : {n | (events n).drives}.Finite := by
  have inv (n : ℕ) : ∃ d, DrainingInvariant process (sites n) d := by
    refine endless.induction (P := fun site => ∃ d, DrainingInvariant process site d) ?_ ?_ n
    · rintro site site' e ⟨d, inv⟩ he
      obtain ⟨d', inv', -⟩ := inv.step he
      exact ⟨d', inv'⟩
    · exact ⟨d, hstart ▸ h⟩
  choose ds inv using inv
  have step (n : ℕ) : ((events n).resizes = false →
      outlook (sites (n + 1)).dock (ds (n + 1)) = outlook (sites n).dock (ds n) ∨
        Less (outlook (sites (n + 1)).dock (ds (n + 1))) (outlook (sites n).dock (ds n))) ∧
      ((events n).drives →
        Less (outlook (sites (n + 1)).dock (ds (n + 1))) (outlook (sites n).dock (ds n))) := by
    obtain ⟨d', inv', keep, fall⟩ := (inv n).step (endless n)
    obtain rfl := Pool.State.running.inj
      (inv'.invariant.orderly.state.symm.trans (inv (n + 1)).invariant.orderly.state)
    exact ⟨keep, fall⟩
  refine finite_of_less Less.wellFounded (m := fun n => outlook (sites n).dock (ds n)) requests
    (fun n keeps => (step n).1 ?_) (fun n hd => (step n).2 hd)
  exact Bool.eq_false_iff.mpr keeps

/-- When all producers are gone or a shutdown was asked for, the site comes to its end. From then on
some actor or the consumer can do something unless the pool is done, and then every transaction has
been answered. They can do so only finitely often, whatever the users and the owner do in between, as
long as these do not ask for other numbers of lanes again and again. So the end is reached whenever
they go on as long as they can. -/
theorem draining_ends (opening : start.Opening) {capacity : Nat}
    (output : start.dock.around.output = .new capacity) {events : List Event}
    (hr : start.run process events = some site) (draining : site.Draining) :
    (∀ more later, site.run process more = some later →
      (later.Rests process ↔ later.pool.done = true) ∧
      (later.pool.done = true → ∀ t ∈ later.dock.accepted, ∃ response,
        later.dock.around.ledger.responses t.reply = [response]) ∧
      ∃ rest last, (∀ e ∈ rest, e.drives) ∧ later.run process rest = some last ∧
        last.pool.done = true) ∧
    ∀ sites events, Endless (step process) sites events → sites 0 = site →
      {n | (events n).resizes}.Finite → {n | (events n).drives}.Finite := by
  obtain ⟨d, invariant, roomy⟩ := opening.invariant_roomy (by simp [output, Channel.new]) hr
  have inv : DrainingInvariant process site d := ⟨invariant, roomy, draining⟩
  refine ⟨fun more later hmore => ?_, fun sites events endless hstart requests =>
    inv.finite endless hstart requests⟩
  obtain ⟨d', inv'⟩ := inv.run hmore
  have done := inv'.invariant.orderly.done
  refine ⟨⟨fun rests => done.mpr (inv'.ended rests), fun hdone =>
    inv'.invariant.rests (done.mp hdone)⟩, fun hdone => ?_, inv'.reaches_end⟩
  exact inv'.invariant.all_answered (done.mp hdone)

theorem draining_ends_small :
    ∃ site, small.run fickle (course.take 12 ++ [.close]) = some site ∧
      site.dock.accepted.length = 2 ∧ site.dock.around.ledger.settled = [] ∧
      ¬site.Rests fickle ∧
      ∃ rest last, (∀ e ∈ rest, e.drives) ∧ site.run fickle rest = some last ∧
        last.pool.done = true := by
  obtain ⟨site, hr, hsite⟩ := Option.map_eq_some_iff.mp
    (show (small.run fickle (course.take 12 ++ [.close])).map (fun site =>
        (site.pool.stopRequested, site.pool.done, site.dock.accepted.length,
          site.dock.around.ledger.settled)) = some (true, false, 2, []) by decide +kernel)
  simp only [Prod.mk.injEq] at hsite
  obtain ⟨asked, undone, accepted, settled⟩ := hsite
  obtain ⟨rests, -, reaches⟩ := (draining_ends opening_small rfl hr (.inr asked)).1 [] site rfl
  exact ⟨site, hr, accepted, settled, by simp [rests, undone], reaches⟩

end Site

end Conveyor
