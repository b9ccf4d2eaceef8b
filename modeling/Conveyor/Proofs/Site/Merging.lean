import Conveyor.Proofs.Site.Closing

/-!
# How the outputs of the lanes are merged

The relays carry what the lanes make to the one output of the pool. As long as the consumer listens,
nothing is lost or doubled there: the results that were made are those that the consumer has received,
those in the output, and those that the lanes and their relays still hold (`Site.Merged.flow`).
-/

namespace Conveyor

variable {σ : Type} {process : Behaviour σ}

/-- The results that a lane and its relay hold. -/
def Lane.carrying (lane : Lane (Processor σ)) : Multiset Transaction :=
  (lane.carried.toList ++ lane.output.queue : List Transaction)

@[simp] lemma Lane.carrying_givenUp (lane : Lane (Processor σ)) :
    lane.givenUp.carrying = lane.carrying := rfl

@[simp] lemma Lane.carrying_started (laneBuffer index : Nat) (p : Processor σ) :
    (started laneBuffer index p).carrying = 0 := rfl

namespace Site

variable {site site' start : Site σ} {d d' : Dispatcher (Processor σ)}

/-- The output of a lane is over only when its relay is. So no worker finds it closed, and every
result that was made goes through the relay. -/
structure Merged (site : Site σ) (d : Dispatcher (Processor σ)) : Prop where
  sealed : ∀ lane ∈ d.lanes, lane.output.closed = true → lane.relayEnded = true
  flow : site.dock.around.output.closed = false →
    (site.results : Multiset Transaction) =
      (site.dock.received ++ site.dock.around.output.queue : List Transaction) +
        (d.lanes.map Lane.carrying).sum

lemma Merged.dispatch (h : site.Merged d) {report : List (Nat × Transaction)}
    {pool : Pool (Processor σ)} {around : Surroundings}
    (m : Pool.Move site.pool d site.dock.around report pool d' around) :
    (∀ lane ∈ d'.lanes, lane.output.closed = true → lane.relayEnded = true) ∧
      (d'.lanes.map Lane.carrying).sum = (d.lanes.map Lane.carrying).sum ∧
      around.output = site.dock.around.output := by
  cases m with
  | resize hp refits | retire hp refits =>
    refine ⟨?_, refits.sum_map Lane.carrying_givenUp Lane.carrying_started, rfl⟩
    exact refits.forall_lanes (fun _ sealed => sealed) nofun h.sealed
  | @hand t position i lane hp hs hl =>
    refine ⟨forall_mem_set h.sealed (h.sealed lane (List.mem_of_getElem? hl)), ?_, rfl⟩
    obtain ⟨rest, hsum, hset⟩ := sum_map_set hl Lane.carrying
    rw [hsum]
    exact hset _
  | _ => exact ⟨h.sealed, rfl, rfl⟩

lemma Merged.relay (h : site.Merged d) {i : Nat} {lane lane' : Lane (Processor σ)}
    {around : Surroundings} (hl : d.lanes[i]? = some lane)
    (c : Lane.Carry lane site.dock.around lane' around) :
    (lane'.output.closed = true → lane'.relayEnded = true) ∧
      (around.output.closed = false → site.dock.around.output.closed = false ∧
        (around.output.queue : Multiset Transaction) + lane'.carrying =
          site.dock.around.output.queue + lane.carrying) := by
  have sealed := h.sealed lane (List.mem_of_getElem? hl)
  cases c with
  | take active hc hq => exact ⟨sealed, fun open_ => ⟨open_, by simp [Lane.carrying, hc, hq]⟩⟩
  | deliver active hc => exact ⟨sealed, fun open_ => ⟨open_, by simp [Lane.carrying, hc]⟩⟩
  | lose active hc closed => exact ⟨sealed, fun open_ => by simp [closed] at open_⟩
  | finish active hc hq =>
    exact ⟨fun _ => rfl, fun open_ => ⟨open_, by simp [Lane.carrying, hc, hq, Channel.shut]⟩⟩

/-- A lane whose worker is at work has an output that is not over. -/
lemma Merged.listens (h : site.Merged d) (orderly : site.Orderly d) {i : Nat}
    {lane : Lane (Processor σ)} {s inner : Surroundings} {reports : List (Report σ)}
    {p : Processor σ} (hl : d.lanes[i]? = some lane)
    (m : Processor.Move process lane.pipeline s reports p inner) : lane.output.closed = false := by
  have mem := List.mem_of_getElem? hl
  by_contra closed
  have ended := ((orderly.lanes lane mem).relay (h.sealed lane mem (by simpa using closed))).1
  cases m <;> simp_all

/-- Nothing is lost or doubled by any move. -/
lemma Merged.move (h : site.Merged d) (orderly : site.Orderly d)
    (m : Move process site d site' d') : site'.Merged d' := by
  cases m with
  | user hd =>
    obtain ⟨-, -, kept⟩ := Dock.output_of_step hd
    refine ⟨h.sealed, fun open_ => ?_⟩
    obtain ⟨open_, same⟩ := kept open_
    rw [same]
    exact h.flow open_
  | dispatch m =>
    obtain ⟨sealed, sum, output⟩ := h.dispatch m
    refine ⟨sealed, fun open_ => ?_⟩
    rw [output] at open_
    rw [results_dispatch, sum, output]
    exact h.flow open_
  | relay hl c =>
    obtain ⟨sealed, carried⟩ := h.relay hl c
    refine ⟨forall_mem_set h.sealed sealed, fun open_ => ?_⟩
    obtain ⟨open_, same⟩ := carried open_
    obtain ⟨rest, hsum, hset⟩ := sum_map_set hl Lane.carrying
    have flow := h.flow open_
    rw [hsum, ← Multiset.coe_add, add_assoc, ← add_assoc _ (Lane.carrying _), ← same] at flow
    rw [hset, ← Multiset.coe_add, add_assoc, ← add_assoc _ (Lane.carrying _)]
    exact flow
  | @work i lane reports p inner hl m =>
    have listens := h.listens orderly hl m
    obtain ⟨-, closed, pushed, -⟩ := m.output
    refine ⟨forall_mem_set h.sealed fun shut => ?_, fun open_ => ?_⟩
    · exact absurd (closed.symm.trans shut) (by simp [Lane.surroundings, listens])
    · obtain ⟨rest, hsum, hset⟩ := sum_map_set hl Lane.carrying
      have flow := h.flow open_
      rw [hset, results_work]
      rw [hsum] at flow
      simp only [Lane.carrying, pushed listens, Lane.surroundings, ← Multiset.coe_add] at flow ⊢
      rw [flow]
      abel
  | ask | stop => exact ⟨h.sealed, h.flow⟩
  | @closeLane i lane hl =>
    refine ⟨forall_mem_set h.sealed (h.sealed lane (List.mem_of_getElem? hl)), fun open_ => ?_⟩
    obtain ⟨rest, hsum, hset⟩ := sum_map_set hl Lane.carrying
    rw [hset, show Lane.carrying { lane with pipeline := lane.pipeline.close } = lane.carrying from rfl,
      ← hsum]
    exact h.flow open_

lemma Opening.merged (h : start.Opening) (hstate : start.pool.state = .running d) :
    start.Merged d := by
  obtain ⟨d', hstate', refits, -⟩ := h.started
  obtain rfl := Pool.State.running.inj (hstate.symm.trans hstate')
  have sum : (d.lanes.map Lane.carrying).sum = 0 :=
    refits.sum_map Lane.carrying_givenUp Lane.carrying_started
  refine ⟨refits.forall_lanes (fun _ sealed => sealed) nofun (by simp), fun _ => ?_⟩
  rw [sum]
  simp [results, h.journal, h.dock.received, h.dock.output]

lemma total_goods (d : Dispatcher (Processor σ)) :
    d.total Lane.goods = (d.lanes.map Lane.carrying).sum.map Transaction.reply := by
  have sum := map_list_sum (Multiset.mapAddMonoidHom Transaction.reply) (d.lanes.map Lane.carrying)
  simp only [Multiset.coe_mapAddMonoidHom, List.map_map] at sum
  rw [sum]
  refine congrArg List.sum (List.map_congr_left fun lane _ => ?_)
  simp [Lane.goods, Lane.carrying, replies, ← Multiset.coe_add]

/-- When nothing is on its way any more, the consumer has received all results. -/
lemma Merged.received_perm (h : site.Merged d)
    (open_ : site.dock.around.output.closed = false) (goods : (site.books d).goods = 0) :
    site.dock.received.Perm site.results := by
  have card := congrArg Multiset.card goods
  simp only [books, Dock.books, total_goods, replies, Multiset.card_add, Multiset.card_map,
    Multiset.coe_card, List.length_map, Multiset.card_zero] at card
  have empty : site.dock.around.output.queue = [] := List.length_eq_zero_iff.mp (by omega)
  have lanes : (d.lanes.map Lane.carrying).sum = 0 := Multiset.card_eq_zero.mp (by omega)
  have flow := h.flow open_
  rw [lanes, empty, List.append_nil, add_zero] at flow
  exact (Multiset.coe_eq_coe.mp flow).symm

end Site

end Conveyor
