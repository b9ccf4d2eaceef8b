import Conveyor.Proofs.Site.Conservation

/-!
# What a complete shutdown means

A pool says that it is done only when nothing is left to do (`Site.done_only_when_complete`): its
dispatcher ends after all relays, the relays end after all workers, the workers end after they have
read the answers to all their results, and nothing waits in front of them.
-/

namespace Conveyor.Site

variable {σ : Type} {process : Behaviour σ} {site site' start : Site σ}
  {d d' : Dispatcher (Processor σ)}

/-! ### What a dispatcher leaves behind -/

lemma total_eq_zero {f : Lane (Processor σ) → Multiset Nat} (h : ∀ lane ∈ d.lanes, f lane = 0) :
    d.total f = 0 := by
  refine List.sum_eq_zero fun x hx => ?_
  obtain ⟨lane, hl, rfl⟩ := List.mem_map.mp hx
  exact h lane hl

/-- When the dispatcher has ended, nothing is left to be answered and no answer to be read. -/
lemma Orderly.nothing_left (h : site.Orderly d) (hd : d.phase = .ended) :
    (site.books d).work = 0 ∧ (site.books d).awaited = 0 := by
  have relays := (h.ended hd).1
  obtain ⟨hs, hq, -⟩ := h.left (by simp [hd])
  have workers : ∀ lane ∈ d.lanes, lane.pipeline.phase = .ended := fun lane hl =>
    ((h.lanes lane hl).relay (relays lane hl)).1
  have work : d.total Lane.work = 0 := total_eq_zero fun lane hl => by
    simp [Lane.work, Processor.work, workers lane hl,
      ((h.lanes lane hl).ended (workers lane hl)).1]
  have awaited : d.total Lane.awaited = 0 := total_eq_zero fun lane hl => by
    simp [Lane.awaited, Processor.awaited, workers lane hl]
  simp [books, Dock.books, hs, hq, work, awaited, Dispatcher.Slot.waiting]

lemma Invariant.ended_of_emitted (h : Invariant process site d) (hd : d.phase = .ended)
    {id : Nat} (hid : id ∈ replies site.results) : id ∈ site.dock.around.ledger.ended := by
  rcases h.balanced.resolved id hid with hawaited | hended
  · rw [(h.orderly.nothing_left hd).2] at hawaited
    exact absurd hawaited (Multiset.notMem_zero id)
  · exact hended

/-- Every transaction has been answered. -/
lemma Invariant.all_answered (h : Invariant process site d) (hd : d.phase = .ended) :
    ∀ t ∈ site.dock.accepted, ∃ response,
      site.dock.around.ledger.responses t.reply = [response] := by
  intro t ht
  obtain ⟨response, hresponse⟩ := h.balanced.answered_of_work_eq_zero
    (h.orderly.nothing_left hd).1 (mem_replies.mpr ⟨t, ht, rfl⟩)
  obtain ⟨-, h⟩ | ⟨-, none⟩ := h.place_answered ht
  · exact h
  · exact absurd (Ledger.mem_responses.mpr hresponse) (by simp [books, Dock.books, none])

/-- No result is on its way any more. -/
lemma Invariant.goods_eq_zero (h : Invariant process site d) (hd : d.phase = .ended) :
    (site.books d).goods = 0 := by
  refine Multiset.eq_zero_of_forall_notMem fun id hid => ?_
  have emitted := h.balanced.goods_emitted hid
  exact h.balanced.notMem_goods (h.ended_of_emitted hd emitted) hid

/-! ### What comes after -/

/-- A dispatcher that has ended stays so, and nothing is accepted any more. -/
lemma Orderly.stays (h : site.Orderly d) (hd : d.phase = .ended)
    (m : Move process site d site' d') :
    d'.phase = .ended ∧ site'.dock.accepted = site.dock.accepted := by
  cases m with
  | user he =>
    obtain ⟨-, new, haccepted, -, spent⟩ := Dock.input_of_step he
    obtain rfl := spent (.inl (h.ended hd).2.1)
    exact ⟨hd, by simpa using haccepted⟩
  | dispatch m => cases m <;> simp_all
  | _ => exact ⟨hd, rfl⟩

lemma Invariant.stays (h : Invariant process site d) (hd : d.phase = .ended)
    {events : List Event} (hr : site.run process events = some site') :
    site'.pool.done = true ∧ site'.dock.accepted = site.dock.accepted := by
  have stays : ∃ d', Invariant process site' d' ∧ d'.phase = .ended ∧
      site'.dock.accepted = site.dock.accepted := by
    refine runFrom_induction (P := fun later => ∃ d', Invariant process later d' ∧ d'.phase = .ended ∧
      later.dock.accepted = site.dock.accepted) ?_ ⟨d, h, hd, rfl⟩ hr
    rintro later next e ⟨d, inv, hd, haccepted⟩ he
    obtain ⟨d', m, -⟩ := Move.of_step inv.orderly.state inv.orderly.made inv.orderly.strays he
    obtain ⟨hd', haccepted'⟩ := inv.orderly.stays hd m
    exact ⟨d', inv.move m, hd', haccepted'.trans haccepted⟩
  obtain ⟨d', inv, hd', haccepted⟩ := stays
  exact ⟨inv.orderly.done.mpr hd', haccepted⟩

/-! ### The result -/

/-- When a pool says that it is done, every transaction has been answered, every result was answered
or dropped, all workers and relays have ended, those of lanes retired before too, the output is
empty and nobody can send on it, no lane is left in use, and nothing is accepted ever after. -/
theorem done_only_when_complete (opening : start.Opening) {events : List Event}
    (hr : start.run process events = some site) (hdone : site.pool.done = true) :
    (∀ t ∈ site.dock.accepted, ∃ response,
      site.dock.around.ledger.responses t.reply = [response]) ∧
    (∀ result ∈ site.results, ∃ e, (result.reply, e) ∈ site.dock.around.ledger.settled) ∧
    (∃ d, site.pool.dispatcher? = some d ∧ d.size = 0 ∧
      ∀ lane ∈ d.lanes, lane.pipeline.phase = .ended ∧ lane.relayEnded = true) ∧
    site.pool.holdsOutput = false ∧ site.dock.around.output.queue = [] ∧ site.pool.size = 0 ∧
    (∀ payload, site.dock.step (.send payload) = none) ∧
    ∀ more later, site.run process more = some later →
      later.pool.done = true ∧ later.dock.accepted = site.dock.accepted := by
  obtain ⟨d, inv⟩ := opening.invariant hr
  have hd : d.phase = .ended := inv.orderly.done.mp hdone
  have running : site.pool.dispatcher? = some d := by
    simp [Pool.dispatcher?, inv.orderly.state]
  obtain ⟨relays, closed, size⟩ := inv.orderly.ended hd
  have goods := inv.goods_eq_zero hd
  refine ⟨fun t ht => ?_, fun result hresult => ?_, ⟨d, running, ?_, fun lane hl => ?_⟩, ?_, ?_,
    size, fun payload => ?_, fun more later hmore => inv.stays hd hmore⟩
  · exact inv.all_answered hd t ht
  · exact Ledger.mem_ended.mp
      (inv.ended_of_emitted hd (mem_replies.mpr ⟨result, hresult, rfl⟩))
  · refine List.length_eq_zero_iff.mpr (List.filter_eq_nil_iff.mpr ?_)
    rintro ⟨lane, i⟩ hl
    have retired := inv.orderly.retired (.inr hd) lane
      (List.mem_of_getElem? (List.mem_zipIdx_iff_getElem?.mp hl))
    simp [retired]
  · exact ⟨((inv.orderly.lanes lane hl).relay (relays lane hl)).1, relays lane hl⟩
  · simp [Pool.holdsOutput, inv.orderly.state, running, hd]
  · refine List.eq_nil_iff_forall_not_mem.mpr fun t ht => ?_
    have : t.reply ∈ (site.books d).goods :=
      Multiset.mem_add.mpr (.inl (mem_replies.mpr ⟨t, ht, rfl⟩))
    exact Multiset.notMem_zero t.reply (goods ▸ this)
  · simp [Dock.step, Channel.hasRoom, closed]

theorem done_only_when_complete_small :
    ∃ site, small.run fickle course = some site ∧ site.pool.done = true ∧
      ∀ t ∈ site.dock.accepted, ∃ response,
        site.dock.around.ledger.responses t.reply = [response] := by
  obtain ⟨site, hr, hdone⟩ := Option.map_eq_some_iff.mp
    (show (small.run fickle course).map (fun site => site.pool.done) = some true by
      decide +kernel)
  exact ⟨site, hr, hdone, (done_only_when_complete opening_small hr hdone).1⟩

end Conveyor.Site
