import Conveyor.Proofs.Interleaving
import Conveyor.Proofs.Processor.Results
import Conveyor.Proofs.Site.Answers
import Conveyor.Proofs.Site.Merging
import Conveyor.Proofs.Site.Ownership

/-!
# What the lanes send, and in which order it comes out

Each lane has a sequence of its own: the messages that are left of the transactions that were handed to
it, the stages being taken over from one transaction to the next. The relays forward the results of the
lanes in any order, but those of one lane in their order. So what the consumer receives is the beginning
of an interleaving of these sequences. What is kept on the way is that the relays take the results of each
lane from the front (`Site.Shuffled`).
-/

namespace Conveyor

variable {σ : Type} {process : Behaviour σ}

/-! ### Results on their way out of the lanes -/

/-- The results that a lane and its relay hold, in the order in which they go out. -/
def Lane.outgoing (lane : Lane (Processor σ)) : List Transaction :=
  lane.carried.toList ++ lane.output.queue

/-- What a relay delivers comes from the front. -/
lemma Lane.Carry.outgoing {lane lane' : Lane (Processor σ)} {s s' : Surroundings}
    (c : Carry lane s lane' s') (open_ : s'.output.closed = false) :
    s.output.closed = false ∧ ∃ sent, lane.outgoing = sent ++ lane'.outgoing ∧
      s'.output.queue = s.output.queue ++ sent := by
  cases c with
  | take active hc hq => exact ⟨open_, [], by simp [Lane.outgoing, hc, hq], by simp⟩
  | @deliver t active hc => exact ⟨open_, [t], by simp [Lane.outgoing, hc], rfl⟩
  | lose active hc closed => simp [closed] at open_
  | finish active hc hq =>
    exact ⟨open_, [], by simp [Lane.outgoing, hc, hq, Channel.shut], by simp⟩

section Lanes

variable {lanes : List (Lane (Processor σ))}

/-- The results that a lane and its relay hold. A lane that is not there holds none. -/
def outgoingAt (lanes : List (Lane (Processor σ))) (i : Nat) : List Transaction :=
  ((lanes[i]?).map Lane.outgoing).getD []

lemma outgoingAt_of_lane {i : Nat} {lane : Lane (Processor σ)} (hl : lanes[i]? = some lane) :
    outgoingAt lanes i = lane.outgoing := by
  simp [outgoingAt, hl]

lemma outgoingAt_set {i : Nat} {lane : Lane (Processor σ)} (hl : lanes[i]? = some lane)
    (lane' : Lane (Processor σ)) (j : Nat) :
    outgoingAt (lanes.set i lane') j = if j = i then lane'.outgoing else outgoingAt lanes j := by
  split
  next hj =>
    subst hj
    simp [outgoingAt, List.getElem?_set_self (List.getElem?_eq_some_iff.mp hl).1]
  next hj => simp [outgoingAt, List.getElem?_set_ne (Ne.symm hj)]

/-- A lane may be replaced by one that holds the same results. -/
lemma outgoingAt_set_same {i : Nat} {lane lane' : Lane (Processor σ)}
    (hl : lanes[i]? = some lane) (same : lane'.outgoing = lane.outgoing) (j : Nat) :
    outgoingAt (lanes.set i lane') j = outgoingAt lanes j := by
  rw [outgoingAt_set hl, same]
  split
  next hj => rw [hj, outgoingAt_of_lane hl]
  next => rfl

/-- A change of the number of lanes leaves all results where they are. -/
lemma Dispatcher.Refits.outgoing {d d' : Dispatcher (Processor σ)} (h : Refits d d') (i : Nat) :
    outgoingAt d'.lanes i = outgoingAt d.lanes i := by
  induction h with
  | refl => rfl
  | @tail before _ _ refit ih =>
    rw [← ih]
    cases refit with
    | retire hl =>
      refine outgoingAt_set_same hl ?_ i
      rfl
    | start hp laneBuffer index =>
      rcases Nat.lt_or_ge i before.lanes.length with old | new
      · simp [outgoingAt, List.getElem?_append_left old]
      · rw [outgoingAt, outgoingAt, List.getElem?_eq_none new, List.getElem?_append_right new]
        -- the new lane holds nothing, and there is no other one
        cases i - before.lanes.length <;> rfl
    | stray => rfl

end Lanes

/-! ### The stages of a lane -/

open Classical in
/-- The stages that a lane with this number has in the beginning, and none if no lane becomes of the
number. -/
noncomputable def Pool.stagesOf (pool : Pool (Processor σ)) (index : Nat) : List σ :=
  if h : ∃ p, Pool.Yields pool.construct index p then h.choose.chain else []

lemma Pool.stagesOf_eq {pool : Pool (Processor σ)} {index : Nat} {p : Processor σ}
    (h : Pool.Yields pool.construct index p) : pool.stagesOf index = p.chain := by
  have some : ∃ p, Pool.Yields pool.construct index p := ⟨p, h⟩
  rw [Pool.stagesOf, dif_pos some, some.choose_spec.unique h]

namespace Site

/-- The stages that a lane had in the beginning. -/
noncomputable def stages (site : Site σ) (i : Nat) : List σ :=
  match site.pool.dispatcher?.bind fun d => d.lanes[i]? with
  | some lane => site.pool.stagesOf lane.index
  | none      => []

/-- The sequence of a lane: the messages that are left of the transactions it got, in the order in which
it got them. -/
noncomputable def sequence (process : Behaviour σ) (site : Site σ) (i : Nat) : List Message :=
  messagesOf (interpret process (site.stages i) (site.handed i))

/-- The results that the journal tells of for the transaction with a path. -/
def resultsOf (site : Site σ) (id : Nat) : List Transaction := Report.results (site.story id)

variable {site site' start : Site σ} {d d' : Dispatcher (Processor σ)}
  {lanes : List (Lane (Processor σ))}

/-- A lane began with the stages that were made for its number. -/
def RootedLane (site : Site σ) (i : Nat) (lane : Lane (Processor σ)) : Prop :=
  Report.start (site.reports i) lane.pipeline.chain = site.pool.stagesOf lane.index

/-- All lanes began with the stages that were made for their numbers. -/
def Rooted (site : Site σ) (lanes : List (Lane (Processor σ))) : Prop :=
  ∀ i lane, lanes[i]? = some lane → site.RootedLane i lane

/-- A lane goes on, and nothing is said of the others. -/
lemma Rooted.set (h : site.Rooted lanes) {i : Nat} {lane lane' : Lane (Processor σ)}
    (hl : lanes[i]? = some lane) (made : site'.pool.construct = site.pool.construct)
    (others : ∀ j, j ≠ i → site'.reports j = site.reports j)
    (self : Report.start (site'.reports i) lane'.pipeline.chain =
      Report.start (site.reports i) lane.pipeline.chain)
    (index : lane'.index = lane.index) : site'.Rooted (lanes.set i lane') := by
  have stages (k : Nat) : site'.pool.stagesOf k = site.pool.stagesOf k := by
    rw [Pool.stagesOf, Pool.stagesOf, made]
  intro j other hj
  rw [RootedLane, stages]
  by_cases hji : i = j
  · subst hji
    rw [List.getElem?_set_self (List.getElem?_eq_some_iff.mp hl).1] at hj
    obtain rfl := Option.some.inj hj
    rw [self, index]
    exact h i lane hl
  · rw [List.getElem?_set_ne hji] at hj
    rw [others j (Ne.symm hji)]
    exact h j other hj

lemma Rooted.turn (h : site.Rooted d.lanes) (transcribed : Transcribed process site d.lanes)
    (vain : site.pool.Vain) {s s' : Surroundings} {pool : Pool (Processor σ)}
    (turn : site.pool.Turn d s pool d' s') : site.Rooted d'.lanes := by
  have retire : ∀ i (lane : Lane (Processor σ)) metrics, site.RootedLane i lane →
      site.RootedLane i (lane.retire metrics).1 := fun i lane metrics rooted => by
    have chain : (lane.retire metrics).1.pipeline.chain = lane.pipeline.chain :=
      Processor.chain_close _
    rw [RootedLane, chain]
    exact rooted
  cases turn with
  | @hand t position i lane hp hs hl =>
    have hlane := (Dispatcher.mem_inUse.mp (List.mem_of_getElem? hl)).1
    exact h.set hlane rfl (fun _ _ => rfl) rfl rfl
  | resize hp hs heard hr hg =>
    have lanes := Pool.forall_getElem_resizeRunning (R := site.RootedLane) retire
      (fun i added index p lane builds started => by
        obtain ⟨-, rfl⟩ := started.eq_started
        rw [RootedLane, (transcribed.none i added).1, Report.start_nil]
        exact (Pool.stagesOf_eq (builds.yields vain)).symm) hg h
    exact lanes
  | retire => exact Dispatcher.forall_getElem_shrink retire 0 _ h
  | _ => exact h

/-- The stages in the beginning are fixed. -/
lemma Rooted.act (h : site.Rooted d.lanes) (inv : Invariant process site d)
    (vain : site.pool.Vain) {e : Event} (act : Act process site d e site' d') : site'.Rooted d'.lanes := by
  cases act with
  | user | ask | stop => exact h
  | dispatch turn =>
    have rooted := h.turn inv.transcribed vain turn
    obtain ⟨nextIndex, attempt, size, done, rfl⟩ := turn.frame
    intro i lane hl
    rw [RootedLane, reports_dispatch]
    exact rooted i lane hl
  | relay hl c =>
    obtain ⟨-, pipeline, -⟩ := c.frame
    refine h.set hl rfl (fun _ _ => rfl) (by rw [pipeline]; rfl) ?_
    cases c <;> rfl
  | @work i lane new p inner hl m =>
    refine h.set hl rfl (fun j hj => ?_) ?_ rfl
    · rw [reports_work, if_neg (Ne.symm hj), List.append_nil]
    · rw [reports_work, if_pos rfl, Report.start_append, m.start_eq]
  | closeLane hl =>
    exact h.set hl rfl (fun _ _ => rfl) (by rw [Processor.chain_close]; rfl) rfl

/-! ### The order of the results -/

/-- As long as the consumer listens, what came out of the pool is an interleaving of what the relays
have taken over from the lanes, and the rest of their results is still on its way. -/
def Shuffled (site : Site σ) (lanes : List (Lane (Processor σ))) : Prop :=
  site.dock.around.output.closed = false →
    ∃ delivered : ℕ → List Transaction,
      Interleaves delivered (site.dock.received ++ site.dock.around.output.queue) ∧
        ∀ i, Report.results (site.reports i) = delivered i ++ outgoingAt lanes i

/-- Nothing came out, and the lanes hold what they held. -/
lemma Shuffled.keep {lanes' : List (Lane (Processor σ))} (h : site.Shuffled lanes)
    (output : site'.dock.around.output.closed = false →
      site.dock.around.output.closed = false ∧
        site'.dock.received ++ site'.dock.around.output.queue =
          site.dock.received ++ site.dock.around.output.queue)
    (reports : ∀ i, site'.reports i = site.reports i)
    (outgoing : ∀ i, outgoingAt lanes' i = outgoingAt lanes i) : site'.Shuffled lanes' := by
  intro open_
  obtain ⟨open_, same⟩ := output open_
  obtain ⟨delivered, interleaves, hresults⟩ := h open_
  refine ⟨delivered, same ▸ interleaves, fun i => ?_⟩
  rw [reports, outgoing, hresults]

/-- A relay moves some results of its lane to the end of what came out. -/
lemma Shuffled.relay (h : site.Shuffled lanes) {i : Nat} {lane lane' : Lane (Processor σ)}
    {around : Surroundings} (hl : lanes[i]? = some lane)
    (c : Lane.Carry lane site.dock.around lane' around)
    (hdock : site'.dock = { site.dock with around })
    (reports : ∀ j, site'.reports j = site.reports j) :
    site'.Shuffled (lanes.set i lane') := by
  intro open_
  rw [hdock] at open_
  obtain ⟨open_, sent, houtgoing, hqueue⟩ := c.outgoing open_
  obtain ⟨delivered, interleaves, hresults⟩ := h open_
  refine ⟨Function.update delivered i (delivered i ++ sent), ?_, fun j => ?_⟩
  · have more := interleaves.append i sent (Function.update_self ..)
      fun j hj => Function.update_of_ne hj ..
    simpa only [hdock, hqueue, List.append_assoc] using more
  · rw [reports, hresults, outgoingAt_set hl]
    by_cases hj : j = i
    · subst hj
      rw [if_pos rfl, Function.update_self, outgoingAt_of_lane hl, houtgoing, List.append_assoc]
    · rw [if_neg hj, Function.update_of_ne hj]

/-- The results of a lane stay in their order at any move. -/
lemma Shuffled.move (h : site.Shuffled d.lanes) (merged : site.Merged d)
    (orderly : site.Orderly d) (m : Move process site d site' d') : site'.Shuffled d'.lanes := by
  cases m with
  | user hd =>
    obtain ⟨-, -, kept⟩ := Dock.output_of_step hd
    exact h.keep kept (fun _ => rfl) fun _ => rfl
  | dispatch m =>
    obtain ⟨-, -, output⟩ := merged.dispatch m
    refine h.keep (fun open_ => ?_) (reports_dispatch site _) fun i => ?_
    · rw [output] at open_
      exact ⟨open_, by rw [output]⟩
    · cases m with
      | resize hp refits | retire hp refits => exact refits.outgoing i
      | hand hp hs hl =>
        refine outgoingAt_set_same hl ?_ i
        rfl
      | _ => rfl
  | relay hl c => exact h.relay hl c rfl fun _ => rfl
  | @work i lane new p inner hl m =>
    have listens := merged.listens orderly hl m
    obtain ⟨-, -, pushed, -⟩ := m.output
    intro open_
    obtain ⟨delivered, interleaves, hresults⟩ := h open_
    refine ⟨delivered, interleaves, fun j => ?_⟩
    rw [reports_work, Report.results_append, hresults, outgoingAt_set hl]
    by_cases hj : j = i
    · subst hj
      rw [if_pos rfl, if_pos rfl, outgoingAt_of_lane hl, List.append_assoc]
      simp [Lane.outgoing, pushed listens, Lane.surroundings]
    · rw [if_neg (Ne.symm hj), if_neg hj, Report.results_nil, List.append_nil]
  | ask | stop => exact h.keep (fun open_ => ⟨open_, rfl⟩) (fun _ => rfl) fun _ => rfl
  | closeLane hl =>
    exact h.keep (fun open_ => ⟨open_, rfl⟩) (fun _ => rfl) (outgoingAt_set_same hl rfl)

end Site

end Conveyor
