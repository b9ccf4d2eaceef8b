import Conveyor.Proofs.Processor.Transcript
import Conveyor.Proofs.Site.Books

/-!
# The invariant of a site

Besides the order in which its parties end and the balance of its books, the invariant of a site
says that the reports of every lane are a transcript of the transactions that were handed to it, and
that the dispatcher takes the accepted transactions in their order. It holds of every site that can
be reached (`Site.Opening.invariant`).
-/

namespace Conveyor.Site

variable {σ : Type} {process : Behaviour σ} {site site' : Site σ}
  {d d' : Dispatcher (Processor σ)} {lanes : List (Lane (Processor σ))}

/-! ### Transcripts of lanes -/

/-- What a lane has taken, together with what waits in its queue, is what was handed to it. -/
def TranscribedLane (process : Behaviour σ) (site : Site σ) (i : Nat)
    (lane : Lane (Processor σ)) : Prop :=
  ∃ start taken,
    lane.pipeline.Transcript process site.dock.around.ledger.settled start taken (site.reports i) ∧
      taken ++ lane.queue.queue = site.handed i

/-- The journal tells of every lane what it did, and of no others. -/
structure Transcribed (process : Behaviour σ) (site : Site σ) (lanes : List (Lane (Processor σ))) :
    Prop where
  lane : ∀ i lane, lanes[i]? = some lane → TranscribedLane process site i lane
  none : ∀ i, lanes.length ≤ i → site.reports i = [] ∧ site.handed i = []

/-- A lane goes on, and nothing is said of the others. -/
lemma Transcribed.set (h : Transcribed process site lanes) {i : Nat}
    {lane lane' : Lane (Processor σ)} (hl : lanes[i]? = some lane)
    (log : site.dock.around.ledger.settled <+: site'.dock.around.ledger.settled)
    (others : ∀ j, j ≠ i → site'.reports j = site.reports j ∧ site'.handed j = site.handed j)
    (self : TranscribedLane process site' i lane') :
    Transcribed process site' (lanes.set i lane') := by
  have hi : i < lanes.length := (List.getElem?_eq_some_iff.mp hl).1
  constructor
  · intro j other hj
    by_cases hji : i = j
    · subst hji
      rw [List.getElem?_set_self hi] at hj
      exact Option.some.inj hj ▸ self
    · rw [List.getElem?_set_ne hji] at hj
      obtain ⟨start, taken, transcript, hq⟩ := h.lane j other hj
      obtain ⟨hr, hh⟩ := others j (Ne.symm hji)
      exact ⟨start, taken, hr ▸ transcript.mono log, hh ▸ hq⟩
  · intro j hj
    rw [List.length_set] at hj
    obtain ⟨hr, hh⟩ := others j (by omega)
    rw [hr, hh]
    exact h.none j hj

/-- The log grows, and nothing is said of any lane. -/
lemma Transcribed.mono (h : Transcribed process site lanes)
    (log : site.dock.around.ledger.settled <+: site'.dock.around.ledger.settled)
    (hr : ∀ i, site'.reports i = site.reports i) (hh : ∀ i, site'.handed i = site.handed i) :
    Transcribed process site' lanes where
  lane := fun i lane hl =>
    let ⟨start, taken, transcript, hq⟩ := h.lane i lane hl
    ⟨start, taken, hr i ▸ transcript.mono log, hh i ▸ hq⟩
  none := fun i hi => by rw [hr, hh]; exact h.none i hi

/-- A new lane has not done anything. -/
lemma Transcribed.concat (h : Transcribed process site lanes) {lane : Lane (Processor σ)}
    (hp : lane.pipeline.phase = .waiting) (hq : lane.queue.queue = []) :
    Transcribed process site (lanes ++ [lane]) := by
  constructor
  · intro i other hi
    rcases Nat.lt_or_ge i lanes.length with hlt | hge
    · rw [List.getElem?_append_left hlt] at hi
      exact h.lane i other hi
    · rw [List.getElem?_append_right hge] at hi
      obtain rfl := List.mem_singleton.mp (List.mem_of_getElem? hi)
      obtain ⟨hr, hh⟩ := h.none i hge
      refine ⟨other.pipeline.chain, [], ?_, by rw [hq, hh]; rfl⟩
      rw [hr]
      exact .of_waiting hp
  · intro i hi
    rw [List.length_append] at hi
    exact h.none i (by omega)

/-- A change of the number of lanes leaves the transcripts alone. -/
lemma Transcribed.refits (refits : Dispatcher.Refits d d')
    (bound : ∀ lane ∈ d.lanes, lane.Orderly) (h : Transcribed process site d.lanes) :
    Transcribed process site d'.lanes := by
  induction refits with
  | refl => exact h
  | tail before refit ih =>
    cases refit with
    | @retire i lane hl =>
      have orderly := Dispatcher.Refits.orderly before bound lane (List.mem_of_getElem? hl)
      obtain ⟨start, taken, transcript, hq⟩ := ih.lane i lane hl
      refine ih.set hl List.prefix_rfl (fun _ _ => ⟨rfl, rfl⟩) ⟨start, taken, ?_, hq⟩
      exact transcript.congr (Processor.phase_close orderly.bound.1) (Processor.chain_close _)
    | start => exact ih.concat rfl rfl
    | stray => exact ih

/-! ### The order of dispatch -/

/-- The transactions that were accepted are, in their order, those that have left the dispatcher,
most of them to a lane, the one that it holds, and those in the input. -/
def Queued (site : Site σ) (d : Dispatcher (Processor σ)) : Prop :=
  ∃ gone, site.dock.accepted = gone ++ (d.slot.waiting ++ site.dock.around.input.queue) ∧
    site.dispatched.Sublist gone

lemma Queued.dispatch (h : site.Queued d) (orderly : site.Orderly d)
    {report : List (Nat × Transaction)} {pool : Pool (Processor σ)} {around : Surroundings}
    (m : Pool.Move site.pool d site.dock.around report pool d' around)
    (hdock : site'.dock = { site.dock with around })
    (hdispatched : site'.dispatched = site.dispatched ++ report.map Prod.snd) : site'.Queued d' := by
  obtain ⟨gone, haccepted, hsub⟩ := h
  unfold Queued
  rw [hdock, hdispatched]
  cases m with
  | hear | leave => exact ⟨gone, haccepted, by simpa using hsub⟩
  | resize hp refits | retire hp refits =>
    refine ⟨gone, ?_, by simpa using hsub⟩
    rw [haccepted]
    simp [refits.frame.1]
  | choose hp hs | keep hp hs =>
    refine ⟨gone, ?_, by simpa using hsub⟩
    simp [haccepted, hs, Dispatcher.Slot.waiting]
  | @refuse t hp hs =>
    refine ⟨gone ++ [t], ?_, by simpa using hsub.trans (List.sublist_append_left _ _)⟩
    simp [haccepted, hs, Dispatcher.Slot.waiting]
  | @hand t position i lane hp hs =>
    refine ⟨gone ++ [t], ?_, by simpa using hsub⟩
    simp [haccepted, hs, Dispatcher.Slot.waiting]
  | read hp hs hq =>
    refine ⟨gone, ?_, by simpa using hsub⟩
    simp [haccepted, hs, hq, Dispatcher.Slot.waiting]
  | finish hp =>
    obtain ⟨-, hq, -⟩ := orderly.left (by simp [hp])
    refine ⟨gone, ?_, by simpa using hsub⟩
    simp [haccepted, hq, Channel.shut]

lemma Queued.move (h : site.Queued d) (orderly : site.Orderly d)
    (m : Move process site d site' d') : site'.Queued d' := by
  cases m with
  | user hd =>
    obtain ⟨gone, haccepted, hsub⟩ := h
    obtain ⟨-, new, haccepted', hinput, -⟩ := Dock.input_of_step hd
    refine ⟨gone, ?_, hsub⟩
    simp [haccepted', haccepted, hinput]
  | dispatch m => exact h.dispatch orderly m rfl (dispatched_dispatch site _)
  | relay hl c =>
    obtain ⟨gone, haccepted, hsub⟩ := h
    obtain ⟨-, -, -, hinput, -⟩ := c.frame
    exact ⟨gone, by simpa [hinput] using haccepted, hsub⟩
  | work hl m =>
    obtain ⟨gone, haccepted, hsub⟩ := h
    exact ⟨gone, haccepted, by simpa using hsub⟩
  | ask | stop | closeLane => exact h

/-! ### The invariant -/

/-- What holds of a site at any time. -/
structure Invariant (process : Behaviour σ) (site : Site σ) (d : Dispatcher (Processor σ)) :
    Prop where
  orderly : site.Orderly d
  balanced : (site.books d).Balanced
  transcribed : Transcribed process site d.lanes
  queued : site.Queued d

lemma Invariant.transcribed_dispatch (h : Invariant process site d)
    {report : List (Nat × Transaction)} {pool : Pool (Processor σ)} {around : Surroundings}
    (m : Pool.Move site.pool d site.dock.around report pool d' around)
    (log : site.dock.around.ledger.settled <+: site'.dock.around.ledger.settled)
    (hr : ∀ i, site'.reports i = site.reports i)
    (hh : ∀ i, site'.handed i =
      site.handed i ++ report.filterMap fun (j, t) => if j = i then some t else none) :
    Transcribed process site' d'.lanes := by
  cases m with
  | resize hp refits | retire hp refits =>
    have grown := h.transcribed.mono log hr (by simpa using hh)
    have next := Transcribed.refits refits h.orderly.lanes grown
    exact next
  | @hand t position i lane hp hs hl =>
    obtain ⟨start, taken, transcript, hq⟩ := h.transcribed.lane i lane hl
    refine h.transcribed.set hl log (fun j hji => ⟨hr j, ?_⟩) ⟨start, taken, ?_, ?_⟩
    · simp [hh, hji.symm]
    · exact hr i ▸ transcript.mono log
    · simp [hh, ← hq]
  | _ => exact h.transcribed.mono log hr (by simpa using hh)

/-- The invariant is kept by every move. -/
theorem Invariant.move (h : Invariant process site d) (m : Move process site d site' d') :
    Invariant process site' d' := by
  have steps := h.orderly.books_move h.balanced m
  have log : site.dock.around.ledger.settled <+: site'.dock.around.ledger.settled :=
    steps.settled_grows
  refine ⟨h.orderly.move m, h.balanced.steps steps, ?_, h.queued.move h.orderly m⟩
  cases m with
  | user => exact h.transcribed.mono log (fun _ => rfl) (fun _ => rfl)
  | dispatch m =>
    exact h.transcribed_dispatch m log (reports_dispatch site _) (handed_dispatch site _)
  | relay hl c =>
    obtain ⟨start, taken, transcript, hq⟩ := h.transcribed.lane _ _ hl
    obtain ⟨queue, pipeline, -⟩ := c.frame
    refine h.transcribed.set hl log (fun _ _ => ⟨rfl, rfl⟩) ⟨start, taken, ?_, queue ▸ hq⟩
    exact pipeline ▸ transcript.mono log
  | @work i lane reports p inner hl m =>
    obtain ⟨start, taken, transcript, hq⟩ := h.transcribed.lane i lane hl
    obtain ⟨rest, before, -⟩ := books_worker site hl
    have reads : lane.pipeline.Reads (lane.surroundings site.dock.around) :=
      Processor.reads_of_books (before ▸ h.balanced)
    obtain ⟨taken', transcript', hq'⟩ :=
      transcript.move (s := lane.surroundings site.dock.around) m reads
    refine h.transcribed.set hl log (fun j hji => ?_) ⟨start, taken', ?_, ?_⟩
    · simp [hji.symm]
    · simpa using transcript'
    · simpa using hq'.trans hq
  | ask | stop => exact h.transcribed.mono log (fun _ => rfl) (fun _ => rfl)
  | closeLane hl =>
    obtain ⟨start, taken, transcript, hq⟩ := h.transcribed.lane _ _ hl
    have orderly := h.orderly.lanes _ (List.mem_of_getElem? hl)
    refine h.transcribed.set hl log (fun _ _ => ⟨rfl, rfl⟩) ⟨start, taken, ?_, hq⟩
    exact transcript.congr (Processor.phase_close orderly.bound.1) (Processor.chain_close _)

lemma Opening.start (h : site.Opening) : ∃ d, Invariant process site d := by
  obtain ⟨d, hstate, refits, made, hdone⟩ := h.started
  obtain ⟨hwork, hgoods, hawaited⟩ := total_refits refits
  have slot : d.slot = .empty := refits.frame.1
  have idle : Transcribed process site ([] : List (Lane (Processor σ))) :=
    { lane := by simp
      none := fun i _ => by simp [reports, handed, h.journal] }
  refine ⟨d, .start hstate refits made hdone, h.dock.balanced ?_ hgoods hawaited ?_,
    Transcribed.refits refits (by simp) idle, [], ?_, ?_⟩
  · simp only [slot, hwork]
    rfl
  · simp [results, h.journal]
  · simp [slot, h.dock.accepted, Dispatcher.Slot.waiting]
  · simp [dispatched, h.journal]

/-- The invariant holds of every site that can be reached. -/
theorem Opening.invariant (h : site.Opening) {events : List Event}
    (hr : site.run process events = some site') : ∃ d, Invariant process site' d := by
  refine runFrom_induction (P := fun site => ∃ d, Invariant process site d) ?_ h.start hr
  rintro site site' e ⟨d, inv⟩ he
  obtain ⟨d', m, -⟩ := Move.of_step inv.orderly.state inv.orderly.made inv.orderly.strays he
  exact ⟨d', inv.move m⟩

end Conveyor.Site
