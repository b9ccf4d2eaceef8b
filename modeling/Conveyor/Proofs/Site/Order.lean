import Conveyor.Proofs.Site

/-!
# The order in which the parties of a site end

A worker ends when its queue is over and empty, a relay after its worker, and the dispatcher, which
has emptied and left the input before, after all relays. These facts are kept by every move
(`Site.Orderly.move`).
-/

namespace Conveyor

variable {σ : Type} {process : Behaviour σ}

/-! ### Lanes -/

namespace Lane

/-- The order of a single lane. -/
structure Orderly (lane : Lane (Processor σ)) : Prop where
  bound : lane.pipeline.phase ≠ .idle ∧ lane.pipeline.phase ≠ .closed
  ended : lane.pipeline.phase = .ended → lane.queue.queue = [] ∧ lane.queue.closed = true
  relay : lane.relayEnded = true →
    lane.pipeline.phase = .ended ∧ lane.output.queue = [] ∧ lane.carried = none

variable {lane lane' : Lane (Processor σ)} {s s' : Surroundings}

lemma orderly_started (laneBuffer index : Nat) (p : Processor σ) :
    (started laneBuffer index p).Orderly := by
  constructor <;> simp [started]

/-- A lane that is asked for a shutdown goes on with what it has. -/
lemma Orderly.close (h : lane.Orderly) {lane' : Lane (Processor σ)}
    (hp : lane'.pipeline = lane.pipeline.close) (hq : lane'.queue = lane.queue)
    (ho : lane'.output = lane.output) (hc : lane'.carried = lane.carried)
    (hr : lane'.relayEnded = lane.relayEnded) : lane'.Orderly := by
  have phase : lane'.pipeline.phase = lane.pipeline.phase := by
    rw [hp, Processor.phase_close h.bound.1]
  constructor
  · exact phase ▸ h.bound
  · exact phase ▸ hq ▸ h.ended
  · exact phase ▸ ho ▸ hc ▸ hr ▸ h.relay

lemma Orderly.push (h : lane.Orderly) (room : lane.queue.hasRoom = true) (t : Transaction) :
    { lane with queue := lane.queue.push t }.Orderly := by
  have active : lane.pipeline.phase ≠ .ended := by
    intro hp
    simp [Channel.hasRoom, (h.ended hp).2] at room
  exact ⟨h.bound, fun hp => absurd hp active, h.relay⟩

lemma Orderly.carry (h : lane.Orderly) (c : Carry lane s lane' s') : lane'.Orderly := by
  cases c with
  | finish active hc hq spent =>
    refine ⟨h.bound, h.ended, fun _ => ⟨?_, rfl, hc⟩⟩
    cases hp : lane.pipeline.phase <;> simp [Processor.holdsOutput, hp] at spent
    · rfl
    · exact absurd hp h.bound.2
  | take active | deliver active | lose active =>
    exact ⟨h.bound, h.ended, fun hr => absurd (active.symm.trans hr) (by simp)⟩

lemma Orderly.work (h : lane.Orderly) {reports : List (Report σ)} {p : Processor σ}
    {inner : Surroundings}
    (m : Processor.Move process lane.pipeline (lane.surroundings s) reports p inner) :
    { lane with pipeline := p, queue := inner.input, output := inner.output }.Orderly := by
  have active : lane.relayEnded ≠ true := by
    intro hr
    have hp := (h.relay hr).1
    cases m <;> simp_all
  cases m with
  | leave hp hq spent =>
    exact ⟨by simp, fun _ => ⟨rfl, rfl⟩, fun hr => absurd hr active⟩
  | hear hp =>
    refine ⟨h.bound, fun he => ?_, fun hr => absurd hr active⟩
    exact absurd (hp.symm.trans he) (by simp)
  | _ => exact ⟨by simp, by simp, fun hr => absurd hr active⟩

end Lane

/-! ### Dispatchers -/

lemma forall_mem_concat {α : Type} {P : α → Prop} {l : List α} {a : α}
    (h : ∀ x ∈ l, P x) (ha : P a) : ∀ x ∈ l ++ [a], P x := fun _ hx =>
  (List.mem_append.mp hx).elim (h _) fun hx => List.mem_singleton.mp hx ▸ ha

namespace Dispatcher

variable {d d' : Dispatcher (Processor σ)}

/-- A change of the number of lanes touches only the lanes and what could not be started. -/
lemma Refits.frame (h : Refits d d') : d'.slot = d.slot ∧ d'.phase = d.phase := by
  induction h with
  | refl => exact ⟨rfl, rfl⟩
  | tail _ refit ih => cases refit <;> exact ih

lemma Refits.closing (h : Refits d d') : d'.closing = d.closing := by
  induction h with
  | refl => rfl
  | tail _ refit ih => cases refit <;> exact ih

/-- What holds of all lanes, and is kept when a lane is given up, holds of all lanes after a change of
their number, if it holds of those that are started. -/
lemma Refits.forall_lanes {R : Lane (Processor σ) → Prop} (h : Refits d d')
    (giveUp : ∀ lane, R lane → R lane.givenUp)
    (start : ∀ laneBuffer index p, R (.started laneBuffer index p))
    (lanes : ∀ lane ∈ d.lanes, R lane) : ∀ lane ∈ d'.lanes, R lane := by
  induction h with
  | refl => exact lanes
  | tail _ refit ih =>
    cases refit with
    | @retire i lane hl =>
      exact forall_mem_set ih (giveUp lane (ih lane (List.mem_of_getElem? hl)))
    | start hp laneBuffer index => exact forall_mem_concat ih (start laneBuffer index _)
    | stray => exact ih

lemma Refits.orderly (h : Refits d d') (lanes : ∀ lane ∈ d.lanes, lane.Orderly) :
    ∀ lane ∈ d'.lanes, lane.Orderly :=
  h.forall_lanes (fun _ orderly => orderly.close rfl rfl rfl rfl rfl) Lane.orderly_started lanes

lemma Refits.strays (h : Refits d d') (strays : ∀ p ∈ d.strays, p.Rests) :
    ∀ p ∈ d'.strays, p.Rests := by
  induction h with
  | refl => exact strays
  | tail _ refit ih =>
    cases refit with
    | retire | start => exact ih
    | stray hp => exact forall_mem_concat ih hp

end Dispatcher

/-! ### Sites -/

namespace Site

/-- The order of a site. -/
structure Orderly (site : Site σ) (d : Dispatcher (Processor σ)) : Prop where
  state : site.pool.state = .running d
  made : site.pool.MakesRested
  strays : ∀ p ∈ d.strays, p.Rests
  lanes : ∀ lane ∈ d.lanes, lane.Orderly
  left : d.phase ≠ .serving → d.slot = .empty ∧ site.dock.around.input.queue = [] ∧
    (site.dock.around.input.closed = true ∨ site.dock.around.fed = false)
  retired : d.phase = .draining ∨ d.phase = .ended → ∀ lane ∈ d.lanes, lane.retired = true
  ended : d.phase = .ended → (∀ lane ∈ d.lanes, lane.relayEnded = true) ∧
    site.dock.around.input.closed = true ∧ site.pool.size = 0
  done : site.pool.done = true ↔ d.phase = .ended

namespace Orderly

variable {site site' : Site σ} {d d' : Dispatcher (Processor σ)}

lemma dispatcher (h : site.Orderly d) : site.pool.dispatcher? = some d := by
  simp [Pool.dispatcher?, h.state]

/-- One lane goes on. -/
lemma set (h : site.Orderly d) {i : Nat} {lane lane' : Lane (Processor σ)}
    (hl : d.lanes[i]? = some lane) (orderly : lane'.Orderly)
    (retired : lane'.retired = lane.retired)
    (relay : lane.relayEnded = true → lane'.relayEnded = true)
    (hpool : site'.pool =
      { site.pool with state := .running { d with lanes := d.lanes.set i lane' } })
    (hinput : site'.dock.around.input = site.dock.around.input)
    (hfed : site'.dock.around.fed = site.dock.around.fed) :
    site'.Orderly { d with lanes := d.lanes.set i lane' } := by
  have mem : lane ∈ d.lanes := List.mem_of_getElem? hl
  constructor
  · rw [hpool]
  · rw [hpool]
    exact h.made
  · exact h.strays
  · exact forall_mem_set h.lanes orderly
  · rw [hinput, hfed]
    exact h.left
  · exact fun hp => forall_mem_set (h.retired hp) (retired ▸ h.retired hp lane mem)
  · intro hp
    rw [hinput, hpool]
    obtain ⟨relays, rest⟩ := h.ended hp
    exact ⟨forall_mem_set relays (relay (relays lane mem)), rest⟩
  · rw [hpool]
    exact h.done

/-- A dispatcher that goes on serving may do what it wants with the input. -/
lemma serve (h : site.Orderly d) {pool : Pool (Processor σ)} {dock : Dock}
    {journal : List (Entry σ)} (hp : d.phase = .serving) (hp' : d'.phase = .serving)
    (hmade : pool.construct = site.pool.construct) (hdone : pool.done = site.pool.done)
    (lanes : ∀ lane ∈ d'.lanes, lane.Orderly) (strays : ∀ p ∈ d'.strays, p.Rests) :
    Orderly ⟨{ pool with state := .running d' }, dock, journal⟩ d' where
  state := rfl
  made := by
    unfold Pool.MakesRested
    rw [show _ = site.pool.construct from hmade]
    exact h.made
  strays := strays
  lanes := lanes
  left := fun hne => absurd hp' hne
  retired := by simp [hp']
  ended := by simp [hp']
  done := by
    rw [show _ = site.pool.done from hdone, h.done, hp, hp']

lemma dispatch (h : site.Orderly d) {report : List (Nat × Transaction)}
    {pool : Pool (Processor σ)} {around : Surroundings} {journal : List (Entry σ)}
    (m : Pool.Move site.pool d site.dock.around report pool d' around) :
    Orderly ⟨{ pool with state := .running d' }, { site.dock with around }, journal⟩ d' := by
  cases m with
  | hear hp | choose hp | refuse hp | keep hp | read hp =>
    exact h.serve hp hp rfl rfl h.lanes h.strays
  | resize hp refits =>
    refine h.serve hp ?_ rfl rfl (refits.orderly h.lanes) (refits.strays h.strays)
    exact refits.frame.2.trans hp
  | hand hp hs hl used room =>
    have lane := (h.lanes _ (List.mem_of_getElem? hl)).push room
    exact h.serve hp hp rfl rfl (forall_mem_set h.lanes (lane _)) h.strays
  | leave hp hs hq spent =>
    refine ⟨rfl, h.made, h.strays, h.lanes, fun _ => ⟨hs, hq, spent⟩, nofun, nofun, ?_⟩
    simp [h.done, hp]
  | retire hp refits all =>
    obtain ⟨hs, left⟩ := h.left (by simp [hp])
    refine ⟨rfl, h.made, refits.strays h.strays, refits.orderly h.lanes, fun _ => ?_,
      fun _ => all, nofun, ?_⟩
    · exact ⟨refits.frame.1.trans hs, left⟩
    · simp [h.done, hp]
  | finish hp all =>
    obtain ⟨hs, hq, -⟩ := h.left (by simp [hp])
    refine ⟨rfl, h.made, h.strays, h.lanes, fun _ => ⟨hs, rfl, .inl rfl⟩,
      fun _ => h.retired (.inl hp), fun _ => ⟨all, rfl, rfl⟩, by simp⟩

/-- The order of a site is kept. -/
theorem move (h : site.Orderly d) (m : Move process site d site' d') : site'.Orderly d' := by
  cases m with
  | user hd =>
    obtain ⟨hfed, new, -, hinput, spent⟩ := Dock.input_of_step hd
    exact
      { h with
        left := by
          intro hp
          obtain ⟨hs, hq, ho⟩ := h.left hp
          obtain rfl := spent ho
          refine ⟨hs, by simp [hinput, hq], ?_⟩
          rw [hinput]
          refine ho.imp_right fun hf => ?_
          rw [← Bool.not_eq_true] at hf ⊢
          exact fun hf' => hf (hfed hf')
        ended := by
          intro hp
          rw [hinput]
          exact h.ended hp }
  | dispatch m => exact h.dispatch m
  | relay hl c =>
    have mem := List.mem_of_getElem? hl
    obtain ⟨-, -, retired, input, fed⟩ := c.frame
    exact h.set hl ((h.lanes _ mem).carry c) retired
      (fun hr => absurd (c.active.symm.trans hr) (by simp)) rfl input fed
  | work hl m =>
    exact h.set hl ((h.lanes _ (List.mem_of_getElem? hl)).work m) rfl id rfl rfl rfl
  | ask requests =>
    exact ⟨rfl, h.made, h.strays, h.lanes, h.left, h.retired, h.ended, h.done⟩
  | stop => exact ⟨h.state, h.made, h.strays, h.lanes, h.left, h.retired, h.ended, h.done⟩
  | closeLane hl =>
    have mem := List.mem_of_getElem? hl
    exact h.set hl ((h.lanes _ mem).close rfl rfl rfl rfl rfl) rfl id rfl rfl rfl

end Orderly

/-- A site starts with a dispatcher that has only started lanes. -/
lemma Opening.started {site : Site σ} (h : site.Opening) :
    ∃ d, site.pool.state = .running d ∧ Dispatcher.Refits {} d ∧ site.pool.MakesRested ∧
      site.pool.done = false := by
  obtain ⟨pool, ⟨⟨lanes, hidle, rests⟩, made, hdone⟩, hc⟩ := h.bound
  simp only [Pool.consume, hidle] at hc
  split at hc
  next d hs =>
    rw [Prod.mk.injEq] at hc
    exact ⟨d, hc.2 ▸ rfl, Dispatcher.refits_startLanes rests hs, hc.2 ▸ made, hc.2 ▸ hdone⟩
  next => cases hc

lemma Orderly.start {site : Site σ} {d : Dispatcher (Processor σ)}
    (hstate : site.pool.state = .running d) (refits : Dispatcher.Refits {} d)
    (made : site.pool.MakesRested) (hdone : site.pool.done = false) : site.Orderly d where
  state := hstate
  made := made
  strays := refits.strays (by simp)
  lanes := refits.orderly (by simp)
  left := fun hp => absurd refits.frame.2 hp
  retired := by simp [refits.frame.2]
  ended := by simp [refits.frame.2]
  done := by simp [hdone, refits.frame.2]

end Site

end Conveyor
