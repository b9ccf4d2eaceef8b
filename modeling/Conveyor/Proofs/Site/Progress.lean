import Conveyor.Proofs.Bench.Progress
import Conveyor.Proofs.Pool.Turns
import Conveyor.Proofs.Site.Closing
import Mathlib.Algebra.Group.Prod

/-!
# A site that drains makes progress

When no transaction can be accepted any more, or none that was not asked for before, the dispatcher,
the lanes, the relays and the consumer bring the site closer to its end with all that they do
(`Site.less_of_drives`), whatever the others do in between, unless the number of lanes is asked to be
changed (`Site.eq_or_less_of_step`). If none of them can do anything the dispatcher has ended
(`Site.Invariant.ended_of_rests`).
-/

namespace Conveyor

variable {σ : Type} {process : Behaviour σ}

/-! ### What is left to be done -/

namespace Channel

@[simp] lemma queue_shut (c : Channel) : c.shut.queue = [] := rfl

/-- How many transactions a channel holds, or may hold by the time it is closed. -/
def pressure (c : Channel) (fed : Bool) : Nat :=
  if c.closed || !fed then c.queue.length else max c.capacity c.queue.length

variable {c : Channel} {fed : Bool}

lemma length_le_pressure : c.queue.length ≤ c.pressure fed := by
  unfold pressure
  split <;> omega

lemma pressure_of_spent (spent : c.closed = true ∨ fed = false) :
    c.pressure fed = c.queue.length := by
  rcases spent with spent | spent <;> simp [pressure, spent]

/-- A transaction takes a place that was counted before. -/
lemma pressure_push (open_ : fed = true) (room : c.hasRoom = true) (t : Transaction) :
    (c.push t).pressure fed = c.pressure fed := by
  simp only [hasRoom, Bool.and_eq_true, Bool.not_eq_true', decide_eq_true_eq] at room
  simp only [pressure, push, room.1, open_]
  simp
  omega

end Channel

namespace Dispatcher

variable {P : Type}

/-- Whether the lane at this position among those in use has room. -/
def roomAt (d : Dispatcher P) (position : Nat) : Bool :=
  ((d.inUse.map fun l => l.1.queue)[position]?).any Channel.hasRoom

/-- What is left to be done until the transaction that the dispatcher holds is in a queue: the less
when a lane was found, and the more when that lane lost its room in the meantime. -/
def burden (d : Dispatcher P) : Nat :=
  match d.slot with
  | .empty               => 0
  | .pending _           => 4
  | .reserved _ position => if d.roomAt position then 3 else 5

end Dispatcher

/-- What is left to be done inside a lane: in the whole, for the current transaction, and for the
current part of its treatment. -/
def Lane.outlook (lane : Lane (Processor σ)) : ℕ × ℕ × ℕ :=
  (2 * lane.queue.queue.length + lane.pipeline.phase.current + lane.pipeline.phase.lasts +
      3 * (!lane.pipeline.closing).toNat + (!lane.relayEnded).toNat,
    lane.pipeline.phase.ahead,
    2 * lane.pipeline.phase.rest + 4 * lane.output.queue.length + 3 * lane.carried.toList.length)

namespace Site

/-- What is left to be done at the dock, and by the dispatcher with the input. -/
def outside (dock : Dock) (burden : Nat) (closing : Bool) : ℕ × ℕ × ℕ :=
  (5 * dock.around.input.pressure dock.around.fed + burden + (!closing).toNat, 0,
    2 * dock.around.output.queue.length + dock.held.length)

/-- What is left to be done: by the dispatcher before it ends, and by all parties together. -/
def outlook (dock : Dock) (d : Dispatcher (Processor σ)) : ℕ × ℕ × ℕ × ℕ :=
  (d.phase.ahead + d.requests.length,
    outside dock d.burden d.closing + (d.lanes.map Lane.outlook).sum)

/-- Smaller in the first number that differs. -/
abbrev Less : ℕ × ℕ × ℕ × ℕ → ℕ × ℕ × ℕ × ℕ → Prop := Prod.Lex (· < ·) Bench.Less

lemma Less.wellFounded : WellFounded Less :=
  WellFounded.prod_lex Nat.lt_wfRel.wf Bench.Less.wellFounded

/-- Whether all producers are gone or a shutdown was asked for. -/
def Draining (site : Site σ) : Prop :=
  site.dock.around.fed = false ∨ site.pool.stopRequested = true

/-- The events that carry transactions on: actors move, and the consumer receives results and answers
or drops them. -/
def Event.drives : Event → Bool
  | .move _ | .user .receive | .user (.answer _ _) | .user (.discard _) => true
  | _ => false

/-- Whether an event asks for another number of lanes. -/
def Event.resizes : Event → Bool
  | .setSize _ _ => true
  | _            => false

/-! ### Room and closing -/

/-- All channels have room for something, and the dispatcher has closed the input if it has heard of a
shutdown. -/
structure Roomy (site : Site σ) (d : Dispatcher (Processor σ)) : Prop where
  output : 0 < site.dock.around.output.capacity
  lanes : ∀ lane ∈ d.lanes, 0 < lane.queue.capacity ∧ 0 < lane.output.capacity
  closing : d.closing = true → site.dock.around.input.closed = true

variable {site site' : Site σ} {d d' : Dispatcher (Processor σ)}

lemma roomy_refits (refits : Dispatcher.Refits d d')
    (lanes : ∀ lane ∈ d.lanes, 0 < lane.queue.capacity ∧ 0 < lane.output.capacity) :
    ∀ lane ∈ d'.lanes, 0 < lane.queue.capacity ∧ 0 < lane.output.capacity :=
  refits.forall_lanes (fun _ room => room) (by simp [Lane.started, Channel.new]) lanes

lemma Roomy.set (h : site.Roomy d) {i : Nat} {lane lane' : Lane (Processor σ)}
    (hl : d.lanes[i]? = some lane) (queue : lane'.queue.capacity = lane.queue.capacity)
    (output : lane'.output.capacity = lane.output.capacity)
    (hinput : site'.dock.around.input = site.dock.around.input)
    (houtput : site'.dock.around.output.capacity = site.dock.around.output.capacity) :
    site'.Roomy { d with lanes := d.lanes.set i lane' } := by
  have here := h.lanes lane (List.mem_of_getElem? hl)
  refine ⟨houtput ▸ h.output, forall_mem_set h.lanes ?_, ?_⟩
  · rw [queue, output]
    exact here
  · rw [hinput]
    exact h.closing

lemma Roomy.dispatch (h : site.Roomy d) {report : List (Nat × Transaction)}
    {pool : Pool (Processor σ)} {around : Surroundings} {journal : List (Entry σ)}
    (m : Pool.Move site.pool d site.dock.around report pool d' around) :
    Roomy ⟨{ pool with state := .running d' }, { site.dock with around }, journal⟩ d' := by
  cases m with
  | hear => exact ⟨h.output, h.lanes, fun _ => rfl⟩
  | resize hp refits | retire hp refits =>
    have lanes := roomy_refits refits h.lanes
    exact ⟨h.output, lanes, fun hc => h.closing (refits.closing.symm.trans hc)⟩
  | @hand t position i lane hp hs hl =>
    have here := h.lanes lane (List.mem_of_getElem? hl)
    exact ⟨h.output, forall_mem_set h.lanes here, h.closing⟩
  | finish => exact ⟨h.output, h.lanes, fun _ => rfl⟩
  | _ => exact ⟨h.output, h.lanes, h.closing⟩

lemma Roomy.move (h : site.Roomy d) (m : Move process site d site' d') : site'.Roomy d' := by
  cases m with
  | user hd =>
    obtain ⟨-, new, -, hinput, -⟩ := Dock.input_of_step hd
    obtain ⟨houtput, -⟩ := Dock.output_of_step hd
    refine ⟨houtput ▸ h.output, h.lanes, fun hc => ?_⟩
    rw [hinput]
    exact h.closing hc
  | dispatch m => exact h.dispatch m
  | relay hl c =>
    obtain ⟨queue, -, -, input, -⟩ := c.frame
    refine h.set hl (by rw [queue]) ?_ input ?_
    · cases c <;> rfl
    · cases c <;> rfl
  | work hl m =>
    refine h.set hl ?_ m.output.1 rfl rfl
    cases m <;> rfl
  | ask | stop => exact ⟨h.output, h.lanes, h.closing⟩
  | closeLane hl => exact h.set hl rfl rfl rfl rfl

/-- What was said so far holds of every site that can be reached. -/
lemma Opening.invariant_roomy (h : site.Opening) (output : 0 < site.dock.around.output.capacity)
    {events : List Event} (hr : site.run process events = some site') :
    ∃ d, Invariant process site' d ∧ site'.Roomy d := by
  refine runFrom_induction (P := fun site => ∃ d, Invariant process site d ∧ site.Roomy d) ?_ ?_ hr
  · rintro site site' e ⟨d, inv, roomy⟩ he
    obtain ⟨d', m, -⟩ := Move.of_step inv.orderly.state inv.orderly.made inv.orderly.strays he
    exact ⟨d', inv.move m, roomy.move m⟩
  · obtain ⟨d, inv⟩ := h.start
    obtain ⟨d', hstate, refits, -⟩ := h.started
    obtain rfl := Pool.State.running.inj (inv.orderly.state.symm.trans hstate)
    exact ⟨d, inv, output, roomy_refits refits (by simp),
      fun hc => absurd (refits.closing.symm.trans hc) (by simp)⟩

/-! ### Every step brings the end closer -/

/-- A change inside one lane does not concern a reservation if the lane keeps its room. -/
lemma burden_set {i : Nat} {lane lane' : Lane (Processor σ)} (hl : d.lanes[i]? = some lane)
    (retired : lane'.retired = lane.retired)
    (room : lane.retired = false → lane.queue.hasRoom = true → lane'.queue.hasRoom = true) :
    ({ d with lanes := d.lanes.set i lane' } : Dispatcher (Processor σ)).burden ≤ d.burden := by
  unfold Dispatcher.burden
  cases hs : d.slot with
  | empty | pending => simp
  | reserved t position =>
    simp only
    by_cases before : d.roomAt position = true
    · have after : Dispatcher.roomAt { d with lanes := d.lanes.set i lane' } position = true := by
        unfold Dispatcher.roomAt at before ⊢
        rw [Dispatcher.inUse_set hl retired]
        cases hposition : d.inUse[position]? with
        | none => simp [hposition] at before
        | some l =>
          simp only [List.getElem?_map, hposition, Option.any_some, Option.map_some] at before ⊢
          split
          next hi =>
            obtain ⟨here, used⟩ := Dispatcher.mem_inUse.mp (List.mem_of_getElem? hposition)
            rw [hi, hl] at here
            obtain rfl := Option.some.inj here
            exact room used before
          next => exact before
      rw [hs] at after
      simp [before, after]
    · simp only [before, Bool.false_eq_true, if_false]
      split <;> omega

/-- Whatever happens to the lanes, not much is lost with a reservation. -/
lemma burden_le (hs : d'.slot = d.slot) : d'.burden ≤ d.burden + 2 := by
  unfold Dispatcher.burden
  rw [hs]
  split
  next => omega
  next => omega
  next => split <;> split <;> omega

/-- It is enough to look at the dock and at the lane that something happens in. -/
lemma less_of_lane (slack : Nat) {dock dock' : Dock} {i : Nat} {lane lane' : Lane (Processor σ)}
    (hl : d.lanes[i]? = some lane)
    (hb : ({ d with lanes := d.lanes.set i lane' } : Dispatcher (Processor σ)).burden ≤
      d.burden + slack)
    (h : ∀ burden ≤ d.burden + slack, ∀ rest, Bench.Less
      (outside dock' burden d.closing + (lane'.outlook + rest))
      (outside dock d.burden d.closing + (lane.outlook + rest))) :
    Less (outlook dock' { d with lanes := d.lanes.set i lane' }) (outlook dock d) := by
  obtain ⟨rest, hsum, hset⟩ := sum_map_set hl Lane.outlook
  refine Prod.Lex.right _ ?_
  rw [hsum, hset]
  exact h _ hb rest

/-- The moves of the dispatcher. -/
lemma less_of_turn {pool pool' : Pool (Processor σ)} {dock : Dock} {around : Surroundings}
    (m : pool.Turn d dock.around pool' d' around)
    (draining : dock.around.fed = false ∨ pool.stopRequested = true)
    (closing : d.closing = true → dock.around.input.closed = true) :
    Less (outlook { dock with around } d') (outlook dock d) := by
  cases m with
  | @hand t position i lane hp hs hl room =>
    have here : d.roomAt position = true := by simp [Dispatcher.roomAt, hl, room]
    have hlane := (Dispatcher.mem_inUse.mp (List.mem_of_getElem? hl)).1
    obtain ⟨rest, hsum, hset⟩ := sum_map_set hlane Lane.outlook
    refine Prod.Lex.right _ ?_
    rw [hsum, hset]
    apply Bench.Less.of_fst
    simp [outside, Dispatcher.burden, hs, here, Lane.outlook]
    omega
  | @keep t position hp hs stale =>
    have gone : d.roomAt position = false := by
      unfold Dispatcher.roomAt
      rw [List.getElem?_map]
      cases hl : d.inUse[position]? with
      | none => rfl
      | some l => exact stale l hl
    refine Prod.Lex.right _ ?_
    apply Bench.Less.of_fst
    simp [outside, Dispatcher.burden, hs, gone]
  | hear hp hs asked hc =>
    refine Prod.Lex.right _ ?_
    apply Bench.Less.of_fst
    have shorter : dock.around.input.close.pressure dock.around.fed ≤
        dock.around.input.pressure dock.around.fed := by
      rw [Channel.pressure_of_spent (.inl rfl), Channel.queue_close]
      exact Channel.length_le_pressure
    have same : ({ d with closing := true } : Dispatcher (Processor σ)).burden = d.burden := rfl
    simp [outside, hc, same]
    omega
  | resize hp hs heard hr h =>
    obtain ⟨⟨lanes, strays, rfl⟩, -⟩ := Pool.resizeRunning_cases h
    refine Prod.Lex.left _ _ ?_
    simp [hr]
  | @choose t position hp hs h =>
    have here : Dispatcher.roomAt { d with slot := .reserved t position } position = true :=
      hasRoom_of_found h
    refine Prod.Lex.right _ ?_
    apply Bench.Less.of_fst
    simp [outside, Dispatcher.burden, hs, here]
  | refuse hp hs =>
    refine Prod.Lex.right _ ?_
    apply Bench.Less.of_fst
    simp [outside, Dispatcher.burden, hs]
  | read hp hs heard hq =>
    -- nobody can fill the place up again
    have spent : dock.around.input.closed = true ∨ dock.around.fed = false := by
      rcases draining with departed | asked
      · exact .inr departed
      · exact .inl (closing (heard asked))
    refine Prod.Lex.right _ ?_
    apply Bench.Less.of_fst
    simp [outside, Channel.pressure_of_spent, spent, Dispatcher.burden, hs, hq]
    omega
  | leave hp | finish hp =>
    refine Prod.Lex.left _ _ ?_
    simp [hp, Dispatcher.Phase.ahead]
  | retire hp =>
    obtain ⟨lanes, frame⟩ := d.shrink_frame 0 dock.around.metrics
    refine Prod.Lex.left _ _ ?_
    simp [frame, hp, Dispatcher.Phase.ahead]

lemma less_of_relay {dock : Dock} {around : Surroundings} {i : Nat}
    {lane lane' : Lane (Processor σ)} (hl : d.lanes[i]? = some lane)
    (c : Lane.Carry lane dock.around lane' around) :
    Less (outlook { dock with around } { d with lanes := d.lanes.set i lane' })
      (outlook dock d) := by
  obtain ⟨queue, -, retired, -⟩ := c.frame
  have kept := burden_set hl retired (fun _ room => queue ▸ room)
  refine less_of_lane 0 hl kept fun burden hb rest => ?_
  cases c with
  | take active hc hq =>
    apply Bench.Less.of_thd <;> simp [outside, Lane.outlook, hc, hq] <;> omega
  | deliver active hc | lose active hc =>
    apply Bench.Less.of_thd <;> simp [outside, Lane.outlook, hc] <;> omega
  | finish active hc hq =>
    apply Bench.Less.of_fst
    simp [outside, Lane.outlook, active]
    omega

/-- A worker keeps the room in its queue, unless it closes the queue because it hears of a shutdown. -/
lemma room_of_work {lane : Lane (Processor σ)} {s inner : Surroundings} {p : Processor σ}
    {reports : List (Report σ)}
    (m : Processor.Move process lane.pipeline (lane.surroundings s) reports p inner)
    (deaf : p.closing = lane.pipeline.closing) (used : lane.retired = false)
    (room : lane.queue.hasRoom = true) : inner.input.hasRoom = true := by
  cases m with
  | hear hp asked hc => simp [hc] at deaf
  | take hp hq =>
    have hq : lane.queue.queue = _ := hq
    simp only [Channel.hasRoom, hq, List.length_cons, Bool.and_eq_true, Bool.not_eq_true',
      decide_eq_true_eq] at room
    simp [Channel.hasRoom, Lane.surroundings, room.1]
    exact decide_eq_true (by omega)
  | leave hp hq spent =>
    simp only [Channel.hasRoom, Bool.and_eq_true, Bool.not_eq_true'] at room
    simp [Lane.surroundings, used, room.1] at spent
  | _ => exact room

lemma less_of_work {dock : Dock} {i : Nat} {lane : Lane (Processor σ)}
    {reports : List (Report σ)} {p : Processor σ} {inner : Surroundings}
    (hl : d.lanes[i]? = some lane)
    (m : Processor.Move process lane.pipeline (lane.surroundings dock.around) reports p inner) :
    Less
      (outlook
        { dock with
          around := { dock.around with ledger := inner.ledger, metrics := inner.metrics } }
        { d with
          lanes := d.lanes.set i
            { lane with pipeline := p, queue := inner.input, output := inner.output } })
      (outlook dock d) := by
  by_cases deaf : p.closing = lane.pipeline.closing
  · have kept : Dispatcher.burden { d with
        lanes := d.lanes.set i
          { lane with pipeline := p, queue := inner.input, output := inner.output } } ≤ d.burden :=
      burden_set hl rfl (room_of_work m deaf)
    refine less_of_lane 0 hl kept fun burden hb rest => ?_
    cases m with
    | hear hp asked hc => simp [hc] at deaf
    | take hp hq =>
      have hq : lane.queue.queue = _ := hq
      apply Bench.Less.of_fst
      simp [outside, Lane.outlook, Lane.surroundings, hp, hq, Processor.Phase.current,
        Processor.Phase.lasts]
      omega
    | leave hp | finish hp | answer hp =>
      apply Bench.Less.of_fst
      simp [outside, Lane.outlook, Lane.surroundings, hp, Processor.Phase.current,
        Processor.Phase.lasts]
      omega
    | fan hp | sent hp =>
      apply Bench.Less.of_snd
      · simpa [outside, Lane.outlook, Lane.surroundings, hp, Processor.Phase.current,
          Processor.Phase.lasts] using hb
      · simp [outside, Lane.outlook, hp, Processor.Phase.ahead]
    | put hp | lose hp | watch hp | collect hp =>
      apply Bench.Less.of_thd
      · simpa [outside, Lane.outlook, Lane.surroundings, hp, Processor.Phase.current,
          Processor.Phase.lasts] using hb
      · simp [outside, Lane.outlook, hp, Processor.Phase.ahead]
      · simp [outside, Lane.outlook, Lane.surroundings, hp, Processor.Phase.rest]
        try omega
    | collectWatched hp hf =>
      obtain ⟨hmem, -⟩ := Ledger.mem_of_firstSettled hf
      have shorter := List.length_erase_of_mem hmem
      have nonempty := List.length_pos_of_mem hmem
      apply Bench.Less.of_thd
      · simpa [outside, Lane.outlook, Lane.surroundings, hp, Processor.Phase.current,
          Processor.Phase.lasts] using hb
      · simp [outside, Lane.outlook, hp, Processor.Phase.ahead]
      · simp only [outside, Lane.outlook, Lane.surroundings, hp, Processor.Phase.rest,
          Prod.snd_add]
        omega
  · -- when the queue is closed a reservation may be lost
    refine less_of_lane 2 hl (burden_le rfl) fun burden hb rest => ?_
    cases m with
    | hear hp asked hc =>
      apply Bench.Less.of_fst
      simp [outside, Lane.outlook, Lane.surroundings, hp, hc]
      omega
    | _ => exact absurd rfl deaf

lemma less_of_drives (roomy : site.Roomy d) (draining : site.Draining) {e : Event}
    (hd : e.drives) (act : Act process site d e site' d') :
    Less (outlook site'.dock d') (outlook site.dock d) := by
  cases act with
  | @user e dock hdock =>
    refine Prod.Lex.right _ ?_
    apply Bench.Less.of_thd
    all_goals
      cases e with
      | receive =>
        simp only [Dock.step] at hdock
        split at hdock <;> cases hdock
        simp_all [outside]
        try omega
      | answer t | discard t =>
        simp only [Dock.step] at hdock
        split at hdock <;> cases hdock
        next ht =>
        have shorter := List.length_erase_of_mem ht
        have nonempty := List.length_pos_of_mem ht
        simp [outside]
        try omega
      | _ => cases hd
  | dispatch turn => exact less_of_turn turn draining roomy.closing
  | relay hl c => exact less_of_relay hl c
  | work hl m => exact less_of_work hl m
  | _ => cases hd

/-! ### Nothing makes up for it but requests -/

/-- It is enough to look at all but the dispatcher. -/
lemma eq_or_less_of_snd {n : ℕ} {m m' : ℕ × ℕ × ℕ} (h : m' = m ∨ Bench.Less m' m) :
    (n, m') = (n, m) ∨ Less (n, m') (n, m) :=
  h.imp (congrArg (Prod.mk n)) (Prod.Lex.right n)

lemma eq_or_less_of_user {dock dock' : Dock} {e : Dock.Event} (h : dock.step e = some dock') :
    outlook dock' d = outlook dock d ∨ Less (outlook dock' d) (outlook dock d) := by
  refine eq_or_less_of_snd (Bench.Less.eq_or_less_of_le ?_ le_rfl ?_)
  · refine Nat.add_le_add_right (Nat.add_le_add_right (Nat.add_le_add_right ?_ _) _) _
    refine Nat.mul_le_mul_left 5 ?_
    cases e with
    | send payload =>
      simp only [Dock.step] at h
      split at h
      next open_ =>
        cases h
        simp only [Bool.and_eq_true] at open_
        exact (Channel.pressure_push open_.1 open_.2 _).le
      next => cases h
    | depart =>
      cases h
      rw [Channel.pressure_of_spent (.inr rfl)]
      exact Channel.length_le_pressure
    | hangUp =>
      cases h
      exact le_rfl
    | _ =>
      simp only [Dock.step] at h
      split at h <;> cases h
      exact le_rfl
  · refine Nat.add_le_add_right ?_ _
    cases e with
    | receive =>
      simp only [Dock.step] at h
      split at h
      next => cases h
      next hq =>
        cases h
        simp [outside, hq]
        omega
    | answer t | discard t =>
      simp only [Dock.step] at h
      split at h <;> cases h
      simpa [outside] using List.length_erase_le
    | depart =>
      cases h
      exact le_rfl
    | hangUp =>
      cases h
      simp [outside]
    | _ =>
      simp only [Dock.step] at h
      split at h <;> cases h
      exact le_rfl

/-- A lane that is asked for a shutdown goes on with what it has. -/
lemma eq_or_less_of_closeLane {dock : Dock} {i : Nat} {lane : Lane (Processor σ)}
    (hl : d.lanes[i]? = some lane) (orderly : lane.Orderly) :
    let d' := { d with lanes := d.lanes.set i { lane with pipeline := lane.pipeline.close } }
    outlook dock d' = outlook dock d ∨ Less (outlook dock d') (outlook dock d) := by
  intro d'
  obtain ⟨rest, hsum, hset⟩ := sum_map_set hl Lane.outlook
  have same : Lane.outlook { lane with pipeline := lane.pipeline.close } = lane.outlook := by
    rw [Processor.close_of_bound orderly.bound.1]
    rfl
  have kept : d'.burden ≤ d.burden := burden_set hl rfl fun _ room => room
  refine eq_or_less_of_snd ?_
  rw [hsum, hset, same]
  refine Bench.Less.eq_or_less_of_le ?_ le_rfl le_rfl
  refine Nat.add_le_add_right (Nat.add_le_add_right ?_ _) _
  exact Nat.add_le_add_left kept _

lemma Draining.move (h : site.Draining) (m : Move process site d site' d') : site'.Draining := by
  cases m with
  | user hd =>
    refine h.imp_left fun departed => ?_
    obtain ⟨hfed, -⟩ := Dock.input_of_step hd
    rw [← Bool.not_eq_true] at departed ⊢
    exact fun fed => departed (hfed fed)
  | dispatch m => cases m <;> exact h
  | relay hl c =>
    obtain ⟨-, -, -, -, fed⟩ := c.frame
    exact h.imp_left fed.trans
  | stop => exact .inr rfl
  | _ => exact h

/-- All that is needed to see that a site comes to its end. -/
structure DrainingInvariant (process : Behaviour σ) (site : Site σ)
    (d : Dispatcher (Processor σ)) : Prop where
  invariant : Invariant process site d
  roomy : site.Roomy d
  draining : site.Draining

/-- Every event but a request for another number of lanes leaves as much to be done or less, and less
if an actor or the consumer carries something on. -/
lemma DrainingInvariant.step (h : DrainingInvariant process site d) {e : Event}
    (he : site.step process e = some site') :
    ∃ d', DrainingInvariant process site' d' ∧
      (e.resizes = false → outlook site'.dock d' = outlook site.dock d ∨
        Less (outlook site'.dock d') (outlook site.dock d)) ∧
      (e.drives → Less (outlook site'.dock d') (outlook site.dock d)) := by
  have orderly := h.invariant.orderly
  obtain ⟨d', act, -⟩ := Act.of_step orderly.state orderly.strays he
  have m := Move.of_act orderly.made act
  have drives (hd : e.drives) := less_of_drives h.roomy h.draining hd act
  refine ⟨d', ⟨h.invariant.move m, h.roomy.move m, h.draining.move m⟩, fun hr => ?_, drives⟩
  cases act with
  | user hdock => exact eq_or_less_of_user hdock
  | dispatch | relay | work => exact .inr (drives rfl)
  | ask => cases hr
  | stop => exact .inl rfl
  | closeLane hl =>
    exact eq_or_less_of_closeLane hl (orderly.lanes _ (List.mem_of_getElem? hl))

end Site

end Conveyor
