import Conveyor.Proofs.Site.Draining

/-!
# Sites come to rest

As long as nobody sends anything, the actors of a site and its consumer cannot go on forever, also when
the producers are still there (`Site.Invariant.acc_drives`). For they do nothing that they could not do if
the producers were gone, and then every step brings the end closer.
-/

namespace Conveyor

variable {σ : Type} {process : Behaviour σ}

/-! ### Without producers -/

/-- The same surroundings without producers. -/
def Surroundings.unfed (s : Surroundings) : Surroundings := { s with fed := false }

/-- The same dock without producers. -/
def Dock.unfed (d : Dock) : Dock := { d with around := d.around.unfed }

/-- The same site without producers. -/
def Site.unfed (site : Site σ) : Site σ := { site with dock := site.dock.unfed }

/-- A dispatcher does not wait longer for a transaction when the producers are gone. -/
lemma Pool.Turn.unfed {pool pool' : Pool (Processor σ)} {d d' : Dispatcher (Processor σ)}
    {s s' : Surroundings} (turn : Turn pool d s pool' d' s') :
    Turn pool d s.unfed pool' d' s'.unfed := by
  cases turn with
  | hand hp hs hl room => exact .hand hp hs hl room
  | keep hp hs stale => exact .keep hp hs stale
  | hear hp hs asked hc => exact .hear hp hs asked hc
  | resize hp hs heard hr h => exact .resize hp hs heard hr h
  | choose hp hs h => exact .choose hp hs h
  | refuse hp hs h => exact .refuse hp hs h
  | read hp hs heard hq => exact .read hp hs heard hq
  | leave hp hs heard hq => exact .leave hp hs heard hq (.inr rfl)
  | retire hp => exact .retire hp
  | finish hp all => exact .finish hp all

lemma Lane.Carry.unfed {lane lane' : Lane (Processor σ)} {s s' : Surroundings}
    (c : Carry lane s lane' s') : Carry lane s.unfed lane' s'.unfed := by
  cases c with
  | take active hc hq => exact .take active hc hq
  | deliver active hc room => exact .deliver active hc room
  | lose active hc closed => exact .lose active hc closed
  | finish active hc hq spent => exact .finish active hc hq spent

namespace Site

variable {site site' : Site σ} {d d' : Dispatcher (Processor σ)} {e : Event}

/-- The consumer does not need the producers. -/
lemma unfed_step {dock dock' : Dock} {e : Dock.Event} (hd : Event.drives (.user e))
    (h : dock.step e = some dock') : dock.unfed.step e = some dock'.unfed := by
  cases e with
  | receive =>
    simp only [Dock.step] at h
    split at h
    next => cases h
    next t rest hq =>
      cases h
      simp [Dock.step, Dock.unfed, Surroundings.unfed, hq]
  | answer t | discard t =>
    simp only [Dock.step] at h
    split at h
    next ht =>
      cases h
      simp [Dock.step, Dock.unfed, Surroundings.unfed, ht]
    next => cases h
  | _ => cases hd

/-- Whatever carries transactions on does so without producers too. -/
lemma Act.unfed (act : Act process site d e site' d') (hd : e.drives) :
    Act process site.unfed d e site'.unfed d' := by
  cases act with
  | user h => exact .user (unfed_step hd h)
  | dispatch turn => exact .dispatch turn.unfed
  | relay hl c => exact .relay hl c.unfed
  | work hl m => exact .work hl m
  | ask | stop | closeLane => cases hd

/-! ### Standstill -/

/-- The actors and the consumer cannot go on forever by themselves. -/
theorem Invariant.acc_drives (h : Invariant process site d) (roomy : site.Roomy d) :
    Acc (fun later now : Site σ => ∃ e : Event, e.drives ∧ now.step process e = some later) site := by
  generalize houtlook : outlook site.unfed.dock d = left
  induction left using Less.wellFounded.induction generalizing site d with
  | _ left ih =>
    refine Acc.intro _ ?_
    rintro later ⟨e, hd, he⟩
    obtain ⟨d', act, -⟩ := Act.of_step h.orderly.state h.orderly.strays he
    have m : Move process site d later d' := .of_act h.orderly.made act
    have room : site.unfed.Roomy d := ⟨roomy.output, roomy.lanes, roomy.closing⟩
    have less : Less (outlook later.unfed.dock d') (outlook site.unfed.dock d) :=
      less_of_drives room (.inl rfl) hd (act.unfed hd)
    exact ih _ (houtlook ▸ less) (h.move m) (roomy.move m) rfl

end Site

end Conveyor
