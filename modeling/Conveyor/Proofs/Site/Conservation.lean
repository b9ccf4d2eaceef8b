import Conveyor.Proofs.Site.Invariant

/-!
# No transaction is lost or duplicated

A transaction that was accepted at a site is at any time in exactly one place
(`Site.accepted_in_one_place`): it waits in the input, in the hands of the dispatcher or in the queue
of one lane, it is in progress in one lane, or it was answered once, and then it stays so.
-/

namespace Conveyor

variable {σ : Type} {process : Behaviour σ}

/-! ### Answers -/

/-- The responses that were given on a path, the first one first. -/
def Ledger.responses (l : Ledger) (id : Nat) : List Response :=
  l.settled.filterMap fun
    | (path, .answered response) => if path = id then some response else none
    | (_, .abandoned)            => none

lemma Ledger.mem_responses {l : Ledger} {id : Nat} {r : Response} :
    r ∈ l.responses id ↔ (id, .answered r) ∈ l.settled := by
  simp only [responses, List.mem_filterMap]
  constructor
  · rintro ⟨⟨path, e⟩, he, hr⟩
    cases e with
    | answered response =>
      simp only [Option.ite_none_right_eq_some, Option.some.injEq] at hr
      obtain ⟨rfl, rfl⟩ := hr
      exact he
    | abandoned => cases hr
  · exact fun h => ⟨_, h, by simp⟩

lemma Ledger.responses_grow {l l' : Ledger} (h : l.settled <+: l'.settled) (id : Nat) :
    l.responses id <+: l'.responses id := h.filterMap _

/-- A path that was never abandoned has as many responses as ends. -/
lemma Ledger.length_responses {l : Ledger} {id : Nat}
    (h : (id, .abandoned) ∉ l.settled) : (l.responses id).length = l.ended.count id := by
  unfold responses ended
  generalize l.settled = settled at h
  induction settled with
  | nil => rfl
  | cons e settled ih =>
    have ih := ih fun hmem => h (List.mem_cons_of_mem _ hmem)
    obtain ⟨path, e⟩ := e
    by_cases hid : path = id
    · subst hid
      cases e with
      | answered r => simpa using ih
      | abandoned => exact absurd (List.mem_cons_self ..) h
    · cases e <;> simpa [hid, List.count_cons] using ih

/-! ### Places -/

namespace Site

/-- Where a transaction can be: in the input of the pool, in the hands of the dispatcher, in the queue
of a lane, or in the hands of its worker; or it was answered. -/
inductive Place where
  | queued
  | pending
  | waiting (lane : Nat)
  | inProgress (lane : Nat)
  | answered
deriving DecidableEq

/-- The places in one lane where the transaction with a path is. -/
def lanePlaces (id : Nat) (lane : Lane (Processor σ)) (i : Nat) : List Place :=
  List.replicate ((replies lane.queue.queue).count id) (.waiting i) ++
    List.replicate (lane.pipeline.work.count id) (.inProgress i)

/-- The places where the transaction with a path is, each as many times as it is there. -/
def places (site : Site σ) (id : Nat) : List Place :=
  match site.pool.dispatcher? with
  | none   => []
  | some d =>
    List.replicate ((replies site.dock.around.input.queue).count id) .queued ++
      List.replicate ((replies d.slot.waiting).count id) .pending ++
      (d.lanes.zipIdx.flatMap fun (lane, i) => lanePlaces id lane i) ++
      (site.dock.around.ledger.responses id).map fun _ => .answered

variable {site site' start : Site σ} {d d' : Dispatcher (Processor σ)}

lemma length_lanePlaces (id : Nat) (lanes : List (Lane (Processor σ))) (first : Nat) :
    ((lanes.zipIdx first).flatMap fun (lane, i) => lanePlaces id lane i).length =
      ((lanes.map Lane.work).sum).count id := by
  induction lanes generalizing first with
  | nil => rfl
  | cons lane lanes ih =>
    rw [List.zipIdx_cons, List.flatMap_cons, List.length_append, ih, List.map_cons, List.sum_cons,
      Multiset.count_add]
    simp [lanePlaces, Lane.work, Nat.add_comm]

/-- An accepted transaction has as many places as the books have entries for it. -/
lemma Invariant.length_places (h : Invariant process site d) {id : Nat}
    (hid : id ∈ replies site.dock.accepted) :
    (site.places id).length =
      (site.books d).work.count id + site.dock.around.ledger.ended.count id := by
  have hd : site.pool.dispatcher? = some d := h.orderly.dispatcher
  have kept : (id, .abandoned) ∉ site.dock.around.ledger.settled := fun habandoned =>
    h.balanced.disjoint hid (h.balanced.abandoned_emitted id habandoned)
  simp only [places, hd, List.length_append, List.length_replicate, length_lanePlaces,
    List.length_map, Ledger.length_responses kept, books, Dock.books, Multiset.count_add,
    Dispatcher.total]
  omega

lemma Invariant.place (h : Invariant process site d) {t : Transaction}
    (ht : t ∈ site.dock.accepted) : ∃ place, site.places t.reply = [place] := by
  have hid : t.reply ∈ replies site.dock.accepted := mem_replies.mpr ⟨t, ht, rfl⟩
  rw [← List.length_eq_one_iff, h.length_places hid]
  exact h.balanced.count_eq_one hid

lemma Invariant.count_answered (h : Invariant process site d) (id : Nat) :
    (site.places id).count .answered = (site.dock.around.ledger.responses id).length := by
  have hd : site.pool.dispatcher? = some d := h.orderly.dispatcher
  have lanes : (d.lanes.zipIdx.flatMap fun (lane, i) => lanePlaces id lane i).count .answered = 0 :=
    List.count_eq_zero.mpr (by simp [lanePlaces, List.mem_replicate])
  simp only [places, hd, List.count_append, lanes]
  simp [List.count_replicate, List.map_const']

/-- An accepted transaction is answered when it has a response, and then it has just one. -/
lemma Invariant.place_answered (h : Invariant process site d) {t : Transaction}
    (ht : t ∈ site.dock.accepted) :
    site.places t.reply = [.answered] ∧
        (∃ response, site.dock.around.ledger.responses t.reply = [response]) ∨
      .answered ∉ site.places t.reply ∧ site.dock.around.ledger.responses t.reply = [] := by
  obtain ⟨place, hplace⟩ := h.place ht
  have count := h.count_answered t.reply
  by_cases hp : place = .answered
  · subst hp
    rw [hplace] at count
    exact .inl ⟨hplace, List.length_eq_one_iff.mp count.symm⟩
  · have absent : .answered ∉ site.places t.reply := by simpa [hplace] using Ne.symm hp
    rw [List.count_eq_zero.mpr absent] at count
    exact .inr ⟨absent, List.eq_nil_of_length_eq_zero count.symm⟩

/-! ### What only grows -/

lemma Move.accepted_grows (m : Move process site d site' d') :
    site.dock.accepted <+: site'.dock.accepted := by
  cases m with
  | user hd =>
    obtain ⟨-, new, haccepted, -⟩ := Dock.input_of_step hd
    exact haccepted ▸ List.prefix_append _ _
  | _ => exact List.prefix_rfl

/-- While a site goes on, what was accepted stays so, and the log only grows. -/
lemma Invariant.grows (h : Invariant process site d) {events : List Event}
    (hr : site.run process events = some site') :
    site.dock.accepted <+: site'.dock.accepted ∧
      site.dock.around.ledger.settled <+: site'.dock.around.ledger.settled := by
  have grown : (∃ d, Invariant process site' d) ∧ site.dock.accepted <+: site'.dock.accepted ∧
      site.dock.around.ledger.settled <+: site'.dock.around.ledger.settled := by
    refine runFrom_induction (P := fun later => (∃ d, Invariant process later d) ∧
      site.dock.accepted <+: later.dock.accepted ∧
      site.dock.around.ledger.settled <+: later.dock.around.ledger.settled) ?_
      ⟨⟨d, h⟩, List.prefix_rfl, List.prefix_rfl⟩ hr
    rintro later next e ⟨⟨d, inv⟩, haccepted, hsettled⟩ he
    obtain ⟨d', m, -⟩ := Move.of_step inv.orderly.state inv.orderly.made inv.orderly.strays he
    refine ⟨⟨d', inv.move m⟩, haccepted.trans m.accepted_grows, hsettled.trans ?_⟩
    exact (inv.orderly.books_move inv.balanced m).settled_grows
  exact grown.2

/-- At any time, every transaction that was accepted is in exactly one place, and once it was
answered it stays answered, with the same response. -/
theorem accepted_in_one_place (opening : start.Opening) {events : List Event}
    (hr : start.run process events = some site) :
    (site.dock.accepted.map Transaction.reply).Nodup ∧
      ∀ t ∈ site.dock.accepted, ∃ place, site.places t.reply = [place] ∧
        (place = .answered → ∃ response,
          site.dock.around.ledger.responses t.reply = [response] ∧
          ∀ more later, site.run process more = some later →
            later.places t.reply = [.answered] ∧
              later.dock.around.ledger.responses t.reply = [response]) := by
  obtain ⟨d, inv⟩ := opening.invariant hr
  refine ⟨inv.balanced.nodup_accepted, fun t ht => ?_⟩
  obtain ⟨place, hplace⟩ := inv.place ht
  refine ⟨place, hplace, ?_⟩
  rintro rfl
  obtain ⟨-, response, hresponse⟩ | ⟨absent, -⟩ := inv.place_answered ht
  · refine ⟨response, hresponse, fun more later hmore => ?_⟩
    obtain ⟨haccepted, hsettled⟩ := inv.grows hmore
    obtain ⟨d', inv'⟩ := opening.invariant ((runFrom_append hr).trans hmore)
    have longer := Ledger.responses_grow hsettled t.reply
    rw [hresponse] at longer
    obtain ⟨hplace', response', hresponse'⟩ | ⟨-, none⟩ :=
      inv'.place_answered (haccepted.subset ht)
    · rw [hresponse'] at longer ⊢
      obtain rfl : response = response' := by simpa using longer
      exact ⟨hplace', rfl⟩
    · simp [none] at longer
  · simp [hplace] at absent

theorem accepted_in_one_place_small :
    ∃ site, small.run fickle (course.take 12) = some site ∧
      site.dock.accepted = [⟨.empty, 0⟩, ⟨.empty, 1⟩] ∧
      (∃ place, site.places 0 = [place]) ∧ ∃ place, site.places 1 = [place] := by
  obtain ⟨site, hr, ha⟩ := Option.map_eq_some_iff.mp
    (show (small.run fickle (course.take 12)).map (fun site => site.dock.accepted) =
      some [⟨.empty, 0⟩, ⟨.empty, 1⟩] by decide +kernel)
  obtain ⟨-, h⟩ := accepted_in_one_place opening_small hr
  obtain ⟨first, hfirst, -⟩ := h ⟨.empty, 0⟩ (by simp [ha])
  obtain ⟨second, hsecond, -⟩ := h ⟨.empty, 1⟩ (by simp [ha])
  exact ⟨site, hr, ha, ⟨first, hfirst⟩, ⟨second, hsecond⟩⟩

end Site

end Conveyor
