import Conveyor.Proofs.Outlet
import Mathlib.Data.Multiset.Range
import Mathlib.Tactic.Abel

/-!
# Answers of an outlet

Every transaction that was made at an outlet was sent on the input, was dropped with a refused stream, or
is on a stream that the sink was not given yet, and no two of them have a path in common. So the log
of the ledger falls apart into the answers of the worker and the losses of refused streams, and what it
says of the transactions that were sent on the input are answers only, in the order in which they came.
As long as it is bound the worker can go on until all of them are answered (`answers_until_done`).
-/

namespace Conveyor

namespace Outlet

variable {o o' : Outlet} {e : Event} {events : List Event} {response : Response}
  {answered : List Transaction}

/-! ### All transactions -/

/-- The transactions on streams that the sink was not given. -/
def waiting (loose : List Inlet) : Multiset Transaction :=
  (loose.flatMap fun inlet => inlet.channel.queue : List Transaction)

/-- All transactions that were made. -/
def made (o : Outlet) : Multiset Transaction := o.accepted + o.lost + waiting o.loose

lemma waiting_set {loose : List Inlet} {stream : Nat} {inlet : Inlet}
    (found : loose[stream]? = some inlet) (other : Inlet) :
    waiting (loose.set stream other) = other.channel.queue + waiting (loose.eraseIdx stream) := by
  obtain ⟨hlt, -⟩ := List.getElem?_eq_some_iff.mp found
  have order := List.set_perm_cons_eraseIdx hlt other
  rw [waiting, waiting, Multiset.coe_add]
  exact Multiset.coe_eq_coe.mpr (order.flatMap_right _)

lemma waiting_eraseIdx {loose : List Inlet} {stream : Nat} {inlet : Inlet}
    (found : loose[stream]? = some inlet) :
    waiting loose = inlet.channel.queue + waiting (loose.eraseIdx stream) := by
  obtain ⟨hlt, rfl⟩ := List.getElem?_eq_some_iff.mp found
  rw [← waiting_set found, List.set_getElem_self]

/-! ### Answers and losses -/

/-- What the outlet has in its books: the answers and the losses of the log, and what the senders
have found. -/
structure Accounts (o : Outlet) (response : Response) (answered : List Transaction) : Prop where
  steady : o.sink.response = response
  accepted : o.accepted = answered ++ o.sink.answering.toList ++ o.around.input.queue
  received : o.sink.received = (answered ++ o.sink.answering.toList).map Transaction.payload
  answers : o.around.ledger.settled.filter (fun e => e.2 != .abandoned) =
    answered.map fun t => (t.reply, .answered response)
  losses : o.around.ledger.settled.filter (fun e => e.2 == .abandoned) =
    o.lost.map fun t => (t.reply, .abandoned)
  /-- Each path belongs to one transaction. -/
  numbered : o.made.map Transaction.reply = Multiset.range o.around.ledger.paths.length
  sound : o.around.ledger.Sound
  found : ∀ id r, (id, .answered r) ∈ o.found → (id, .answered r) ∈ o.around.ledger.settled

lemma accounts_new (response : Response) : (new response).Accounts response [] := by
  refine ⟨rfl, rfl, rfl, rfl, rfl, rfl, .of_held rfl ?_, ?_⟩ <;> simp [new]

lemma Accounts.lt_length (h : o.Accounts response answered) {t : Transaction} (ht : t ∈ o.made) :
    t.reply < o.around.ledger.paths.length := by
  have := Multiset.mem_map_of_mem Transaction.reply ht
  rwa [h.numbered, Multiset.mem_range] at this

lemma Accounts.nodup (h : o.Accounts response answered) :
    (o.made.map Transaction.reply).Nodup :=
  h.numbered ▸ Multiset.nodup_range _

/-- A new transaction has the path that was made for it. -/
lemma Accounts.numbered_of_fresh (h : o.Accounts response answered) (payload : Message)
    (made : o'.made = ⟨payload, o.around.ledger.paths.length⟩ ::ₘ o.made)
    (ledger : o'.around.ledger = o.around.ledger.fresh.2) :
    o'.made.map Transaction.reply = Multiset.range o'.around.ledger.paths.length := by
  rw [ledger, Ledger.length_fresh, Multiset.range_succ, made, Multiset.map_cons, h.numbered]

lemma Accounts.step (h : o.Accounts response answered) (lawful : o.Lawful)
    (hs : o.step e = some o') : ∃ answered', o'.Accounts response answered' := by
  cases Happens.of_step hs with
  | make capacity =>
    refine ⟨answered, { h with numbered := ?_ }⟩
    simpa [made, waiting, Channel.new] using h.numbered
  | issue payload found =>
    refine ⟨answered, { h with
      numbered := h.numbered_of_fresh payload ?_ rfl
      sound := h.sound.fresh }⟩
    simp only [made, waiting_set found, waiting_eraseIdx found, Channel.queue_push,
      ← Multiset.coe_add, Multiset.coe_singleton, ← Multiset.singleton_add]
    abel
  | desert found =>
    refine ⟨answered, { h with numbered := ?_ }⟩
    simpa only [made, waiting_set found, waiting_eraseIdx found] using h.numbered
  | send payload fed room =>
    refine ⟨answered, { h with
      accepted := by simp [h.accepted]
      numbered := h.numbered_of_fresh payload ?_ rfl
      sound := h.sound.fresh }⟩
    simp only [made, ← Multiset.coe_add, Multiset.coe_singleton, ← Multiset.singleton_add]
    abel
  | depart => exact ⟨answered, { h with }⟩
  | look id =>
    refine ⟨answered, { h with
      numbered := h.numbered.trans (congrArg _ (Ledger.length_read _ id).symm)
      sound := h.sound.read id
      found := fun other r hf => ?_ }⟩
    rcases List.mem_append.mp hf with old | new
    · exact h.found other r old
    · obtain ⟨rfl, reading⟩ := Prod.ext_iff.mp (List.mem_singleton.mp new)
      exact h.sound.settled_of_read reading.symm
  | release id =>
    exact ⟨answered, { h with
      numbered := h.numbered.trans (congrArg _ (Ledger.length_release _ id).symm)
      sound := h.sound.release id }⟩
  | bind found unbound running =>
    obtain ⟨unsent, empty, -, free, -⟩ := lawful.unbound unbound
    have fresh : answered = [] := by simpa [unsent, empty, free] using h.accepted.symm
    refine ⟨answered, { h with
      accepted := by simp [unsent, fresh, free]
      numbered := ?_ }⟩
    rw [← h.numbered]
    simp only [made, waiting_eraseIdx found, ← Multiset.coe_add]
    congr 1
    abel
  | refuse found cause =>
    refine ⟨answered, { h with
      answers := by simp [Ledger.settled_abandonAll, h.answers]
      losses := by simp [Ledger.settled_abandonAll, h.losses]
      numbered := ?_
      sound := h.sound.abandonAll fun t ht => h.lt_length ?_
      found := fun id r hf => ?_ }⟩
    · rw [Ledger.length_abandonAll, ← h.numbered]
      simp only [made, waiting_eraseIdx found, ← Multiset.coe_add]
      congr 1
      abel
    · simp [made, waiting_eraseIdx found, ht]
    · rw [Ledger.settled_abandonAll]
      exact List.mem_append_left _ (h.found id r hf)
  | askStop holder => exact ⟨answered, { h with }⟩
  | finishClose asked =>
    rw [AnsweringSink.closeIfUnbound]
    split
    · exact ⟨answered, { h with }⟩
    · exact ⟨answered, { h with }⟩
  | work bound running move =>
    cases move with
    | hear free asked unheard => exact ⟨answered, { h with }⟩
    | take free hq =>
      exact ⟨answered, { h with
        accepted := by simp [h.accepted, free, hq]
        received := by simp [h.received, free] }⟩
    | leave free hq spent =>
      exact ⟨answered, { h with accepted := by simp [h.accepted, hq, Channel.shut] }⟩
    | @answer t busy =>
      refine ⟨answered ++ [t], { h with
        accepted := by simp [h.accepted, busy]
        received := by simp [h.received, busy]
        answers := by simp [h.answers, h.steady]
        losses := by simp [h.losses]
        numbered := h.numbered.trans (congrArg _ (Ledger.length_respond _ _ _).symm)
        sound := h.sound.respond (h.lt_length ?_) _
        found := fun id r hf => List.mem_append_left _ (h.found id r hf) }⟩
      simp [made, h.accepted, busy]

lemma accounts_of_run (hr : (new response).run events = some o) :
    ∃ answered, o.Accounts response answered := by
  refine (runFrom_induction (P := fun o => o.Lawful ∧ ∃ answered, o.Accounts response answered)
    ?_ ⟨lawful_new response, [], accounts_new response⟩ hr).2
  rintro s s' e ⟨lawful, answered, h⟩ hs
  exact ⟨lawful.step hs, h.step lawful hs⟩

/-! ### What was sent on the input -/

/-- How those fare who sent on the input: these transactions are answered, each once and all alike, in
the order in which they came; the next one may be recorded already, and the rest is queued. -/
structure Serves (o : Outlet) (response : Response) (answered : List Transaction) : Prop where
  order : o.accepted = answered ++ o.sink.answering.toList ++ o.around.input.queue
  received : o.sink.received = (answered ++ o.sink.answering.toList).map Transaction.payload
  distinct : (o.accepted.map Transaction.reply).Nodup
  log : o.around.ledger.settled.filter (fun e => e.1 ∈ o.accepted.map Transaction.reply) =
    answered.map fun t => (t.reply, .answered response)
  /-- What a sender finds that still listens. -/
  reading : ∀ t ∈ o.accepted, (o.around.ledger.path t.reply).receiver = .listening →
    (o.around.ledger.read t.reply).1 = if t ∈ answered then .answered response else .pending
  /-- Whoever has found an answer finds that the message was recorded. -/
  told : ∀ t ∈ o.accepted, ∀ r, (t.reply, .answered r) ∈ o.found → r = response ∧ t ∈ answered

lemma Accounts.mem_accepted (h : o.Accounts response answered) {t : Transaction}
    (ht : t ∈ answered) : t ∈ o.accepted := by
  simp [h.accepted, ht]

lemma Accounts.distinct (h : o.Accounts response answered) :
    (o.accepted.map Transaction.reply).Nodup ∧
      ∀ t ∈ o.accepted, ∀ u ∈ o.lost, t.reply ≠ u.reply := by
  have nodup := h.nodup
  rw [made, Multiset.map_add, Multiset.map_add, Multiset.nodup_add, Multiset.nodup_add] at nodup
  obtain ⟨⟨accepted, -, apart⟩, -⟩ := nodup
  refine ⟨by simpa using accepted, fun t ht u hu same => ?_⟩
  refine Multiset.disjoint_left.mp apart (Multiset.mem_map_of_mem Transaction.reply ht) ?_
  exact same ▸ Multiset.mem_map_of_mem Transaction.reply hu

/-- An entry of the log is about the input exactly if it is an answer: losses have other paths. -/
lemma Accounts.log (h : o.Accounts response answered) :
    o.around.ledger.settled.filter (fun e => e.1 ∈ o.accepted.map Transaction.reply) =
      answered.map fun t => (t.reply, .answered response) := by
  rw [← h.answers]
  refine List.filter_congr fun ⟨id, e⟩ he => ?_
  by_cases lost : e = .abandoned
  · have loss : (id, e) ∈ o.lost.map fun t => (t.reply, Ending.abandoned) :=
      h.losses ▸ List.mem_filter.mpr ⟨he, by simp [lost]⟩
    obtain ⟨u, hu, entry⟩ := List.mem_map.mp loss
    obtain ⟨rfl, -⟩ := Prod.ext_iff.mp entry
    simpa [lost] using fun t ht => h.distinct.2 t ht u hu
  · have answer : (id, e) ∈ answered.map fun t => (t.reply, Ending.answered response) :=
      h.answers ▸ List.mem_filter.mpr ⟨he, by simp [lost]⟩
    obtain ⟨t, ht, entry⟩ := List.mem_map.mp answer
    obtain ⟨rfl, -⟩ := Prod.ext_iff.mp entry
    exact (decide_eq_true (List.mem_map_of_mem (h.mem_accepted ht))).trans (bne_iff_ne.mpr lost).symm

/-- What the log says of a transaction that was sent on the input. -/
lemma Accounts.eq_answered (h : o.Accounts response answered) {t : Transaction} {e : Ending}
    (ht : t ∈ o.accepted) (he : (t.reply, e) ∈ o.around.ledger.settled) :
    e = .answered response ∧ t ∈ answered := by
  have entry : (t.reply, e) ∈ answered.map fun t => (t.reply, Ending.answered response) :=
    h.log ▸ List.mem_filter.mpr ⟨he, decide_eq_true (List.mem_map_of_mem ht)⟩
  obtain ⟨u, hu, entry⟩ := List.mem_map.mp entry
  obtain ⟨same, rfl⟩ := Prod.ext_iff.mp entry
  obtain rfl : u = t := List.inj_on_of_nodup_map h.distinct.1 (h.mem_accepted hu) ht same
  exact ⟨rfl, hu⟩

lemma Accounts.serves (h : o.Accounts response answered) : o.Serves response answered where
  order := h.accepted
  received := h.received
  distinct := h.distinct.1
  log := h.log
  reading := by
    intro t ht listening
    have lt := h.lt_length (t := t) (by simp [made, ht])
    cases sender : (o.around.ledger.path t.reply).sender with
    | held =>
      have unanswered : t ∉ answered := fun hmem => by
        have entry : (t.reply, .answered response) ∈ o.around.ledger.settled :=
          List.mem_of_mem_filter (h.log ▸ List.mem_map_of_mem hmem)
        exact h.sound.unsettled t.reply sender _ entry rfl
      simp [Ledger.read, ResponsePath.tryReceive, listening, sender, unanswered]
    | sent r =>
      obtain ⟨same, hmem⟩ := h.eq_answered ht (h.sound.answered _ r sender)
      cases same
      simp [Ledger.read, ResponsePath.tryReceive, listening, sender, hmem]
    | dropped =>
      have entry := h.sound.abandoned _ lt sender (by simp [listening])
      cases (h.eq_answered ht entry).1
  told := fun t ht r hf => by
    obtain ⟨same, hmem⟩ := h.eq_answered ht (h.found _ r hf)
    cases same
    exact ⟨rfl, hmem⟩

/-- A bound worker rests only after it has left, or while it waits for producers without any shutdown
to heed. -/
lemma Accounts.eq_of_rest (h : o.Accounts response answered) (lawful : o.Lawful)
    (bound : o.sink.bound = true) (rest : o.step .work = none) :
    answered = o.accepted ∧
      (o.sink.ended = true ∨ o.sink.stopRequested = false ∧ o.around.fed = true) := by
  by_cases left : o.sink.ended = true
  · obtain ⟨free, empty, -⟩ := lawful.ended left
    exact ⟨by simp [h.accepted, free, empty], .inl left⟩
  · obtain ⟨free, empty, unclosed, fed, heard⟩ := AnsweringSink.waits_of_step bound
      (by simpa using left) (Option.map_eq_none_iff.mp rest)
    refine ⟨by simp [h.accepted, free, empty], .inr ⟨?_, fed⟩⟩
    by_contra asked
    have closed := lawful.closing (heard (by simpa using asked))
    simp [closed] at unclosed

lemma same_of_work (hs : o.step .work = some o') :
    o'.accepted = o.accepted ∧ o'.sink.bound = true := by
  cases Happens.of_step hs with
  | work bound running move => cases move <;> exact ⟨rfl, bound⟩

lemma Accounts.effort_le (h : o.Accounts response answered) :
    o.effort ≤ 2 * o.accepted.length + 2 := by
  have received : o.sink.received.length ≤ o.accepted.length := by
    simp [h.received, h.accepted]
  have closing := Bool.toNat_le o.sink.closing
  have ended := Bool.toNat_le o.sink.ended
  rw [effort]
  omega

/-- Left alone, the worker answers everything that was sent to it; it cannot make more moves than
the messages and a shutdown are worth. -/
lemma Accounts.drains (h : o.Accounts response answered) (lawful : o.Lawful)
    (bound : o.sink.bound = true) :
    ∃ n o', o.run (.replicate n .work) = some o' ∧ o'.accepted = o.accepted ∧
      o'.Serves response o.accepted := by
  induction size : 2 * o.accepted.length + 2 + o.sink.answering.toList.length - o.effort
    using Nat.strong_induction_on generalizing o answered with
  | h left ih =>
    cases hs : o.step .work with
    | none =>
      obtain ⟨rfl, -⟩ := h.eq_of_rest lawful bound hs
      exact ⟨0, o, rfl, rfl, h.serves⟩
    | some next =>
      obtain ⟨accepted, bound⟩ := same_of_work hs
      obtain ⟨answered, accounts⟩ := h.step lawful hs
      have fewer : 2 * next.accepted.length + 2 + next.sink.answering.toList.length
          - next.effort < left := by
        have effort : next.effort + o.sink.answering.toList.length =
            o.effort + next.sink.answering.toList.length + 1 := effort_of_step hs
        have le := accounts.effort_le
        rw [accepted] at le ⊢
        omega
      obtain ⟨n, o', hr, same, serves⟩ := ih _ fewer accounts (lawful.step hs) bound rfl
      refine ⟨n + 1, o', ?_, same.trans accepted, accepted ▸ serves⟩
      rwa [run, List.replicate_succ, runFrom, hs, Option.bind_some]

lemma Lawful.spent_of_done (h : o.Lawful) (done : o.sink.done = true) :
    o.around.input.queue = [] ∧ o.sink.answering = none ∧
      (o.sink.bound = true → o.sink.ended = true) ∧ ∀ payload, o.step (.send payload) = none := by
  rcases h.done.mp done with left | ⟨unbound, -⟩
  · obtain ⟨free, empty, closed⟩ := h.ended left
    exact ⟨empty, free, fun _ => left, fun payload => by
      simp [Outlet.step, Channel.hasRoom, closed]⟩
  · obtain ⟨-, empty, unfed, free, -⟩ := h.unbound unbound
    exact ⟨empty, free, by simp [unbound], fun payload => by simp [Outlet.step, unfed]⟩

/-- Whatever holders, senders and the worker do, and in whichever order: at most one stream is bound. What
is sent on it is answered in order, and recorded before it is answered, with two moves of the worker for
each message. The worker can rest only when everything is answered, and has then left or waits for
producers without a shutdown to heed; left alone it gets there. The sink is done only when nothing is
left and nothing can come. When a shutdown was asked for before a stream was bound, all streams are
refused from then on, and the sink is done as soon as a shutdown returns. -/
theorem answers_until_done (hr : (new response).run events = some o) :
    o.bindings ≤ 1 ∧
      (∃ answered, o.Serves response answered ∧
        events.count .work = answered.length + o.sink.received.length +
          o.sink.closing.toNat + o.sink.ended.toNat ∧
        (o.sink.bound = true → o.step .work = none → answered = o.accepted ∧
          (o.sink.ended = true ∨ o.sink.stopRequested = false ∧ o.around.fed = true))) ∧
      (o.sink.bound = true → ∃ n o', o.run (.replicate n .work) = some o' ∧
        o'.accepted = o.accepted ∧ o'.Serves response o.accepted) ∧
      (o.sink.done = true → o.around.input.queue = [] ∧ o.sink.answering = none ∧
        (o.sink.bound = true → o.sink.ended = true) ∧ ∀ payload, o.step (.send payload) = none) ∧
      (o.bindings = 0 → ∀ holder later o', o.run (.askStop holder :: later) = some o' →
        o'.bindings = 0 ∧ ∃ more, o'.replies = o.replies ++ more ∧
          (∀ reply ∈ more, reply = .closed ∨ reply = .consumed (.error .closed)) ∧
          (.closed ∈ more → o'.sink.done = true)) := by
  have lawful := lawful_of_run hr
  obtain ⟨answered, accounts⟩ := accounts_of_run hr
  refine ⟨?_, ⟨answered, accounts.serves, ?_, accounts.eq_of_rest lawful⟩,
    accounts.drains lawful, lawful.spent_of_done, fun unserved holder later o' hr' => ?_⟩
  · rw [lawful.bindings]
    split <;> decide
  · have effort : o.effort = o.sink.answering.toList.length + events.count .work := by
      simpa [Outlet.effort, new] using effort_of_run hr
    have received : o.sink.received.length = answered.length + o.sink.answering.toList.length := by
      simp [accounts.received]
    rw [Outlet.effort] at effort
    omega
  · have unbound : o.sink.bound = false := by simpa [lawful.bindings] using unserved
    have lawful' : o'.Lawful := runFrom_induction Lawful.step lawful hr'
    rw [run, runFrom, Outlet.step, Option.bind_some] at hr'
    obtain ⟨unbound', -, more, replies, all⟩ := closed_of_run hr' unbound rfl
    refine ⟨by simp [lawful'.bindings, unbound'], more, replies, all, fun returned => ?_⟩
    exact lawful'.done.mpr (.inr ⟨unbound', replies ▸ List.mem_append_right _ returned⟩)

/-- A shutdown begins while the worker answers the first message of its stream. Another stream is refused
before the shutdown returns, and what is sent in the meantime is still answered. -/
def course : List Event :=
  [.make 2, .make 1, .issue 0 (.ofStrings ["a"]), .issue 1 (.ofStrings ["b"]), .consume 0, .work,
    .send (.ofStrings ["c"]), .askStop 1, .consume 0, .send (.ofStrings ["d"]), .work, .look 0, .work,
    .finishClose 1, .work, .work, .work, .work, .work]

/-- A stream comes between the two steps of a shutdown of a sink that was never bound. -/
def early : List Event := [.make 1, .issue 0 (.ofStrings ["a"]), .consume 0, .finishClose 1]

theorem answers_until_done_course :
    (∃ o, (new (.error (.delivery "full"))).run course = some o ∧ o.bindings ≤ 1 ∧
      o.sink.done = true ∧ (∀ payload, o.step (.send payload) = none) ∧
      ∃ answered, o.Serves (.error (.delivery "full")) answered ∧
        answered.map Transaction.reply = [0, 2, 3]) ∧
    ∃ o, (new .ack).run (.askStop 1 :: early) = some o ∧ o.bindings = 0 ∧
      o.replies = [.consumed (.error .closed), .closed] ∧ o.sink.done = true := by
  constructor
  · obtain ⟨o, hr, ho⟩ := Option.map_eq_some_iff.mp
      (show ((new (.error (.delivery "full"))).run course).map (fun o =>
          (o.sink.done, o.accepted.map Transaction.reply)) = some (true, [0, 2, 3]) by
        decide +kernel)
    obtain ⟨done, accepted⟩ := Prod.ext_iff.mp ho
    obtain ⟨bindings, ⟨answered, serves, -⟩, -, spent, -⟩ := answers_until_done hr
    obtain ⟨empty, free, -, refused⟩ := spent done
    refine ⟨o, hr, bindings, done, refused, answered, serves, ?_⟩
    simpa [serves.order, empty, free] using accepted
  · obtain ⟨o, hr, replies⟩ := Option.map_eq_some_iff.mp
      (show ((new .ack).run (.askStop 1 :: early)).map Outlet.replies =
          some [.consumed (.error .closed), .closed] by decide +kernel)
    obtain ⟨-, -, -, -, refused⟩ := answers_until_done (show (new .ack).run [] = some _ from rfl)
    obtain ⟨bindings, more, same, -, done⟩ := refused rfl 1 early o hr
    have returned : .closed ∈ o.replies := by simp [replies]
    rw [same] at returned
    exact ⟨o, hr, bindings, replies, done returned⟩

end Outlet

end Conveyor
