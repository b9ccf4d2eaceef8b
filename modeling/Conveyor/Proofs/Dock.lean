import Conveyor.Pipeline
import Conveyor.Proofs.Books

/-!
# Docks

A dock is what lies around a pipeline together with its users: producers send transactions and look
for the answers, and a consumer receives results and answers or drops them. The users may do so in
any order and at any time (`Dock.step`). What they do keeps the books balanced
(`Dock.books_of_step`).
-/

namespace Conveyor

/-- The surroundings of a pipeline, with what its users have and had. -/
structure Dock where
  around : Surroundings
  /-- The results that the consumer has received and neither answered nor dropped. -/
  held : List Transaction := []
  /-- All transactions that were sent on the input, the oldest first. -/
  accepted : List Transaction := []
  /-- All results that the consumer has received, the oldest first. -/
  received : List Transaction := []
deriving DecidableEq, Inhabited

/-- What a user can do. Producers send transactions, look for the answers on their paths and release
these paths; the last of them drops the input when it departs. The consumer receives results,
answers or discards them, and drops the output with the results inside when it hangs up. -/
inductive Dock.Event where
  | send (payload : Message)
  | depart
  | look (id : Nat)
  | release (id : Nat)
  | receive
  | answer (t : Transaction) (response : Response)
  | discard (t : Transaction)
  | hangUp
deriving DecidableEq, Inhabited

namespace Dock

/-- The dock after what a user does, if the user can do it now. -/
def step (d : Dock) : Event → Option Dock
  | .send payload =>
    if d.around.fed && d.around.input.hasRoom then
      let (reply, ledger) := d.around.ledger.fresh
      let t : Transaction := { payload, reply }
      some { d with
        around := { d.around with input := d.around.input.push t, ledger }
        accepted := d.accepted ++ [t] }
    else none
  | .depart => some { d with around := { d.around with fed := false } }
  | .look id =>
    if d.accepted.any (·.reply = id) then
      some { d with around := { d.around with ledger := (d.around.ledger.read id).2 } }
    else none
  | .release id =>
    if d.accepted.any (·.reply = id) then
      some { d with around := { d.around with ledger := d.around.ledger.release id } }
    else none
  | .receive =>
    match d.around.output.queue with
    | []        => none
    | t :: rest =>
      some { d with
        around := { d.around with output := { d.around.output with queue := rest } }
        held := d.held ++ [t]
        received := d.received ++ [t] }
  | .answer t response =>
    if t ∈ d.held then
      some { d with
        around := { d.around with ledger := (d.around.ledger.respond t.reply response).2 }
        held := d.held.erase t }
    else none
  | .discard t =>
    if t ∈ d.held then
      some { d with
        around := { d.around with ledger := d.around.ledger.abandon t.reply }
        held := d.held.erase t }
    else none
  | .hangUp =>
    some { d with
      around := { d.around with
        output := d.around.output.shut
        ledger := d.around.ledger.abandonAll d.around.output.queue } }

/-- A dock where a pipeline has just bound the input: transactions may wait in the input already,
and none has been answered. -/
structure Opening (d : Dock) : Prop where
  held : d.held = []
  received : d.received = []
  output : d.around.output.queue = []
  accepted : d.accepted = d.around.input.queue
  nodup : (d.accepted.map Transaction.reply).Nodup
  lt_length : ∀ t ∈ d.accepted, t.reply < d.around.ledger.paths.length
  settled : d.around.ledger.settled = []
  pending : ∀ path ∈ d.around.ledger.paths, path.sender = .held

/-- The books of a dock, on top of those of the pipeline. -/
def books (d : Dock) (rest : Books) : Books where
  work := replies d.around.input.queue + rest.work
  goods := replies d.around.output.queue + (replies d.held + rest.goods)
  awaited := rest.awaited
  accepted := replies d.accepted
  emitted := rest.emitted
  ledger := d.around.ledger

variable {d d' : Dock} {rest : Books} {e : Event}

/-- The books of a pipeline that has done nothing yet balance. -/
lemma Opening.balanced (h : d.Opening) (hwork : rest.work = 0) (hgoods : rest.goods = 0)
    (hawaited : rest.awaited = 0) (hemitted : rest.emitted = 0) : (d.books rest).Balanced where
  ledger := .of_held h.settled h.pending
  balance := by
    simp [books, h.held, h.output, h.accepted, hwork, hgoods, hemitted, Ledger.ended, h.settled]
  nodup := by simpa [books, hemitted, replies] using h.nodup
  lt_length := by simpa [books, hemitted, replies] using h.lt_length
  work_accepted := by simp [books, hwork, h.accepted]
  goods_emitted := by simp [books, h.held, h.output, hgoods]
  abandoned_emitted := by simp [books, h.settled]
  awaited_le := by simp [books, hawaited, hemitted]
  listening := by simp [books, hawaited]
  resolved := by simp [books, hemitted]

/-- The results inside the output are dropped, one after the other. -/
lemma steps_abandonAll (b : Books) (ts : List Transaction) {goods : Multiset Nat}
    (hg : b.goods = replies ts + goods) :
    Books.Steps b { b with goods, ledger := b.ledger.abandonAll ts } := by
  induction ts generalizing b with
  | nil => exact .of_eq (by ext <;> simp [hg, Ledger.abandonAll])
  | cons t ts ih =>
    have drop : Books.Step b _ := .drop t.reply (replies ts + goods) (by
      rw [hg, replies_cons, Multiset.cons_add])
    exact .head drop (ih _ rfl)

/-- What a user does makes entries in the books, and leaves those of the pipeline alone. -/
lemma books_of_step (h : d.step e = some d') : Books.Steps (d.books rest) (d'.books rest) := by
  cases e with
  | send payload =>
    simp only [step] at h
    split at h
    next =>
      cases h
      refine .single ?_
      convert Books.Step.accept (b := d.books rest) using 1
      simp [books]
    next => cases h
  | depart =>
    cases h
    exact .refl
  | look id =>
    simp only [step] at h
    split at h
    next ha =>
      cases h
      exact .single (.look (b := d.books rest) (mem_replies.mpr (by simpa using ha)))
    next => cases h
  | release id =>
    simp only [step] at h
    split at h
    next ha =>
      cases h
      exact .single (.release (b := d.books rest) (mem_replies.mpr (by simpa using ha)))
    next => cases h
  | receive =>
    simp only [step] at h
    split at h
    next => cases h
    next t queue hq =>
      cases h
      exact .of_eq (by simp [books, hq])
  | answer t response =>
    simp only [step] at h
    split at h
    next ht =>
      cases h
      exact .single (.resolve (b := d.books rest) t.reply _ (by simp [books, replies_erase ht]) response)
    next => cases h
  | discard t =>
    simp only [step] at h
    split at h
    next ht =>
      cases h
      exact .single (.drop (b := d.books rest) t.reply _ (by simp [books, replies_erase ht]))
    next => cases h
  | hangUp =>
    cases h
    convert steps_abandonAll (d.books rest) d.around.output.queue rfl using 1
    simp [books, Channel.shut]

/-! ### What a user cannot do -/

/-- Users touch the input of a pipeline only by sending, and cannot send when it is over. -/
lemma input_of_step (h : d.step e = some d') :
    (d'.around.fed = true → d.around.fed = true) ∧
      ∃ new, d'.accepted = d.accepted ++ new ∧
        d'.around.input = { d.around.input with queue := d.around.input.queue ++ new } ∧
        (d.around.input.closed = true ∨ d.around.fed = false → new = []) := by
  cases e with
  | send payload =>
    simp only [step] at h
    split at h
    next open_ =>
      cases h
      refine ⟨id, _, rfl, rfl, fun spent => ?_⟩
      simp only [Channel.hasRoom, Bool.and_eq_true, Bool.not_eq_true'] at open_
      rcases spent with spent | spent <;> simp_all
    next => cases h
  | depart =>
    cases h
    exact ⟨nofun, [], by simp⟩
  | hangUp =>
    cases h
    exact ⟨id, [], by simp⟩
  | _ =>
    simp only [step] at h
    split at h <;> cases h
    exact ⟨id, [], by simp⟩

/-- Users leave the metrics alone. -/
lemma metrics_of_step (h : d.step e = some d') : d'.around.metrics = d.around.metrics := by
  cases e with
  | depart | hangUp =>
    cases h
    rfl
  | _ =>
    simp only [step] at h
    split at h <;> cases h
    rfl

/-- Users touch the output only by receiving, and by dropping it. -/
lemma output_of_step (h : d.step e = some d') :
    d'.around.output.capacity = d.around.output.capacity ∧
      d'.received ++ d'.around.output.queue <+: d.received ++ d.around.output.queue ∧
      (d'.around.output.closed = false → d.around.output.closed = false ∧
        d'.received ++ d'.around.output.queue = d.received ++ d.around.output.queue) := by
  cases e with
  | depart =>
    cases h
    exact ⟨rfl, List.prefix_rfl, fun ho => ⟨ho, rfl⟩⟩
  | receive =>
    simp only [step] at h
    split at h
    next => cases h
    next t queue hq =>
      cases h
      simp [hq]
  | hangUp =>
    cases h
    exact ⟨rfl, by simp [Channel.shut], nofun⟩
  | _ =>
    simp only [step] at h
    split at h <;> cases h
    exact ⟨rfl, List.prefix_rfl, fun ho => ⟨ho, rfl⟩⟩

/-- The consumer has nothing to do if it has no results and none are there for it. -/
lemma consumer_rests_iff :
    (d.step .receive = none ∧ ∀ t, d.step (.discard t) = none) ↔
      d.around.output.queue = [] ∧ d.held = [] := by
  constructor
  · rintro ⟨receive, discard⟩
    refine ⟨?_, List.eq_nil_iff_forall_not_mem.mpr fun t ht => ?_⟩
    · simp only [step] at receive
      split at receive
      next hq => exact hq
      next => cases receive
    · have stuck := discard t
      simp [step, ht] at stuck
  · rintro ⟨output, held⟩
    exact ⟨by simp [step, output], fun t => by simp [step, held]⟩

end Dock

end Conveyor
