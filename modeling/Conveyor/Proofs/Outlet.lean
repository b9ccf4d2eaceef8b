import Conveyor.Proofs.Ledger
import Conveyor.Proofs.Runs
import Conveyor.Terminal
import Mathlib.Data.List.Perm.Basic

/-!
# Outlets

An outlet is an answering sink with its holders, and with the streams that they may bind it to. There
can be any number of streams, and producers send on each of them, before it is bound and afterwards.
Holders give streams to the sink and ask for shutdowns at any time; a shutdown takes two steps, and all
else can happen between them. The worker of the sink moves like any other party (`Outlet.step`).
-/

namespace Conveyor

/-! ### Moves of the worker -/

namespace AnsweringSink

/-- The moves of a worker: it hears of a shutdown and closes its input, it takes the next transaction
and remembers the message, it answers the transaction that it has taken, or it leaves, when nothing is
left on its input and nothing can come. -/
inductive Move (sink : AnsweringSink) (s : Surroundings) : AnsweringSink → Surroundings → Prop where
  | hear (free : sink.answering = none) (asked : sink.stopRequested = true)
      (unheard : sink.closing = false) :
      Move sink s { sink with closing := true } { s with input := s.input.close }
  | take {t : Transaction} {rest : List Transaction} (free : sink.answering = none)
      (hq : s.input.queue = t :: rest) :
      Move sink s { sink with received := sink.received ++ [t.payload], answering := some t }
        { s with input := { s.input with queue := rest } }
  | leave (free : sink.answering = none) (hq : s.input.queue = [])
      (spent : s.input.closed = true ∨ s.fed = false) :
      Move sink s { sink with ended := true, done := true } { s with input := s.input.shut }
  | answer {t : Transaction} (busy : sink.answering = some t) :
      Move sink s { sink with answering := none }
        { s with ledger := (s.ledger.respond t.reply sink.response).2 }

variable {sink sink' : AnsweringSink} {s s' : Surroundings}

lemma Move.of_step (h : sink.step s = some (sink', s')) :
    sink.bound = true ∧ sink.ended = false ∧ sink.Move s sink' s' := by
  simp only [step, listen] at h
  split at h
  next => cases h
  next running =>
    obtain ⟨bound, ended⟩ : sink.bound = true ∧ sink.ended = false := by simpa using running
    refine ⟨bound, ended, ?_⟩
    split at h
    next t busy =>
      cases h
      exact .answer busy
    next free =>
      split at h
      next heard =>
        cases h
        obtain ⟨asked, unheard⟩ : sink.stopRequested = true ∧ sink.closing = false := by
          simpa using heard
        exact .hear free asked unheard
      next =>
        split at h
        next t rest hq =>
          cases h
          exact .take free hq
        next hq =>
          split at h
          next spent =>
            cases h
            exact .leave free hq (by simpa using spent)
          next => cases h

/-- Why a worker that is bound and has not left cannot move: it waits for a transaction, more of them
may come, and there is no shutdown that it has not heard of. -/
lemma waits_of_step (bound : sink.bound = true) (running : sink.ended = false)
    (h : sink.step s = none) :
    sink.answering = none ∧ s.input.queue = [] ∧ s.input.closed = false ∧ s.fed = true ∧
      (sink.stopRequested = true → sink.closing = true) := by
  simp only [step, listen, bound, running] at h
  cases free : sink.answering with
  | some t => simp [free] at h
  | none =>
    by_cases heard : sink.stopRequested && !sink.closing
    · simp [free, heard] at h
    · simp only [free, heard] at h
      cases hq : s.input.queue with
      | cons t rest => simp [hq] at h
      | nil =>
        obtain ⟨open', fed⟩ : s.input.closed = false ∧ s.fed = true := by simpa [hq] using h
        exact ⟨rfl, rfl, open', fed, by simpa using heard⟩

end AnsweringSink

/-! ### Outlets and their events -/

/-- A stream that was not given to the sink, and whether somebody can still send on it. -/
structure Inlet where
  channel : Channel
  fed : Bool := true
deriving DecidableEq, Inhabited

/-- What can go on at an outlet. A stream is made; producers send on streams that the sink was not given
or on the one that it is bound to, and the last of them departs; senders look for the answers on their
paths and release these paths; holders give streams to the sink and ask for shutdowns; and the worker
moves. -/
inductive Outlet.Event where
  | make (capacity : Nat)
  | issue (stream : Nat) (payload : Message)
  | desert (stream : Nat)
  | send (payload : Message)
  | depart
  | look (id : Nat)
  | release (id : Nat)
  | consume (stream : Nat)
  | askStop (holder : Nat)
  | finishClose (holder : Nat)
  | work
deriving DecidableEq

/-- What a call of a holder came to: a binding has a result, and a shutdown has returned. -/
inductive Outlet.Reply where
  | consumed (result : Except PipelineError Unit)
  | closed
deriving DecidableEq

/-- An answering sink with its holders and its streams. -/
structure Outlet where
  sink : AnsweringSink
  /-- The input that the worker reads, once there is one, and the paths of all transactions. -/
  around : Surroundings
  /-- All transactions that were sent on the input, before it was bound or afterwards. -/
  accepted : List Transaction := []
  /-- The streams that the sink was not given yet. -/
  loose : List Inlet := []
  /-- All transactions that were dropped with refused streams. -/
  lost : List Transaction := []
  /-- What the senders found when they looked for their answers. -/
  found : List (Nat × Reading) := []
  /-- The holders that are between the two steps of a shutdown. -/
  closers : List Nat := []
  /-- What the calls came to, the oldest first. -/
  replies : List Outlet.Reply := []
deriving DecidableEq

namespace Outlet

/-- A sink that nobody has called yet and that answers like this, without any streams. -/
def new (response : Response) : Outlet where
  sink := { response }
  around := { input := .new 1, fed := false, output := .new 1, ledger := {}, metrics := {} }

/-- Give a stream to the sink. If it is refused, it is dropped with what is queued in it. -/
def consume (o : Outlet) (stream : Nat) (inlet : Inlet) : Outlet :=
  let loose := o.loose.eraseIdx stream
  match o.sink.consume with
  | (.ok (), sink) =>
    { o with
      sink, loose
      around := { o.around with input := inlet.channel, fed := inlet.fed }
      accepted := o.accepted ++ inlet.channel.queue
      replies := o.replies ++ [.consumed (.ok ())] }
  | (.error e, sink) =>
    { o with
      sink, loose
      around := { o.around with ledger := o.around.ledger.abandonAll inlet.channel.queue }
      lost := o.lost ++ inlet.channel.queue
      replies := o.replies ++ [.consumed (.error e)] }

/-- The outlet after an event, if the event can take place. -/
def step (o : Outlet) : Event → Option Outlet
  | .make capacity => some { o with loose := o.loose ++ [{ channel := .new capacity }] }
  | .issue stream payload =>
    (o.loose[stream]?).bind fun inlet =>
      if inlet.fed && inlet.channel.hasRoom then
        let (reply, ledger) := o.around.ledger.fresh
        let channel := inlet.channel.push { payload, reply }
        some { o with
          around := { o.around with ledger }, loose := o.loose.set stream { inlet with channel } }
      else none
  | .desert stream =>
    (o.loose[stream]?).map fun inlet =>
      { o with loose := o.loose.set stream { inlet with fed := false } }
  | .send payload =>
    if o.around.fed && o.around.input.hasRoom then
      let (reply, ledger) := o.around.ledger.fresh
      let t : Transaction := { payload, reply }
      some { o with
        around := { o.around with input := o.around.input.push t, ledger }
        accepted := o.accepted ++ [t] }
    else none
  | .depart => some { o with around := { o.around with fed := false } }
  | .look id =>
    if id < o.around.ledger.paths.length then
      let (reading, ledger) := o.around.ledger.read id
      some { o with around := { o.around with ledger }, found := o.found ++ [(id, reading)] }
    else none
  | .release id =>
    if id < o.around.ledger.paths.length then
      some { o with around := { o.around with ledger := o.around.ledger.release id } }
    else none
  | .consume stream => (o.loose[stream]?).map (o.consume stream)
  | .askStop holder =>
    some { o with sink := o.sink.requestStop, closers := o.closers ++ [holder] }
  | .finishClose holder =>
    if holder ∈ o.closers then
      some { o with
        sink := o.sink.closeIfUnbound
        closers := o.closers.erase holder
        replies := o.replies ++ [.closed] }
    else none
  | .work => (o.sink.step o.around).map fun (sink, around) => { o with sink, around }

/-- The outlet after a sequence of events, if each of them can take place. -/
def run (o : Outlet) (events : List Event) : Option Outlet := runFrom step o events

def Reply.binds : Reply → Bool
  | .consumed (.ok ()) => true
  | _                  => false

/-- How often a stream was bound. -/
def bindings (o : Outlet) : Nat := o.replies.countP Reply.binds

variable {o o' : Outlet} {e : Event} {events : List Event}

/-! ### What an event can do -/

/-- The outlet after an event, with the conditions under which the event takes place. -/
inductive Happens (o : Outlet) : Event → Outlet → Prop where
  | make (capacity : Nat) :
      Happens o (.make capacity) { o with loose := o.loose ++ [{ channel := .new capacity }] }
  | issue {stream : Nat} {inlet : Inlet} (payload : Message)
      (found : o.loose[stream]? = some inlet) :
      Happens o (.issue stream payload)
        { o with
          around := { o.around with ledger := o.around.ledger.fresh.2 }
          loose := o.loose.set stream
            { inlet with
              channel := inlet.channel.push ⟨payload, o.around.ledger.paths.length⟩ } }
  | desert {stream : Nat} {inlet : Inlet} (found : o.loose[stream]? = some inlet) :
      Happens o (.desert stream) { o with loose := o.loose.set stream { inlet with fed := false } }
  | send (payload : Message) (fed : o.around.fed = true) (room : o.around.input.hasRoom = true) :
      Happens o (.send payload)
        { o with
          around :=
            { o.around with
              input := o.around.input.push ⟨payload, o.around.ledger.paths.length⟩
              ledger := o.around.ledger.fresh.2 }
          accepted := o.accepted ++ [⟨payload, o.around.ledger.paths.length⟩] }
  | depart : Happens o .depart { o with around := { o.around with fed := false } }
  | look (id : Nat) :
      Happens o (.look id)
        { o with
          around := { o.around with ledger := (o.around.ledger.read id).2 }
          found := o.found ++ [(id, (o.around.ledger.read id).1)] }
  | release (id : Nat) :
      Happens o (.release id)
        { o with around := { o.around with ledger := o.around.ledger.release id } }
  | bind {stream : Nat} {inlet : Inlet} (found : o.loose[stream]? = some inlet)
      (unbound : o.sink.bound = false) (running : o.sink.stopRequested = false) :
      Happens o (.consume stream)
        { o with
          sink := { o.sink with bound := true }
          around := { o.around with input := inlet.channel, fed := inlet.fed }
          accepted := o.accepted ++ inlet.channel.queue
          loose := o.loose.eraseIdx stream
          replies := o.replies ++ [.consumed (.ok ())] }
  | refuse {stream : Nat} {inlet : Inlet} {error : PipelineError}
      (found : o.loose[stream]? = some inlet)
      (cause : o.sink.consume = (.error error, o.sink)) :
      Happens o (.consume stream)
        { o with
          around := { o.around with ledger := o.around.ledger.abandonAll inlet.channel.queue }
          loose := o.loose.eraseIdx stream
          lost := o.lost ++ inlet.channel.queue
          replies := o.replies ++ [.consumed (.error error)] }
  | askStop (holder : Nat) :
      Happens o (.askStop holder)
        { o with sink := o.sink.requestStop, closers := o.closers ++ [holder] }
  | finishClose {holder : Nat} (asked : holder ∈ o.closers) :
      Happens o (.finishClose holder)
        { o with
          sink := o.sink.closeIfUnbound
          closers := o.closers.erase holder
          replies := o.replies ++ [.closed] }
  | work {sink : AnsweringSink} {around : Surroundings} (bound : o.sink.bound = true)
      (running : o.sink.ended = false) (move : o.sink.Move o.around sink around) :
      Happens o .work { o with sink, around }

lemma Happens.of_step (h : o.step e = some o') : o.Happens e o' := by
  cases e with
  | make capacity => cases h; exact .make capacity
  | issue stream payload =>
    obtain ⟨inlet, found, h⟩ := Option.bind_eq_some_iff.mp h
    obtain ⟨-, h⟩ := Option.ite_none_right_eq_some.mp h
    cases h
    exact .issue payload found
  | desert stream =>
    obtain ⟨inlet, found, rfl⟩ := Option.map_eq_some_iff.mp h
    exact .desert found
  | send payload =>
    obtain ⟨can, h⟩ := Option.ite_none_right_eq_some.mp h
    obtain ⟨fed, room⟩ := Bool.and_eq_true_iff.mp can
    cases h
    exact .send payload fed room
  | depart => cases h; exact .depart
  | look id =>
    obtain ⟨-, h⟩ := Option.ite_none_right_eq_some.mp h
    cases h
    exact .look id
  | release id =>
    obtain ⟨-, h⟩ := Option.ite_none_right_eq_some.mp h
    cases h
    exact .release id
  | consume stream =>
    obtain ⟨inlet, found, rfl⟩ := Option.map_eq_some_iff.mp h
    by_cases bound : o.sink.bound = true
    · have cause : o.sink.consume = (.error .alreadyConsuming, o.sink) := by
        simp [AnsweringSink.consume, bound]
      rw [consume, cause]
      exact .refuse found cause
    · by_cases asked : o.sink.stopRequested = true
      · have cause : o.sink.consume = (.error .closed, o.sink) := by
          simp [AnsweringSink.consume, bound, asked]
        rw [consume, cause]
        exact .refuse found cause
      · have success : o.sink.consume = (.ok (), { o.sink with bound := true }) := by
          simp [AnsweringSink.consume, bound, asked]
        rw [consume, success]
        exact .bind found (by simpa using bound) (by simpa using asked)
  | askStop holder => cases h; exact .askStop holder
  | finishClose holder =>
    obtain ⟨asked, h⟩ := Option.ite_none_right_eq_some.mp h
    cases h
    exact .finishClose asked
  | work =>
    obtain ⟨⟨sink, around⟩, hs, rfl⟩ := Option.map_eq_some_iff.mp h
    obtain ⟨bound, running, move⟩ := AnsweringSink.Move.of_step hs
    exact .work bound running move

/-! ### What the calls came to -/

/-- How what the calls came to agrees with the sink, and what is at the input before there is one and
after the worker has left. -/
structure Lawful (o : Outlet) : Prop where
  unbound : o.sink.bound = false → o.accepted = [] ∧ o.around.input.queue = [] ∧
    o.around.fed = false ∧ o.sink.answering = none ∧ o.sink.closing = false ∧ o.sink.ended = false
  done : o.sink.done = true ↔ o.sink.ended = true ∨ o.sink.bound = false ∧ .closed ∈ o.replies
  ended : o.sink.ended = true →
    o.sink.answering = none ∧ o.around.input.queue = [] ∧ o.around.input.closed = true
  closing : o.sink.closing = true → o.around.input.closed = true
  bindings : o.bindings = if o.sink.bound then 1 else 0
  closers : o.closers ≠ [] → o.sink.stopRequested = true
  returned : .closed ∈ o.replies → o.sink.stopRequested = true

lemma lawful_new (response : Response) : (new response).Lawful := by
  constructor <;> simp [new, Outlet.bindings, Channel.new]

/-- What happens at loose streams and at the paths does not matter here; all that a move of the worker
can do is to close the input, to take from it or to leave. -/
lemma Lawful.step (h : o.Lawful) (hs : o.step e = some o') : o'.Lawful := by
  cases Happens.of_step hs with
  | make => exact { h with }
  | issue => exact { h with }
  | desert => exact { h with }
  | look => exact { h with }
  | release => exact { h with }
  | depart =>
    exact { h with
      unbound := fun unbound =>
        let ⟨accepted, queue, _, rest⟩ := h.unbound unbound
        ⟨accepted, queue, rfl, rest⟩ }
  | send payload fed room =>
    have bound : o.sink.bound = true := by
      by_contra unbound
      simp [(h.unbound (by simpa using unbound)).2.2.1] at fed
    have running : o.sink.ended = false := by
      by_contra left
      have closed := (h.ended (by simpa using left)).2.2
      simp [Channel.hasRoom, closed] at room
    exact { h with
      unbound := by simp [bound]
      ended := by simp [running] }
  | bind found unbound running =>
    obtain ⟨accepted, queue, fed, answering, closing, ended⟩ := h.unbound unbound
    have returned : .closed ∉ o.replies := fun hc => by simp [h.returned hc] at running
    have done : o.sink.done = false := by
      by_contra hd
      simpa [ended, returned] using h.done.mp (by simpa using hd)
    exact {
      unbound := by simp
      done := by simp [done, ended]
      ended := by simp [ended]
      closing := by simp [closing]
      bindings := by simpa [Outlet.bindings, Reply.binds, unbound] using h.bindings
      closers := h.closers
      returned := by simpa using h.returned }
  | refuse found cause =>
    exact { h with
      done := by simp [h.done]
      bindings := by simpa [Outlet.bindings, Reply.binds] using h.bindings
      returned := by simpa using h.returned }
  | askStop holder =>
    exact { h with
      closers := fun _ => rfl
      returned := fun _ => rfl }
  | finishClose asked =>
    have stop : o.sink.stopRequested = true := h.closers (List.ne_nil_of_mem asked)
    have bindings : ({ o with replies := o.replies ++ [.closed] } : Outlet).bindings = o.bindings := by
      simp [Outlet.bindings, Reply.binds]
    by_cases bound : o.sink.bound = true
    · rw [AnsweringSink.closeIfUnbound, if_pos bound]
      exact { h with
        done := by simp [h.done, bound]
        bindings := bindings.trans h.bindings
        closers := fun _ => stop
        returned := fun _ => stop }
    · rw [AnsweringSink.closeIfUnbound, if_neg bound]
      exact { h with
        done := by simp [bound]
        bindings := bindings.trans h.bindings
        closers := fun _ => stop
        returned := fun _ => stop }
  | work bound running move =>
    cases move with
    | hear free asked unheard =>
      exact { h with
        unbound := by simp [bound]
        ended := by simp [running]
        closing := fun _ => rfl }
    | take free hq =>
      exact { h with
        unbound := by simp [bound]
        ended := by simp [running] }
    | leave free hq spent =>
      exact { h with
        unbound := by simp [bound]
        done := by simp
        ended := fun _ => ⟨free, rfl, rfl⟩
        closing := fun _ => rfl }
    | answer busy =>
      exact { h with
        unbound := by simp [bound]
        ended := by simp [running] }

lemma lawful_of_run {response : Response} (hr : (new response).run events = some o) : o.Lawful :=
  runFrom_induction Lawful.step (lawful_new response) hr

/-- Once a shutdown was asked for while no stream is bound, no stream is bound any more, and whoever
brings one is told that the sink is closed. -/
lemma closed_of_run (hr : o.run events = some o') (unbound : o.sink.bound = false)
    (asked : o.sink.stopRequested = true) :
    o'.sink.bound = false ∧ o'.sink.stopRequested = true ∧
      ∃ more, o'.replies = o.replies ++ more ∧
        ∀ reply ∈ more, reply = .closed ∨ reply = .consumed (.error .closed) := by
  refine runFrom_induction (P := fun s => s.sink.bound = false ∧ s.sink.stopRequested = true ∧
    ∃ more, s.replies = o.replies ++ more ∧
      ∀ reply ∈ more, reply = .closed ∨ reply = .consumed (.error .closed))
    (fun {s s' e} kept hs => ?_) ⟨unbound, asked, [], by simp, by simp⟩ hr
  obtain ⟨unbound, asked, more, replies, all⟩ := kept
  cases Happens.of_step hs with
  | make => exact ⟨unbound, asked, more, replies, all⟩
  | issue => exact ⟨unbound, asked, more, replies, all⟩
  | desert => exact ⟨unbound, asked, more, replies, all⟩
  | send => exact ⟨unbound, asked, more, replies, all⟩
  | depart => exact ⟨unbound, asked, more, replies, all⟩
  | look => exact ⟨unbound, asked, more, replies, all⟩
  | release => exact ⟨unbound, asked, more, replies, all⟩
  | bind _ _ running => simp [running] at asked
  | refuse found cause =>
    obtain rfl : _ = PipelineError.closed := by
      simpa [AnsweringSink.consume, unbound, asked, eq_comm] using cause
    exact ⟨unbound, asked, more ++ [.consumed (.error .closed)], by simp [replies],
      List.forall_mem_append.mpr ⟨all, by simp⟩⟩
  | askStop => exact ⟨unbound, rfl, more, replies, all⟩
  | finishClose =>
    rw [AnsweringSink.closeIfUnbound, if_neg (by simp [unbound])]
    exact ⟨unbound, asked, more ++ [.closed], by simp [replies],
      List.forall_mem_append.mpr ⟨all, by simp⟩⟩
  | work bound => simp [unbound] at bound

/-! ### How much the worker has done -/

/-- The moves that the worker has made, and the one that it owes to the transaction that it has taken:
two for each message, one when it heard of a shutdown, and one when it left. -/
def effort (o : Outlet) : Nat :=
  2 * o.sink.received.length + o.sink.closing.toNat + o.sink.ended.toNat

lemma effort_of_step (hs : o.step e = some o') :
    o'.effort + o.sink.answering.toList.length =
      o.effort + o'.sink.answering.toList.length + [e].count .work := by
  cases Happens.of_step hs with
  | finishClose =>
    rw [AnsweringSink.closeIfUnbound]
    split <;> simp [effort]
  | work bound running move =>
    cases move with
    | hear free asked unheard => simp [effort, free, unheard]; omega
    | take free hq => simp [effort, free]; omega
    | leave free hq spent => simp [effort, free, running]
    | answer busy => simp [effort, busy]
  | _ => rfl

lemma effort_of_run (hr : o.run events = some o') :
    o'.effort + o.sink.answering.toList.length =
      o.effort + o'.sink.answering.toList.length + events.count .work := by
  induction events generalizing o with
  | nil =>
    obtain rfl := Option.some.inj hr
    rfl
  | cons e events ih =>
    obtain ⟨next, he, hr⟩ := Option.bind_eq_some_iff.mp hr
    have first := effort_of_step he
    have later := ih hr
    rw [← List.singleton_append, List.count_append]
    omega

end Outlet

end Conveyor
