import Conveyor.Response
import Conveyor.Proofs.Runs

/-!
# Exchanges over a response path

A sender responds once or goes away, and a receiver tries to receive any number of times, waits,
with or without a limit of time, or goes away. What they do interleaves in any way, and is noted in
a log. The log tells the state of the exchange (`Exchange.Books`), and so each entry is right after
those before it (`Exchange.Sound`).
-/

namespace Conveyor

/-- What came of the acts of the sender and of the receiver. -/
inductive Exchange.Entry
  | responded (response : Response) (delivered : Bool)
  /-- The sender went away without a response. -/
  | dropped
  | tried (reading : Reading)
  /-- The receiver waits, and found nothing yet. -/
  | looked
  /-- The receiver had waited, and got this. -/
  | received (reading : Reading)
  /-- The receiver was to wait, and panicked. -/
  | panicked
  /-- The receiver had waited until its time was over. -/
  | timedOut
  /-- The receiver went away. -/
  | left
deriving DecidableEq

/-- What the receiver does. -/
inductive Exchange.Stance
  | free
  /-- It was given up to wait, with or without a limit of time. -/
  | waiting (timed : Bool)
  /-- It found nothing when its time was over, and is about to go away. -/
  | late
  | done
deriving DecidableEq

/-- A sender and a receiver at the ends of a response path. -/
structure Exchange where
  path : ResponsePath := {}
  stance : Exchange.Stance := .free
  log : List Exchange.Entry := []
deriving DecidableEq

namespace Exchange

/-! ### Acts -/

inductive Event
  | respond (response : Response)
  | abandon
  | tryReceive
  | wait (timed : Bool)
  /-- A receiver that waits looks at its path; the flag says that its time is over. -/
  | look (expired : Bool)
  /-- A receiver whose time was over goes away. -/
  | giveUp
  | release
deriving DecidableEq

def note (s : Exchange) (path : ResponsePath) (entry : Entry) : Exchange :=
  { s with path, log := s.log ++ [entry] }

def step (s : Exchange) : Event → Option Exchange
  | .respond response =>
    if s.path.isOpen then
      let (delivered, path) := s.path.respond response
      some (s.note path (.responded response delivered))
    else none
  | .abandon => if s.path.isOpen then some (s.note s.path.abandon .dropped) else none
  | .tryReceive =>
    if s.stance = .free then
      let (reading, path) := s.path.tryReceive
      some (s.note path (.tried reading))
    else none
  | .wait timed => if s.stance = .free then some { s with stance := .waiting timed } else none
  | .look expired =>
    match s.stance with
    | .waiting timed =>
      if expired ∧ ¬timed then none
      else
        match s.path.receive with
        | (none, path)         => some ({ s with stance := .done }.note path .panicked)
        | (some .pending, _)   =>
          some ({ s with stance := if expired then .late else .waiting timed }.note s.path .looked)
        | (some reading, path) => some ({ s with stance := .done }.note path (.received reading))
    | _ => none
  | .giveUp =>
    if s.stance = .late then some ({ s with stance := .done }.note s.path.release .timedOut)
    else none
  | .release =>
    if s.stance = .free then some ({ s with stance := .done }.note s.path.release .left) else none

/-! ### Accounts -/

/-- The entries of the sender. -/
def Entry.OfSender : Entry → Prop
  | .responded .. | .dropped => True
  | _                        => False

/-- The entries with which a receiver is used up. -/
def Entry.Ends : Entry → Prop
  | .received _ | .panicked | .timedOut | .left => True
  | _                                           => False

lemma Entry.OfSender.not_ends {e : Entry} (h : e.OfSender) : ¬e.Ends := by
  cases e with
  | responded => exact id
  | dropped => exact id
  | _ => exact absurd h id

/-- Whether the receiver looked at its path and this is what came of it. -/
def Entry.IsRead : Entry → Prop
  | .tried _ | .looked | .received _ | .panicked => True
  | _                                            => False

/-- Whether the receiver did not find the end of its path. -/
def Entry.Fruitless (e : Entry) : Prop := e = .tried .pending ∨ e = .looked

/-- What a look at a path finds that was not found to have ended, after what is in the log. -/
def Finds (log : List Entry) : Reading → Prop
  | .pending           => ∀ e ∈ log, ¬e.OfSender
  | .answered response => .responded response true ∈ log
  | .abandoned         => .dropped ∈ log

/-- Whether an attempt to receive has found the end of the path. -/
def Exhausted (log : List Entry) : Prop := ∃ reading, .tried reading ∈ log ∧ reading ≠ .pending

/-- Whether an entry is right after what stands before it in the log. -/
def Sound (before : List Entry) : Entry → Prop
  | .responded _ delivered =>
    (∀ e ∈ before, ¬e.OfSender) ∧ (∀ e ∈ before, e.IsRead → e.Fruitless) ∧
      (delivered = true ↔ .left ∉ before ∧ .timedOut ∉ before)
  | .dropped       => ∀ e ∈ before, ¬e.OfSender
  | .tried reading =>
    (∀ e ∈ before, ¬e.Ends) ∧
      (Exhausted before ∧ reading = .abandoned ∨ ¬Exhausted before ∧ Finds before reading)
  | .looked => (∀ e ∈ before, ¬e.Ends) ∧ ¬Exhausted before ∧ Finds before .pending
  | .received reading =>
    (∀ e ∈ before, ¬e.Ends) ∧ ¬Exhausted before ∧ reading ≠ .pending ∧ Finds before reading
  | .panicked => (∀ e ∈ before, ¬e.Ends) ∧ Exhausted before
  | .timedOut => ∀ e ∈ before, ¬e.Ends
  | .left     => ∀ e ∈ before, ¬e.Ends

/-- How the log tells the state of an exchange. -/
structure Books (s : Exchange) : Prop where
  held : s.path.sender = .held → Finds s.log .pending
  sent : ∀ response, s.path.sender = .sent response → Finds s.log (.answered response)
  /-- A response that came too late is lost, as if there had been none. -/
  dropped : s.path.sender = .dropped → Finds s.log .abandoned ∨ s.stance = .done
  gone : s.path.receiver = .gone ↔ s.stance = .done
  exhausted : s.path.receiver = .exhausted → Exhausted s.log
  listening : s.path.receiver = .listening → ¬Exhausted s.log
  unused : s.stance ≠ .done → ∀ e ∈ s.log, ¬e.Ends
  /-- As long as the sender is there and has not responded, all reads are in vain. -/
  calm : s.path.sender = .held → ∀ e ∈ s.log, e.IsRead → e.Fruitless
  away : s.path.sender = .held → s.stance = .done → .left ∈ s.log ∨ .timedOut ∈ s.log

variable {s s' : Exchange} {e : Event}

lemma books_start : Books {} where
  held := fun _ => nofun
  sent := nofun
  dropped := nofun
  gone := by decide
  exhausted := nofun
  listening := fun _ ⟨_, h, _⟩ => nomatch h
  unused := fun _ => nofun
  calm := fun _ => nofun
  away := nofun

lemma forall_mem_concat {P : Entry → Prop} {log : List Entry} {entry : Entry} :
    (∀ e ∈ log ++ [entry], P e) ↔ (∀ e ∈ log, P e) ∧ P entry := by
  simp [or_imp, forall_and]

lemma exhausted_concat {log : List Entry} {entry : Entry} :
    Exhausted (log ++ [entry]) ↔
      Exhausted log ∨ ∃ reading, entry = .tried reading ∧ reading ≠ .pending := by
  simp only [Exhausted, List.mem_append, List.mem_singleton, or_and_right, exists_or, eq_comm]

lemma Books.closed_iff (h : Books s) : s.path.isClosed ↔ s.stance = .done := by
  rw [ResponsePath.isClosed, beq_iff_eq, h.gone]

lemma open_iff : s.path.isOpen ↔ s.path.sender = .held := by
  rw [ResponsePath.isOpen, beq_iff_eq]

/-- As long as the sender is there, no attempt has found the end of the path. -/
lemma Books.not_exhausted (h : Books s) (held : s.path.sender = .held) : ¬Exhausted s.log := by
  rintro ⟨reading, tried, found⟩
  rcases h.calm held _ tried trivial with nothing | other
  · exact found (Entry.tried.inj nothing)
  · cases other

/-! ### What the acts write -/

/-- The sender acts, for the only time. -/
lemma Books.note_sender (h : Books s) {path : ResponsePath} {entry : Entry}
    (receiver : path.receiver = s.path.receiver) (used : path.sender ≠ .held)
    (entered : entry.OfSender)
    (sent : ∀ response, path.sender = .sent response → entry = .responded response true)
    (dropped : path.sender = .dropped → entry = .dropped ∨ s.stance = .done) :
    Books (s.note path entry) where
  held := fun held => absurd held used
  sent := fun response hs => List.mem_append_right _ (sent response hs ▸ List.mem_singleton_self _)
  dropped := by
    intro hs
    rcases dropped hs with rfl | done
    · exact .inl (List.mem_append_right _ (List.mem_singleton_self _))
    · exact .inr done
  gone := receiver ▸ h.gone
  exhausted := fun hr => exhausted_concat.mpr (.inl (h.exhausted (receiver ▸ hr)))
  listening := by
    intro hr
    rw [note, exhausted_concat]
    rintro (before | ⟨reading, rfl, -⟩)
    · exact h.listening (receiver ▸ hr) before
    · exact entered
  unused := fun hs => forall_mem_concat.mpr ⟨h.unused hs, entered.not_ends⟩
  calm := fun held => absurd held used
  away := fun held => absurd held used

/-- The receiver goes away. -/
lemma Books.note_end (h : Books s) {path : ResponsePath} {entry : Entry}
    (sender : path.sender = s.path.sender) (gone : path.receiver = .gone) (ends : entry.Ends)
    (away : path.sender = .held → entry = .left ∨ entry = .timedOut) :
    Books ({ s with stance := .done }.note path entry) where
  held := fun held => forall_mem_concat.mpr
    ⟨h.held (sender ▸ held), fun entered => entered.not_ends ends⟩
  sent := fun response hs => List.mem_append_left _ (h.sent response (sender ▸ hs))
  dropped := fun _ => .inr rfl
  gone := by simp [note, gone]
  exhausted := fun hr => by simp [note, gone] at hr
  listening := fun hr => by simp [note, gone] at hr
  unused := fun hs => absurd rfl hs
  calm := fun held => forall_mem_concat.mpr
    ⟨h.calm (sender ▸ held), by rcases away held with rfl | rfl <;> exact nofun⟩
  away := by
    intro held _
    rcases away held with rfl | rfl <;> simp [note]

lemma Books.respond (h : Books s) (held : s.path.sender = .held) (response : Response) :
    Sound s.log (.responded response (s.path.respond response).1) ∧
      Books (s.note (s.path.respond response).2
        (.responded response (s.path.respond response).1)) := by
  by_cases closed : s.stance = .done
  · rw [ResponsePath.respond, if_pos (h.closed_iff.mpr closed)]
    refine ⟨⟨h.held held, h.calm held, ?_⟩, ?_⟩
    · have away := h.away held closed
      simp only [Bool.false_eq_true, false_iff]
      tauto
    · exact h.note_sender rfl nofun trivial nofun fun _ => .inr closed
  · rw [ResponsePath.respond, if_neg (mt h.closed_iff.mp closed)]
    refine ⟨⟨h.held held, h.calm held, ?_⟩, ?_⟩
    · have unused := h.unused closed
      simp only [true_iff]
      exact ⟨fun left => unused _ left trivial, fun late => unused _ late trivial⟩
    · exact h.note_sender rfl nofun trivial (by rintro r ⟨⟩; rfl) nofun

lemma Books.abandon (h : Books s) (held : s.path.sender = .held) :
    Sound s.log .dropped ∧ Books (s.note s.path.abandon .dropped) :=
  ⟨h.held held, h.note_sender rfl nofun trivial nofun fun _ => .inl rfl⟩

/-- A receiver that has not found the end of its path finds what is in the log. -/
lemma Books.finds (h : Books s) (active : s.stance ≠ .done)
    (listening : s.path.receiver = .listening) : Finds s.log s.path.tryReceive.1 := by
  rw [ResponsePath.tryReceive, listening]
  cases hs : s.path.sender with
  | held => exact h.held hs
  | sent response => exact h.sent response hs
  | dropped => exact (h.dropped hs).resolve_right active

/-- The receiver tries, and has found the end of its path unless it got nothing. -/
lemma Books.note_tried (h : Books s) (active : s.stance ≠ .done) {path : ResponsePath}
    {reading : Reading} (sender : path.sender = s.path.sender)
    (receiver : path.receiver = if reading = .pending then .listening else .exhausted)
    (listening : reading = .pending → s.path.receiver = .listening)
    (found : reading ≠ .pending → s.path.sender ≠ .held) :
    Books (s.note path (.tried reading)) where
  held := fun held => forall_mem_concat.mpr ⟨h.held (sender ▸ held), id⟩
  sent := fun response hs => List.mem_append_left _ (h.sent response (sender ▸ hs))
  dropped := fun hs => (h.dropped (sender ▸ hs)).imp (List.mem_append_left _) id
  gone := by
    have here : path.receiver ≠ .gone := by
      rw [receiver]
      split <;> exact nofun
    exact iff_of_false here active
  exhausted := by
    intro hr
    apply exhausted_concat.mpr
    refine .inr ⟨reading, rfl, ?_⟩
    rintro rfl
    have hr : path.receiver = .exhausted := hr
    rw [receiver] at hr
    cases hr
  listening := by
    intro hr
    have hr : path.receiver = .listening := hr
    rw [receiver] at hr
    split at hr
    · rename_i nothing
      rw [note, exhausted_concat]
      rintro (before | ⟨_, ⟨⟩, something⟩)
      · exact h.listening (listening nothing) before
      · exact something nothing
    · cases hr
  unused := fun hs => forall_mem_concat.mpr ⟨h.unused hs, id⟩
  calm := by
    intro held
    have held : s.path.sender = .held := sender ▸ held
    refine forall_mem_concat.mpr ⟨h.calm held, fun _ => ?_⟩
    by_contra something
    exact found (fun nothing => something (.inl (nothing ▸ rfl))) held
  away := fun _ done => absurd done active

lemma Books.tryReceive (h : Books s) (active : s.stance ≠ .done) :
    Sound s.log (.tried s.path.tryReceive.1) ∧
      Books (s.note s.path.tryReceive.2 (.tried s.path.tryReceive.1)) := by
  have unused := h.unused active
  cases hr : s.path.receiver with
  | gone => exact absurd (h.gone.mp hr) active
  | exhausted =>
    have exhausted := h.exhausted hr
    have result : s.path.tryReceive = (.abandoned, s.path) := by
      rw [ResponsePath.tryReceive, hr]
    rw [result]
    refine ⟨⟨unused, .inl ⟨exhausted, rfl⟩⟩, ?_⟩
    exact h.note_tried active rfl hr nofun fun _ held => h.not_exhausted held exhausted
  | listening =>
    refine ⟨⟨unused, .inr ⟨h.listening hr, h.finds active hr⟩⟩, ?_⟩
    cases hs : s.path.sender with
    | held =>
      have result : s.path.tryReceive = (.pending, s.path) := by
        rw [ResponsePath.tryReceive, hr, hs]
      rw [result]
      exact h.note_tried active rfl hr (fun _ => hr) (absurd rfl)
    | sent response =>
      have result : s.path.tryReceive =
          (.answered response, { s.path with receiver := .exhausted }) := by
        simp only [ResponsePath.tryReceive, hr, hs]
      rw [result]
      exact h.note_tried active rfl rfl nofun fun _ held => by rw [hs] at held; cases held
    | dropped =>
      have result : s.path.tryReceive = (.abandoned, { s.path with receiver := .exhausted }) := by
        simp only [ResponsePath.tryReceive, hr, hs]
      rw [result]
      exact h.note_tried active rfl rfl nofun fun _ held => by rw [hs] at held; cases held

/-- A receiver that goes on waiting has found nothing. -/
lemma Books.note_looked (h : Books s) (active : s.stance ≠ .done) :
    Books (s.note s.path .looked) where
  held := fun held => forall_mem_concat.mpr ⟨h.held held, id⟩
  sent := fun response hs => List.mem_append_left _ (h.sent response hs)
  dropped := fun hs => (h.dropped hs).imp (List.mem_append_left _) id
  gone := h.gone
  exhausted := fun hr => exhausted_concat.mpr (.inl (h.exhausted hr))
  listening := by
    intro hr
    rw [note, exhausted_concat]
    rintro (before | ⟨reading, ⟨⟩, -⟩)
    exact h.listening hr before
  unused := fun hs => forall_mem_concat.mpr ⟨h.unused hs, id⟩
  calm := fun held => forall_mem_concat.mpr ⟨h.calm held, fun _ => .inr rfl⟩
  away := fun _ done => absurd done active

/-- A receiver whose act of waiting does not show yet. -/
lemma Books.with_stance (h : Books s) (active : s.stance ≠ .done) {stance : Stance}
    (next : stance ≠ .done) : Books { s with stance } where
  held := h.held
  sent := h.sent
  dropped := fun hs => .inl ((h.dropped hs).resolve_right active)
  gone := iff_of_false (mt h.gone.mp active) next
  exhausted := h.exhausted
  listening := h.listening
  unused := fun _ => h.unused active
  calm := h.calm
  away := fun _ done => absurd done next

/-- A receiver that waits finds what is in the log, and is used up unless it goes on waiting. -/
lemma Books.look (h : Books s) {expired timed : Bool} (waiting : s.stance = .waiting timed)
    (hs : s.step (.look expired) = some s') :
    Books s' ∧ (s'.log = s.log ∨ ∃ entry, s'.log = s.log ++ [entry] ∧ Sound s.log entry) := by
  have active : s.stance ≠ .done := waiting ▸ nofun
  have unused := h.unused active
  rw [Exchange.step, waiting] at hs
  simp only [Option.ite_none_left_eq_some] at hs
  obtain ⟨-, hs⟩ := hs
  cases hr : s.path.receiver with
  | gone => exact absurd (h.gone.mp hr) active
  | exhausted =>
    have exhausted := h.exhausted hr
    simp only [ResponsePath.receive, hr] at hs
    cases hs
    exact ⟨h.note_end rfl rfl trivial fun held => absurd exhausted (h.not_exhausted held),
      .inr ⟨_, rfl, unused, exhausted⟩⟩
  | listening =>
    have finds := h.finds active hr
    have held : s.path.sender = .held → s.path.tryReceive.1 = .pending := by
      intro held
      rw [ResponsePath.tryReceive, hr, held]
    simp only [ResponsePath.receive, hr] at hs
    cases reading : s.path.tryReceive.1 with
    | pending =>
      rw [reading] at hs finds
      cases hs
      have next : (if expired then Stance.late else .waiting timed) ≠ .done := by
        split <;> exact nofun
      have books := (h.note_looked active).with_stance active next
      exact ⟨books, .inr ⟨_, rfl, unused, h.listening hr, finds⟩⟩
    | answered response =>
      rw [reading] at hs finds held
      cases hs
      exact ⟨h.note_end rfl rfl trivial fun there => absurd (held there) nofun,
        .inr ⟨_, rfl, unused, h.listening hr, nofun, finds⟩⟩
    | abandoned =>
      rw [reading] at hs finds held
      cases hs
      exact ⟨h.note_end rfl rfl trivial fun there => absurd (held there) nofun,
        .inr ⟨_, rfl, unused, h.listening hr, nofun, finds⟩⟩

/-- What an act writes follows from the log, and the books are kept. -/
lemma Books.step (h : Books s) (hs : s.step e = some s') :
    Books s' ∧ (s'.log = s.log ∨ ∃ entry, s'.log = s.log ++ [entry] ∧ Sound s.log entry) := by
  cases e with
  | respond response =>
    rw [Exchange.step, Option.ite_none_right_eq_some] at hs
    obtain ⟨held, hs⟩ := hs
    cases hs
    obtain ⟨sound, books⟩ := h.respond (open_iff.mp held) response
    exact ⟨books, .inr ⟨_, rfl, sound⟩⟩
  | abandon =>
    rw [Exchange.step, Option.ite_none_right_eq_some] at hs
    obtain ⟨held, hs⟩ := hs
    cases hs
    obtain ⟨sound, books⟩ := h.abandon (open_iff.mp held)
    exact ⟨books, .inr ⟨_, rfl, sound⟩⟩
  | tryReceive =>
    rw [Exchange.step, Option.ite_none_right_eq_some] at hs
    obtain ⟨free, hs⟩ := hs
    cases hs
    obtain ⟨sound, books⟩ := h.tryReceive (free ▸ nofun)
    exact ⟨books, .inr ⟨_, rfl, sound⟩⟩
  | wait timed =>
    rw [Exchange.step, Option.ite_none_right_eq_some] at hs
    obtain ⟨free, hs⟩ := hs
    cases hs
    exact ⟨h.with_stance (free ▸ nofun) nofun, .inl rfl⟩
  | look expired =>
    cases stance : s.stance with
    | waiting timed => exact h.look stance hs
    | _ =>
      rw [Exchange.step, stance] at hs
      cases hs
  | giveUp =>
    rw [Exchange.step, Option.ite_none_right_eq_some] at hs
    obtain ⟨late, hs⟩ := hs
    cases hs
    have active : s.stance ≠ .done := late ▸ nofun
    exact ⟨h.note_end rfl rfl trivial fun _ => .inr rfl, .inr ⟨_, rfl, h.unused active⟩⟩
  | release =>
    rw [Exchange.step, Option.ite_none_right_eq_some] at hs
    obtain ⟨free, hs⟩ := hs
    cases hs
    have active : s.stance ≠ .done := free ▸ nofun
    exact ⟨h.note_end rfl rfl trivial fun _ => .inl rfl, .inr ⟨_, rfl, h.unused active⟩⟩

end Exchange

end Conveyor
