import Conveyor.Proofs.Exchange
import Mathlib.Data.List.Induction

/-!
# The log of an exchange

However a sender and a receiver interleave, a response is handed out at most once, by the first read
after it. But a receiver that has found the end of its path must not be used again
(`Exchange.account_of_run`): it panics when it waits, and when it tries it reports the path as
abandoned, though it was not (`Exchange.used_again`).
-/

namespace Conveyor.Exchange

variable {s : Exchange} {events : List Event} {before after : List Entry} {entry : Entry}

lemma books_of_run (hr : runFrom Exchange.step {} events = some s) :
    Books s ∧ ∀ before entry after, s.log = before ++ entry :: after → Sound before entry := by
  refine runFrom_induction (P := fun s => Books s ∧ ∀ before entry after,
    s.log = before ++ entry :: after → Sound before entry) ?_ ⟨books_start, by simp⟩ hr
  rintro s s' e ⟨books, sound⟩ hs
  obtain ⟨books', same | ⟨last, more, right⟩⟩ := books.step hs
  · exact ⟨books', same ▸ sound⟩
  · refine ⟨books', fun before entry after split => ?_⟩
    rw [more] at split
    rcases List.eq_nil_or_concat after with rfl | ⟨after, end_, rfl⟩
    · obtain ⟨rfl, he⟩ := List.append_inj' split rfl
      obtain rfl := List.singleton_inj.mp he
      exact right
    · rw [List.concat_eq_append, ← List.cons_append, ← List.append_assoc] at split
      exact sound _ _ _ (List.append_inj' split rfl).1

/-- Whether a read got a response. -/
def Entry.Answers (e : Entry) : Prop :=
  ∃ response, e = .tried (.answered response) ∨ e = .received (.answered response)

/-- What the log of an exchange says. -/
structure Account (log : List Entry) : Prop where
  /-- The sender responds once or goes away. -/
  sender : log.Pairwise fun a b => ¬(a.OfSender ∧ b.OfSender)
  /-- Somebody is there for a response as long as the receiver has not gone away or timed out. -/
  delivered : ∀ before response delivered after,
    log = before ++ Entry.responded response delivered :: after →
      (delivered = true ↔ .left ∉ before ∧ .timedOut ∉ before)
  /-- A response that was sent is handed out by the first read after it. -/
  first : ∀ before response between read after,
    log = before ++ Entry.responded response true :: (between ++ read :: after) →
      (∀ e ∈ between, ¬e.IsRead) → read.IsRead →
      read = .tried (.answered response) ∨ read = .received (.answered response)
  /-- At most one read gets a response. -/
  once : log.Pairwise fun a b => ¬(a.Answers ∧ b.Answers)
  /-- It gets the one that was sent. -/
  genuine : ∀ before read after response, log = before ++ read :: after →
    read = .tried (.answered response) ∨ read = .received (.answered response) →
      .responded response true ∈ before
  /-- A path that is reported as abandoned after a wait was abandoned, -/
  abandoned : ∀ before after, log = before ++ Entry.received .abandoned :: after →
    .dropped ∈ before
  /-- and so it was after an attempt, unless an earlier one had taken the response. -/
  reported : ∀ before after, log = before ++ Entry.tried .abandoned :: after →
    .dropped ∈ before ∨ ∃ response, .tried (.answered response) ∈ before
  /-- After an attempt that found the end of the path every further one reports it as abandoned, and
  a wait panics, -/
  again : ∀ before read after, log = before ++ read :: after → Exhausted before → read.IsRead →
    read = .tried .abandoned ∨ read = .panicked
  /-- which it does only then. -/
  panicked : ∀ before after, log = before ++ Entry.panicked :: after → Exhausted before

lemma pairwise_of_split {R : Entry → Entry → Prop} {log : List Entry}
    (h : ∀ before entry after, log = before ++ entry :: after → ∀ e ∈ before, R e entry) :
    log.Pairwise R := by
  induction log using List.reverseRecOn with
  | nil => exact .nil
  | append_singleton log entry ih =>
    refine List.pairwise_append.mpr
      ⟨ih fun before e after split => ?_, List.pairwise_singleton _ _, ?_⟩
    · exact h before e (after ++ [entry]) (by rw [split, List.append_assoc]; rfl)
    · intro e he last hlast
      obtain rfl := List.mem_singleton.mp hlast
      exact h log last [] rfl e he

/-- A read that gets a response is the first that does. -/
lemma Sound.not_answers (h : Sound before entry) (answers : entry.Answers) :
    ∀ e ∈ before, ¬e.Answers := by
  rintro e he ⟨response, rfl | rfl⟩
  · have exhausted : Exhausted before := ⟨_, he, nofun⟩
    obtain ⟨response', rfl | rfl⟩ := answers
    · rcases h.2 with ⟨-, other⟩ | ⟨other, -⟩
      · cases other
      · exact other exhausted
    · exact h.2.1 exhausted
  · obtain ⟨response', rfl | rfl⟩ := answers
    · exact h.1 _ he trivial
    · exact h.1 _ he trivial

lemma Sound.again (h : Sound before entry) (exhausted : Exhausted before) (isRead : entry.IsRead) :
    entry = .tried .abandoned ∨ entry = .panicked := by
  cases entry with
  | tried reading =>
    rcases h.2 with ⟨-, rfl⟩ | ⟨other, -⟩
    · exact .inl rfl
    · exact absurd exhausted other
  | looked => exact absurd exhausted h.2.1
  | received reading => exact absurd exhausted h.2.1
  | panicked => exact .inr rfl
  | _ => exact absurd isRead id

lemma Sound.genuine (h : Sound before entry) {response : Response}
    (answer : entry = .tried (.answered response) ∨ entry = .received (.answered response)) :
    .responded response true ∈ before := by
  rcases answer with rfl | rfl
  · rcases h.2 with ⟨-, other⟩ | ⟨-, sent⟩
    · cases other
    · exact sent
  · exact h.2.2.2

section

variable {log : List Entry} {read : Entry} {response : Response}
  (sound : ∀ before entry after, log = before ++ entry :: after → Sound before entry)

include sound

lemma pairwise_sender : log.Pairwise fun a b => ¬(a.OfSender ∧ b.OfSender) := by
  apply pairwise_of_split
  rintro before entry after split e he ⟨earlier, later⟩
  have right := sound before entry after split
  cases entry with
  | responded => exact right.1 e he earlier
  | dropped => exact right e he earlier
  | _ => exact later

/-- The sender wrote nothing but its response. -/
lemma eq_of_ofSender {x : Entry} (split : log = before ++ x :: after) (hx : x.OfSender) :
    ∀ e ∈ log, e.OfSender → e = x := by
  have apart := pairwise_sender sound
  rw [split, List.pairwise_append, List.pairwise_cons] at apart
  obtain ⟨-, ⟨later, -⟩, earlier⟩ := apart
  intro e he hsender
  rw [split, List.mem_append, List.mem_cons] at he
  rcases he with he | rfl | he
  · exact absurd ⟨hsender, hx⟩ (earlier e he x List.mem_cons_self)
  · rfl
  · exact absurd ⟨hx, hsender⟩ (later e he)

/-- Attempts before a response were in vain, so none has found the end of the path. -/
lemma not_exhausted_of_responded {between : List Entry}
    (split : log = before ++ Entry.responded response true :: after)
    (none : ∀ e ∈ between, ¬e.IsRead) :
    ¬Exhausted (before ++ Entry.responded response true :: between) := by
  have calm : ∀ e ∈ before, e.IsRead → e.Fruitless := (sound _ _ _ split).2.1
  rintro ⟨reading, tried, found⟩
  rcases List.mem_append.mp tried with early | tried
  · rcases calm _ early trivial with nothing | other
    · exact found (Entry.tried.inj nothing)
    · cases other
  · rcases List.mem_cons.mp tried with other | late
    · cases other
    · exact none _ late trivial

/-- What is found after a response is this response, because the sender wrote nothing else. -/
lemma finds_responded {earlier : List Entry} {reading : Reading} (split : log = earlier ++ after)
    (responded : .responded response true ∈ earlier) (found : Finds earlier reading) :
    reading = .answered response := by
  have inLog : ∀ e ∈ earlier, e ∈ log := by
    intro e he
    rw [split]
    exact List.mem_append_left _ he
  obtain ⟨first, rest, place⟩ := List.append_of_mem (inLog _ responded)
  have only := eq_of_ofSender sound place trivial
  cases reading with
  | pending => exact absurd trivial (found _ responded)
  | answered other =>
    cases only _ (inLog _ found) trivial
    rfl
  | abandoned => cases only _ (inLog _ found) trivial

/-- The first read after a response gets it. -/
lemma first_read {between : List Entry}
    (split : log = before ++ Entry.responded response true :: (between ++ read :: after))
    (none : ∀ e ∈ between, ¬e.IsRead) (isRead : read.IsRead) :
    read = .tried (.answered response) ∨ read = .received (.answered response) := by
  have split' : log = (before ++ Entry.responded response true :: between) ++ read :: after := by
    rw [split, List.append_assoc]
    rfl
  have right := sound _ _ _ split'
  have fresh := not_exhausted_of_responded sound split none
  have finds : ∀ reading, Finds (before ++ Entry.responded response true :: between) reading →
      reading = .answered response := by
    intro reading found
    exact finds_responded sound split' (List.mem_append_right _ List.mem_cons_self) found
  cases read with
  | tried reading =>
    rcases right.2 with ⟨exhausted, -⟩ | ⟨-, found⟩
    · exact absurd exhausted fresh
    · exact .inl (congrArg _ (finds _ found))
  | looked => cases finds _ right.2.2
  | received reading => exact .inr (congrArg _ (finds _ right.2.2.2))
  | panicked => exact absurd right.2 fresh
  | _ => exact absurd isRead id

/-- A path that an attempt reports as abandoned was abandoned, or an earlier attempt took the
response. -/
lemma reported_abandoned {before after : List Entry}
    (split : log = before ++ Entry.tried .abandoned :: after) :
    .dropped ∈ before ∨ ∃ response, .tried (.answered response) ∈ before := by
  rcases (sound _ _ _ split).2 with ⟨⟨reading, tried, found⟩, -⟩ | ⟨-, dropped⟩
  · cases reading with
    | pending => exact absurd rfl found
    | answered response => exact .inr ⟨response, tried⟩
    | abandoned =>
      obtain ⟨earlier, later, rfl⟩ := List.append_of_mem tried
      have shorter : earlier.length < (earlier ++ Entry.tried .abandoned :: later).length := by simp
      have split' : log =
          earlier ++ Entry.tried .abandoned :: (later ++ Entry.tried .abandoned :: after) := by
        rw [split, List.append_assoc]
        rfl
      exact (reported_abandoned split').imp (List.mem_append_left _)
        (Exists.imp fun _ => List.mem_append_left _)
  · exact .inl dropped
termination_by before.length

end

/-- However a sender and a receiver interleave, the log is an account of a single response. -/
theorem account_of_run (hr : runFrom Exchange.step {} events = some s) : Account s.log := by
  obtain ⟨-, sound⟩ := books_of_run hr
  exact
    { sender := pairwise_sender sound
      delivered := fun _ _ _ _ split => (sound _ _ _ split).2.2
      first := fun _ _ _ _ _ split none isRead => first_read sound split none isRead
      once := pairwise_of_split fun _ _ _ split e he ⟨earlier, later⟩ =>
        (sound _ _ _ split).not_answers later e he earlier
      genuine := fun _ _ _ _ split answer => (sound _ _ _ split).genuine answer
      abandoned := fun _ _ split => (sound _ _ _ split).2.2.2
      reported := fun _ _ split => reported_abandoned sound split
      again := fun _ _ _ split exhausted isRead => (sound _ _ _ split).again exhausted isRead
      panicked := fun _ _ split => (sound _ _ _ split).2 }

/-- A receiver tries, waits for some time, and is answered at the last moment. -/
def answeredLate : List Event := [.tryReceive, .wait true, .look false, .respond .ack, .look true]

theorem account_of_run_answeredLate :
    (runFrom Exchange.step {} answeredLate).map log =
        some [.tried .pending, .looked, .responded .ack true, .received (.answered .ack)] ∧
      Account [.tried .pending, .looked, .responded .ack true, .received (.answered .ack)] := by
  have run : runFrom Exchange.step {} answeredLate = some
      { path := { sender := .sent .ack, receiver := .gone }, stance := .done,
        log := [.tried .pending, .looked, .responded .ack true, .received (.answered .ack)] } := by
    decide +kernel
  exact ⟨by rw [run]; rfl, account_of_run run⟩

/-- A receiver that has found the end of its path panics when it waits, and reports a path through
which it got a response as abandoned. -/
theorem used_again :
    (runFrom Exchange.step {} [.abandon, .tryReceive, .wait false, .look false]).map log =
        some [.dropped, .tried .abandoned, .panicked] ∧
      (runFrom Exchange.step {} [.respond .ack, .tryReceive, .tryReceive]).map log =
        some [.responded .ack true, .tried (.answered .ack), .tried .abandoned] := by
  decide +kernel

end Conveyor.Exchange
