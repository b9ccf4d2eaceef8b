import Conveyor.Proofs.Pool.Lanes
import Conveyor.Proofs.Processor.Books
import Conveyor.Proofs.Site.Order
import Mathlib.Algebra.BigOperators.Group.Multiset.Basic
import Mathlib.Tactic.Abel

/-!
# The books of a site

What the dispatcher and the lanes hold, and the entries that the moves of all parties make in the
books of the site (`Site.Orderly.books_move`).
-/

namespace Conveyor

variable {σ : Type} {process : Behaviour σ}

/-! ### Lanes -/

namespace Lane

/-- The transactions that a lane has to answer. -/
def work (lane : Lane (Processor σ)) : Multiset Nat :=
  lane.pipeline.work + replies lane.queue.queue

/-- The results on their way out of a lane. -/
def goods (lane : Lane (Processor σ)) : Multiset Nat :=
  replies lane.carried.toList + replies lane.output.queue

/-- The results whose answers the worker of a lane is still going to read. -/
def awaited (lane : Lane (Processor σ)) : Multiset Nat := lane.pipeline.awaited

@[simp] lemma work_givenUp (lane : Lane (Processor σ)) : lane.givenUp.work = lane.work := by
  simp [work, givenUp]

@[simp] lemma goods_givenUp (lane : Lane (Processor σ)) : lane.givenUp.goods = lane.goods := rfl

@[simp] lemma awaited_givenUp (lane : Lane (Processor σ)) :
    lane.givenUp.awaited = lane.awaited := by
  simp [awaited, givenUp]

@[simp] lemma work_started (laneBuffer index : Nat) (p : Processor σ) :
    (started laneBuffer index p).work = 0 := rfl

@[simp] lemma goods_started (laneBuffer index : Nat) (p : Processor σ) :
    (started laneBuffer index p).goods = 0 := rfl

@[simp] lemma awaited_started (laneBuffer index : Nat) (p : Processor σ) :
    (started laneBuffer index p).awaited = 0 := rfl

end Lane

/-! ### Dispatchers -/

namespace Dispatcher

/-- The transaction that the dispatcher holds. -/
def Slot.waiting : Slot → List Transaction
  | .empty        => []
  | .pending t    => [t]
  | .reserved t _ => [t]

/-- What all lanes have together. -/
def total (d : Dispatcher (Processor σ)) (f : Lane (Processor σ) → Multiset Nat) : Multiset Nat :=
  (d.lanes.map f).sum

variable {d d' : Dispatcher (Processor σ)} {f : Lane (Processor σ) → Multiset Nat}

/-- A lane and the others. -/
lemma total_set {i : Nat} {lane : Lane (Processor σ)} (hl : d.lanes[i]? = some lane)
    (f : Lane (Processor σ) → Multiset Nat) :
    ∃ rest, d.total f = f lane + rest ∧
      ∀ lane', ((d.lanes.set i lane').map f).sum = f lane' + rest :=
  sum_map_set hl f

/-- A change of the number of lanes moves nothing. -/
lemma Refits.sum_map {M : Type} [AddCommMonoid M] {f : Lane (Processor σ) → M} (h : Refits d d')
    (given : ∀ lane, f lane.givenUp = f lane)
    (started : ∀ laneBuffer index p, f (.started laneBuffer index p) = 0) :
    (d'.lanes.map f).sum = (d.lanes.map f).sum := by
  induction h with
  | refl => rfl
  | tail _ refit ih =>
    cases refit with
    | retire hl =>
      obtain ⟨rest, hsum, hset⟩ := sum_map_set hl f
      rw [← ih, hsum, ← given]
      exact hset _
    | start hp laneBuffer index =>
      rw [← ih]
      simp [started, List.sum_append]
    | stray => exact ih

lemma Refits.total (h : Refits d d') (given : ∀ lane, f lane.givenUp = f lane)
    (started : ∀ laneBuffer index p, f (.started laneBuffer index p) = 0) :
    d'.total f = d.total f := h.sum_map given started

end Dispatcher

/-! ### Sites -/

namespace Site

/-- The books of a site. -/
def books (site : Site σ) (d : Dispatcher (Processor σ)) : Books :=
  site.dock.books
    { work := replies d.slot.waiting + d.total Lane.work
      goods := d.total Lane.goods
      awaited := d.total Lane.awaited
      accepted := 0
      emitted := replies site.results
      ledger := {} }

variable {site site' : Site σ} {d d' : Dispatcher (Processor σ)}

/-- What one lane has in the books, and what the others have. -/
lemma books_lane (site : Site σ) {i : Nat} {lane : Lane (Processor σ)}
    (hl : d.lanes[i]? = some lane) :
    ∃ work goods awaited,
      site.books d = site.dock.books
        { work := replies d.slot.waiting + (lane.work + work)
          goods := lane.goods + goods
          awaited := lane.awaited + awaited
          accepted := 0
          emitted := replies site.results
          ledger := {} } ∧
      ∀ (site' : Site σ) (d' : Dispatcher (Processor σ)) (lane' : Lane (Processor σ)),
        d'.lanes = d.lanes.set i lane' → site'.books d' = site'.dock.books
          { work := replies d'.slot.waiting + (lane'.work + work)
            goods := lane'.goods + goods
            awaited := lane'.awaited + awaited
            accepted := 0
            emitted := replies site'.results
            ledger := {} } := by
  obtain ⟨work, hwork, setWork⟩ := Dispatcher.total_set hl Lane.work
  obtain ⟨goods, hgoods, setGoods⟩ := Dispatcher.total_set hl Lane.goods
  obtain ⟨awaited, hawaited, setAwaited⟩ := Dispatcher.total_set hl Lane.awaited
  refine ⟨work, goods, awaited, ?_, fun site' d' lane' hd => ?_⟩
  · rw [books, hwork, hgoods, hawaited]
  · rw [books, Dispatcher.total, Dispatcher.total, Dispatcher.total, hd, setWork, setGoods,
      setAwaited]

/-- A change of the number of lanes makes no entries. -/
lemma total_refits (h : Dispatcher.Refits d d') :
    d'.total Lane.work = d.total Lane.work ∧ d'.total Lane.goods = d.total Lane.goods ∧
      d'.total Lane.awaited = d.total Lane.awaited := by
  refine ⟨h.total ?_ ?_, h.total ?_ ?_, h.total ?_ ?_⟩
  all_goals simp

lemma books_dispatch (h : site.Orderly d) {report : List (Nat × Transaction)}
    {pool : Pool (Processor σ)} {around : Surroundings}
    (m : Pool.Move site.pool d site.dock.around report pool d' around)
    (hdock : site'.dock = { site.dock with around }) (hresults : site'.results = site.results) :
    Books.Steps (site.books d) (site'.books d') := by
  cases m with
  | hear hp => exact .of_eq (by simp [books, Dock.books, hdock, hresults, Dispatcher.total])
  | resize hp refits =>
    obtain ⟨hwork, hgoods, hawaited⟩ := total_refits refits
    unfold Dispatcher.total at hwork hgoods hawaited
    exact .of_eq (by
      simp [books, Dock.books, hdock, hresults, Dispatcher.total, hwork, hgoods, hawaited,
        refits.frame.1])
  | choose hp hs | keep hp hs =>
    exact .of_eq (by
      simp [books, Dock.books, hdock, hresults, Dispatcher.total, hs, Dispatcher.Slot.waiting])
  | @refuse t hp hs =>
    refine .single ?_
    convert Books.Step.answer (b := site.books d) t.reply
      (replies site.dock.around.input.queue + d.total Lane.work) ?_
      (.error (.delivery "no lane is accepting transactions")) using 1
    · simp [books, Dock.books, hdock, hresults, Dispatcher.total, Dispatcher.Slot.waiting]
    · simp [books, Dock.books, hs, Dispatcher.Slot.waiting]
  | @hand t position i lane hp hs hl used room cursor =>
    obtain ⟨work, goods, awaited, before, after⟩ := books_lane site hl
    rw [before, after site' _ _ rfl]
    exact .of_eq (by simp [Dock.books, hdock, hresults, hs, Dispatcher.Slot.waiting, Lane.work,
      Lane.goods, Lane.awaited])
  | read hp hs hq =>
    exact .of_eq (by
      simp [books, Dock.books, hdock, hresults, Dispatcher.total, hs, hq, Dispatcher.Slot.waiting])
  | leave hp hs hq spent => exact .of_eq (by simp [books, Dock.books, hdock, hresults, Dispatcher.total])
  | retire hp refits all =>
    obtain ⟨hwork, hgoods, hawaited⟩ := total_refits refits
    unfold Dispatcher.total at hwork hgoods hawaited
    exact .of_eq (by
      simp [books, Dock.books, hdock, hresults, Dispatcher.total, hwork, hgoods, hawaited,
        refits.frame.1])
  | finish hp all =>
    obtain ⟨-, hq, -⟩ := h.left (by simp [hp])
    exact .of_eq (by
      simp [books, Dock.books, hdock, hresults, Dispatcher.total, hq, Channel.shut])

lemma books_relay {i : Nat} {lane lane' : Lane (Processor σ)} {around : Surroundings}
    (hl : d.lanes[i]? = some lane) (c : Lane.Carry lane site.dock.around lane' around)
    (hdock : site'.dock = { site.dock with around }) (hresults : site'.results = site.results) :
    Books.Steps (site.books d) (site'.books { d with lanes := d.lanes.set i lane' }) := by
  obtain ⟨work, goods, awaited, before, after⟩ := books_lane site hl
  rw [before, after site' _ _ rfl]
  cases c with
  | take active hc hq =>
    exact .of_eq (by simp [Dock.books, hdock, hresults, hc, hq, Lane.work, Lane.goods,
      Lane.awaited])
  | deliver active hc room =>
    exact .of_eq (by simp [Dock.books, hdock, hresults, hc, Lane.work, Lane.goods, Lane.awaited])
  | @lose t active hc closed =>
    refine .single ?_
    convert Books.Step.drop t.reply
      (replies site.dock.around.output.queue + (replies site.dock.held +
        (replies lane.output.queue + goods))) ?_ using 1
    · simp [Dock.books, hdock, hresults, Lane.work, Lane.goods, Lane.awaited]
    · simp [Dock.books, Lane.goods, hc]
  | finish active hc hq spent =>
    exact .of_eq (by simp [Dock.books, hdock, hresults, hq, Lane.work, Lane.goods, Lane.awaited,
      Channel.shut])

/-- The books of a site are those of the worker of a lane, on top of all else. -/
lemma books_worker (site : Site σ) {i : Nat} {lane : Lane (Processor σ)}
    (hl : d.lanes[i]? = some lane) :
    ∃ rest : Books,
      site.books d = lane.pipeline.books (lane.surroundings site.dock.around) rest ∧
      rest.emitted = replies site.results ∧
      ∀ (site' : Site σ) (p : Processor σ) (inner : Surroundings),
        site'.dock = { site.dock with
          around := { site.dock.around with ledger := inner.ledger, metrics := inner.metrics } } →
        site'.books
            { d with
              lanes := d.lanes.set i
                { lane with pipeline := p, queue := inner.input, output := inner.output } } =
          p.books inner { rest with emitted := replies site'.results } := by
  obtain ⟨work, goods, awaited, before, after⟩ := books_lane site hl
  refine ⟨
    { work := work + (replies site.dock.around.input.queue + replies d.slot.waiting)
      goods := replies lane.carried.toList + goods +
        (replies site.dock.around.output.queue + replies site.dock.held)
      awaited := awaited
      accepted := replies site.dock.accepted
      emitted := replies site.results
      ledger := {} }, ?_, rfl, fun site' p inner hdock => ?_⟩
  · rw [before]
    ext1 <;> simp only [Dock.books, Processor.books, Lane.work, Lane.goods, Lane.awaited,
      Lane.surroundings] <;> abel
  · rw [after site' _ _ rfl]
    ext1 <;> simp only [Dock.books, Processor.books, Lane.work, Lane.goods, Lane.awaited, hdock] <;>
      abel

/-- Whatever goes on at a site makes entries in its books. -/
theorem Orderly.books_move (h : site.Orderly d) (hb : (site.books d).Balanced)
    (m : Move process site d site' d') : Books.Steps (site.books d) (site'.books d') := by
  cases m with
  | user hd => exact Dock.books_of_step hd
  | dispatch m => exact books_dispatch h m rfl (results_dispatch site _)
  | relay hl c => exact books_relay hl c rfl rfl
  | @work i lane reports p inner hl m =>
    obtain ⟨rest, before, hemitted, after⟩ := books_worker site hl
    rw [before, after _ p inner rfl, results_work, replies_append, add_comm, ← hemitted]
    exact m.books rest (before ▸ hb)
  | ask | stop => exact .of_eq rfl
  | @closeLane i lane hl =>
    obtain ⟨work, goods, awaited, before, after⟩ := books_lane site hl
    rw [before, after _ _ _ rfl]
    exact .of_eq (by simp [Lane.work, Lane.goods, Lane.awaited]; rfl)

end Site

end Conveyor
