import Conveyor.Proofs.Bench.Refinement
import Conveyor.Stage.Catalogue

/-!
# The failure that is answered

When all results of a transaction are sent, the worker looks at each of them once, in the order of
sending, and then waits for those that have not come to an end. So a failure that is there at the
first look comes before all that are found later, and of several such failures the first one in the
order of sending is answered (`Bench.failure_by_looks`). They may have arrived in another order while
the worker was still sending (`Bench.failure_out_of_turn`). If none is there, the first failure to
arrive is answered.
-/

namespace Conveyor

variable {σ : Type}

/-! ### Failures in a log -/

/-- The first failure in a log that one of some paths came to an end with. -/
def firstFailure (log : List (Nat × Ending)) (ids : List Nat) : Option Failure :=
  log.findSome? fun entry => if entry.1 ∈ ids then entry.2.failure? else none

section FirstFailure

variable {log log' : List (Nat × Ending)} {ids ids' : List Nat} {id : Nat} {e : Ending}

lemma firstFailure_append : firstFailure (log ++ log') ids =
    (firstFailure log ids).or (firstFailure log' ids) := List.findSome?_append

lemma firstFailure_eq_none_iff : firstFailure log ids = none ↔
    ∀ entry ∈ log, entry.1 ∈ ids → entry.2.failure? = none := by
  simp [firstFailure]

lemma firstFailure_eq_none (h : ∀ entry ∈ log, entry.1 ∉ ids) : firstFailure log ids = none :=
  firstFailure_eq_none_iff.mpr fun entry hmem here => absurd here (h entry hmem)

lemma firstFailure_singleton (h : id ∈ ids) : firstFailure [(id, e)] ids = e.failure? := by
  simp [firstFailure, h]

/-- A path that came to an end once came to an end with this failure, if at all. -/
lemma firstFailure_of_mem (distinct : (log.map Prod.fst).Nodup) (h : (id, e) ∈ log) :
    firstFailure log [id] = e.failure? := by
  obtain ⟨before, after, rfl⟩ := List.append_of_mem h
  rw [List.map_append, List.map_cons] at distinct
  obtain ⟨notBefore, notAfter⟩ : id ∉ before.map Prod.fst ∧ id ∉ after.map Prod.fst := by
    simpa using (List.nodup_cons.mp (List.nodup_middle.mp distinct)).1
  have others {part : List (Nat × Ending)} (absent : id ∉ part.map Prod.fst) :
      firstFailure part [id] = none := by
    refine firstFailure_eq_none fun entry hmem here => absent ?_
    exact List.mem_singleton.mp here ▸ List.mem_map_of_mem hmem
  rw [List.append_cons, firstFailure_append, firstFailure_append, others notBefore,
    others notAfter, firstFailure_singleton (List.mem_singleton_self id), Option.or_none,
    Option.none_or]

/-- Paths that came to an end without a failure do not matter. -/
lemma firstFailure_congr (h : ∀ entry ∈ log, entry.2.failure? = none ∨
    (entry.1 ∈ ids ↔ entry.1 ∈ ids')) : firstFailure log ids = firstFailure log ids' := by
  induction log with
  | nil => rfl
  | cons entry log ih =>
    obtain ⟨first, later⟩ := List.forall_mem_cons.mp h
    have head : firstFailure [entry] ids = firstFailure [entry] ids' := by
      rcases first with fine | same
      · simp [firstFailure, fine]
      · simp [firstFailure, same]
    rw [← List.singleton_append, firstFailure_append, firstFailure_append, head, ih later]

end FirstFailure

/-! ### Looks -/

/-- The first look of a worker at a result, and the bench at that time. -/
structure Look (σ : Type) where
  /-- The path of the result. -/
  id : Nat
  bench : Bench σ

namespace Look

/-- What had come to an end. -/
def log (look : Look σ) : List (Nat × Ending) := look.bench.dock.around.ledger.settled

/-- The failure of the result, if it was there. -/
def failure? (look : Look σ) : Option Failure := firstFailure look.log [look.id]

/-- The results that had not come to an end when they were looked at. -/
def late (looks : List (Look σ)) : List Nat :=
  (looks.filter fun look => look.id ∉ look.log.map Prod.fst).map id

variable {looks : List (Look σ)} {look : Look σ}

lemma late_append (looks looks' : List (Look σ)) :
    late (looks ++ looks') = late looks ++ late looks' := by
  simp [late]

lemma late_of_notMem (h : look.id ∉ look.log.map Prod.fst) : late [look] = [look.id] := by
  simp [late, h]

lemma late_of_mem (h : look.id ∈ look.log.map Prod.fst) : late [look] = [] := by
  simp [late, h]

lemma failure?_of_notMem (h : look.id ∉ look.log.map Prod.fst) : look.failure? = none := by
  refine firstFailure_eq_none fun entry hmem here => h ?_
  exact List.mem_singleton.mp here ▸ List.mem_map_of_mem hmem

lemma late_sublist (looks : List (Look σ)) : (late looks).Sublist (looks.map id) :=
  List.filter_sublist.map id

lemma mem_late (hlook : look ∈ looks) (h : look.id ∉ look.log.map Prod.fst) :
    look.id ∈ late looks := List.mem_map_of_mem (List.mem_filter.mpr ⟨hlook, decide_eq_true h⟩)

/-- If no failure was there at the first looks, only late results can have failed. -/
lemma firstFailure_late {log : List (Nat × Ending)} (none : looks.findSome? failure? = none)
    (distinct : (log.map Prod.fst).Nodup) (past : ∀ look ∈ looks, look.log <+: log) :
    firstFailure log (late looks) = firstFailure log (looks.map id) := by
  refine firstFailure_congr fun ⟨x, e⟩ he => ?_
  by_cases hlate : x ∈ late looks
  · exact .inr (iff_of_true hlate ((late_sublist looks).subset hlate))
  by_cases own : x ∈ looks.map id
  · obtain ⟨look, hlook, rfl⟩ := List.mem_map.mp own
    obtain ⟨⟨_, e'⟩, he', same⟩ := List.mem_map.mp
      (not_not.mp fun ended => hlate (mem_late hlook ended))
    obtain ⟨rfl, rfl⟩ := Prod.mk.inj
      (List.inj_on_of_nodup_map distinct ((past look hlook).subset he') he same)
    have fine : look.failure? = Option.none := List.findSome?_eq_none_iff.mp none look hlook
    refine .inl (Eq.trans ?_ fine)
    exact (firstFailure_of_mem (distinct.sublist ((past look hlook).sublist.map Prod.fst)) he').symm
  · exact .inr (iff_of_false hlate own)

end Look

/-- How the answers that a worker has found so far are reduced: those that were there at the first
looks come before the others, of which it has found those in the beginning `seen` of the log. -/
structure Collected (log : List (Nat × Ending)) (looks : List (Look σ))
    (seen : List (Nat × Ending)) (watched : List Nat) (failure : Option Failure) : Prop where
  earlier : seen <+: log
  unseen : watched = (Look.late looks).filter (· ∉ seen.map Prod.fst)
  found : failure = (looks.findSome? Look.failure?).or (firstFailure seen (Look.late looks))

namespace Collected

variable {log log' seen : List (Nat × Ending)} {looks : List (Look σ)} {look : Look σ} {id : Nat}
  {e : Ending} {watched : List Nat} {failure : Option Failure}

lemma mono (h : Collected log looks seen watched failure) (hs : log <+: log') :
    Collected log' looks seen watched failure := ⟨h.earlier.trans hs, h.unseen, h.found⟩

lemma start (log : List (Nat × Ending)) : Collected (σ := σ) log [] [] [] none :=
  ⟨List.nil_prefix, rfl, rfl⟩

/-- A look at a result that has not come to an end. -/
lemma watch (h : Collected log looks [] watched failure)
    (absent : look.id ∉ look.log.map Prod.fst) :
    Collected log (looks ++ [look]) [] (watched ++ [look.id]) failure := by
  refine ⟨h.earlier, ?_, ?_⟩
  · rw [h.unseen, Look.late_append, Look.late_of_notMem absent]
    simp
  · rw [h.found, List.findSome?_append, List.findSome?_singleton,
      Look.failure?_of_notMem absent, Option.or_none]
    rfl

/-- A look at a result that has come to an end. -/
lemma collect (h : Collected log looks [] watched failure)
    (distinct : (look.log.map Prod.fst).Nodup) (he : (look.id, e) ∈ look.log) :
    Collected log (looks ++ [look]) [] watched (failure.or e.failure?) := by
  refine ⟨h.earlier, ?_, ?_⟩
  · rw [h.unseen, Look.late_append, Look.late_of_mem (List.mem_map_of_mem he), List.append_nil]
  · have found : look.failure? = e.failure? := firstFailure_of_mem distinct he
    rw [h.found, List.findSome?_append, List.findSome?_singleton, found]
    simp [firstFailure]

/-- What the log says between what was seen and the next watched result is about other paths. -/
lemma exists_between (h : Collected log looks seen watched failure)
    (distinct : (log.map Prod.fst).Nodup) {before after : List (Nat × Ending)}
    (split : log = before ++ (id, e) :: after) (hid : id ∈ watched)
    (others : ∀ entry ∈ before, entry.1 ∉ watched) :
    ∃ between, before = seen ++ between ∧ ∀ entry ∈ between, entry.1 ∉ Look.late looks := by
  obtain ⟨-, unseen⟩ : id ∈ Look.late looks ∧ id ∉ seen.map Prod.fst := by
    simpa [h.unseen] using hid
  obtain ⟨between, rfl⟩ : seen <+: before := by
    have here : before ++ [(id, e)] <+: log := ⟨after, by simp [split]⟩
    rcases List.prefix_or_prefix_of_prefix h.earlier here with ahead | behind
    · refine (List.prefix_concat_iff.mp ahead).resolve_left fun same => unseen ?_
      simp [same]
    · exact absurd (List.mem_map_of_mem (behind.subset List.mem_concat_self)) unseen
  refine ⟨between, rfl, fun entry hmem hlate => ?_⟩
  -- a late result that is not watched any more was seen, and comes to an end only once
  have notWatched := others entry (List.mem_append_right _ hmem)
  have again : entry.1 ∈ seen.map Prod.fst := by simpa [h.unseen, hlate] using notWatched
  rw [split, List.append_assoc, List.map_append] at distinct
  refine (List.nodup_append.mp distinct).2.2 _ again _ ?_ rfl
  exact List.mem_map_of_mem (List.mem_append_left _ hmem)

/-- The first of the watched results to come to an end. -/
lemma collectWatched (h : Collected log looks seen watched failure)
    (distinct : (log.map Prod.fst).Nodup) (own : (looks.map Look.id).Nodup)
    {before after : List (Nat × Ending)} (split : log = before ++ (id, e) :: after)
    (hid : id ∈ watched) (others : ∀ entry ∈ before, entry.1 ∉ watched) :
    Collected log looks (before ++ [(id, e)]) (watched.erase id) (failure.or e.failure?) := by
  have distinctLate : (Look.late looks).Nodup := own.sublist (Look.late_sublist looks)
  have late : id ∈ Look.late looks := List.mem_of_mem_filter (h.unseen ▸ hid)
  obtain ⟨between, rfl, foreign⟩ := h.exists_between distinct split hid others
  refine ⟨⟨after, by simp [split]⟩, ?_, ?_⟩
  · rw [(h.unseen ▸ distinctLate.filter _ : watched.Nodup).erase_eq_filter, h.unseen,
      List.filter_filter]
    refine List.filter_congr fun x hx => ?_
    have apart : x ∉ between.map Prod.fst := by
      intro hmem
      obtain ⟨entry, hentry, rfl⟩ := List.mem_map.mp hmem
      exact foreign entry hentry hx
    have seen' : x ∈ (seen ++ between ++ [(id, e)]).map Prod.fst ↔
        x ∈ seen.map Prod.fst ∨ x = id := by
      rw [List.map_append, List.map_append, List.mem_append, List.mem_append,
        or_iff_left apart, List.map_singleton, List.mem_singleton]
    rw [Bool.eq_iff_iff, Bool.and_eq_true, bne_iff_ne, decide_eq_true_iff, decide_eq_true_iff,
      seen', not_or, and_comm]
  · rw [firstFailure_append, firstFailure_append, firstFailure_eq_none foreign,
      firstFailure_singleton late, h.found, Option.or_none, Option.or_assoc]

/-- When nothing is watched any more, the first failure among those found late is the first one in
the log. -/
lemma complete (h : Collected log looks seen [] failure) (distinct : (log.map Prod.fst).Nodup)
    (past : ∀ look ∈ looks, look.log <+: log) :
    (∀ look ∈ looks, ∃ e, (look.id, e) ∈ log) ∧
      failure = (looks.findSome? Look.failure?).or (firstFailure log (looks.map Look.id)) := by
  obtain ⟨rest, rfl⟩ := h.earlier
  have all : ∀ id ∈ Look.late looks, id ∈ seen.map Prod.fst := by
    simpa using h.unseen
  refine ⟨fun look hlook => ?_, ?_⟩
  · by_cases ended : look.id ∈ look.log.map Prod.fst
    · obtain ⟨⟨_, e⟩, he, rfl⟩ := List.mem_map.mp ended
      exact ⟨e, (past look hlook).subset he⟩
    · obtain ⟨⟨_, e⟩, he, same⟩ := List.mem_map.mp (all _ (Look.mem_late hlook ended))
      exact ⟨e, same ▸ List.mem_append_left _ he⟩
  · rw [h.found]
    cases hfound : looks.findSome? Look.failure? with
    | some failure => rfl
    | none =>
      -- all late results were seen, so none of them comes later
      have nothing : firstFailure rest (Look.late looks) = none := by
        refine firstFailure_eq_none fun entry hmem hlate => ?_
        rw [List.map_append] at distinct
        exact (List.nodup_append.mp distinct).2.2 _ (all _ hlate) _ (List.mem_map_of_mem hmem) rfl
      rw [Option.none_or, Option.none_or, ← Look.firstFailure_late hfound distinct past,
        firstFailure_append, nothing, Option.or_none]

end Collected

namespace Bench

variable {process : Behaviour σ} {chain : List σ} {bench bench' : Bench σ} {e : Event}
  {events : List Event}

/-- The results that the worker made for a transaction. -/
def made (bench : Bench σ) (origin : Nat) : List Transaction :=
  Report.results (bench.journal.filter (·.origin = origin))

lemma made_append {new : List (Report σ)} (journal : bench'.journal = bench.journal ++ new)
    (origin : Nat) :
    bench'.made origin = bench.made origin ++ Report.results (new.filter (·.origin = origin)) := by
  rw [made, made, journal, List.filter_append, Report.results_append]

/-- Reports about other transactions do not matter. -/
lemma made_of_ne {new : List (Report σ)} (journal : bench'.journal = bench.journal ++ new)
    {origin : Nat} (others : ∀ report ∈ new, report.origin ≠ origin) :
    bench'.made origin = bench.made origin := by
  have none : new.filter (·.origin = origin) = [] :=
    List.filter_eq_nil_iff.mpr fun report hreport => by simpa using others report hreport
  rw [made_append journal, none, Report.results_nil, List.append_nil]

lemma made_of_results_eq_nil {new : List (Report σ)}
    (journal : bench'.journal = bench.journal ++ new) (nothing : Report.results new = [])
    (origin : Nat) : bench'.made origin = bench.made origin := by
  have none : Report.results (new.filter (·.origin = origin)) = [] :=
    List.sublist_nil.mp (nothing ▸ List.filter_sublist.filterMap _)
  rw [made_append journal, none, List.append_nil]

/-- The look that the next move of the worker is, if it is a first look at a result. -/
def look? (bench : Bench σ) : Option (Look σ) :=
  match bench.processor.phase with
  | .joining _ (id :: _) _ _ => some ⟨id, bench⟩
  | _                        => none

/-- The look that an event is, if it is one. -/
def noted (bench : Bench σ) : Event → List (Look σ)
  | .work           => bench.look?.toList
  | .user _ | .close => []

/-- The first looks of the worker in a run, in their order. -/
def looks (process : Behaviour σ) (bench : Bench σ) : List Event → List (Look σ)
  | []          => []
  | e :: events =>
    (bench.step process e).elim [] fun next => bench.noted e ++ next.looks process events

/-- How far the worker is with the answers to the results of a transaction. -/
structure Joining (log : List (Nat × Ending)) (results : List Transaction) (origin : Nat)
    (looks : List (Look σ)) (unread watched : List Nat) (failure : Option Failure) : Prop where
  order : looks.map Look.id ++ unread = results.map Transaction.reply
  sent : ∀ look ∈ looks, look.bench.made origin = results
  grow : (looks.map Look.log).Pairwise (· <+: ·)
  past : ∀ look ∈ looks, look.log <+: log
  collected : ∃ seen, Collected log looks seen watched failure ∧ (unread ≠ [] → seen = [])

/-- How an answer was found, `before` being what had come to an end when it was given. -/
structure Found (results : List Transaction) (origin : Nat) (looks : List (Look σ))
    (before : List (Nat × Ending)) (response : Response) : Prop where
  /-- The worker looked at the results in the order of sending. -/
  order : looks.map Look.id = results.map Transaction.reply
  /-- It did so after all of them were sent. -/
  sent : ∀ look ∈ looks, look.bench.made origin = results
  grow : (looks.map Look.log).Pairwise (· <+: ·)
  past : ∀ look ∈ looks, look.log <+: before
  resolved : ∀ result ∈ results, ∃ e, (result.reply, e) ∈ before
  /-- A failure that was there at the first look comes before all that came later. -/
  failure : response.failure? =
    (looks.findSome? Look.failure?).or (firstFailure before (results.map Transaction.reply))

namespace Joining

variable {log log' : List (Nat × Ending)} {results : List Transaction} {origin : Nat}
  {looks : List (Look σ)} {unread watched watched' : List Nat} {failure failure' : Option Failure}

lemma start (log : List (Nat × Ending)) (results : List Transaction) (origin : Nat) :
    Joining (σ := σ) log results origin [] (results.map Transaction.reply) [] none where
  order := rfl
  sent := by simp
  grow := .nil
  past := by simp
  collected := ⟨[], .start log, fun _ => rfl⟩

lemma mono (h : Joining log results origin looks unread watched failure) (hs : log <+: log') :
    Joining log' results origin looks unread watched failure where
  order := h.order
  sent := h.sent
  grow := h.grow
  past := fun look hlook => (h.past look hlook).trans hs
  collected :=
    let ⟨seen, collected, first⟩ := h.collected
    ⟨seen, collected.mono hs, first⟩

/-- The worker looks at the next result. -/
lemma look {id : Nat} (h : Joining bench.dock.around.ledger.settled results origin looks
      (id :: unread) watched failure) (made : bench.made origin = results)
    (collected : Collected bench.dock.around.ledger.settled looks [] watched failure →
      Collected bench.dock.around.ledger.settled (looks ++ [⟨id, bench⟩]) [] watched' failure') :
    Joining bench.dock.around.ledger.settled results origin (looks ++ [⟨id, bench⟩]) unread watched'
      failure' where
  order := by
    rw [← h.order]
    simp
  sent := by
    intro look hlook
    rcases List.mem_append.mp hlook with hlook | hlook
    · exact h.sent look hlook
    · exact List.mem_singleton.mp hlook ▸ made
  grow := by
    rw [List.map_append, List.pairwise_append]
    refine ⟨h.grow, List.pairwise_singleton .., fun log hlog last hlast => ?_⟩
    obtain ⟨look, hlook, rfl⟩ := List.mem_map.mp hlog
    exact List.mem_singleton.mp hlast ▸ h.past look hlook
  past := by
    intro look hlook
    rcases List.mem_append.mp hlook with hlook | hlook
    · exact h.past look hlook
    · exact List.mem_singleton.mp hlook ▸ List.prefix_rfl
  collected := by
    obtain ⟨seen, old, first⟩ := h.collected
    obtain rfl := first (List.cons_ne_nil id unread)
    exact ⟨[], collected old, fun _ => rfl⟩

/-- The worker collects the first of the watched results to come to an end. -/
lemma collectWatched {id : Nat} {e : Ending}
    (h : Joining log results origin looks [] watched failure)
    (distinct : (log.map Prod.fst).Nodup) (own : (results.map Transaction.reply).Nodup)
    {before after : List (Nat × Ending)} (split : log = before ++ (id, e) :: after)
    (hid : id ∈ watched) (others : ∀ entry ∈ before, entry.1 ∉ watched) :
    Joining log results origin looks [] (watched.erase id) (failure.or e.failure?) where
  order := h.order
  sent := h.sent
  grow := h.grow
  past := h.past
  collected := by
    obtain ⟨seen, collected, -⟩ := h.collected
    rw [← h.order, List.append_nil] at own
    exact ⟨_, collected.collectWatched distinct own split hid others, fun left => absurd rfl left⟩

/-- When nothing is left to look at, this is how the answer was found. -/
lemma found {response : Response}
    (h : Joining log results origin looks [] [] response.failure?)
    (distinct : (log.map Prod.fst).Nodup) :
    Found results origin looks log response := by
  obtain ⟨seen, collected, -⟩ := h.collected
  obtain ⟨resolved, failure⟩ := collected.complete distinct h.past
  have order : looks.map Look.id = results.map Transaction.reply := by
    rw [← h.order, List.append_nil]
  refine ⟨order, h.sent, h.grow, h.past, fun result hresult => ?_, order ▸ failure⟩
  have looked : result.reply ∈ looks.map Look.id := order ▸ List.mem_map_of_mem hresult
  obtain ⟨look, hlook, same⟩ := List.mem_map.mp looked
  exact same ▸ resolved look hlook

end Joining

/-- An answer is a success if and only if all results succeeded. -/
lemma Found.ack_iff {results : List Transaction} {origin : Nat} {looks : List (Look σ)}
    {before : List (Nat × Ending)} {response : Response}
    (h : Found results origin looks before response) (distinct : (before.map Prod.fst).Nodup) :
    response = .ack ↔ ∀ result ∈ results, (result.reply, .answered .ack) ∈ before := by
  have none_iff : response = .ack ↔ response.failure? = none := by
    cases response <;> simp [Response.failure?]
  rw [none_iff, h.failure, Option.or_eq_none_iff]
  constructor
  · rintro ⟨-, fine⟩ result hresult
    obtain ⟨e, he⟩ := h.resolved result hresult
    have success := firstFailure_eq_none_iff.mp fine _ he (List.mem_map_of_mem hresult)
    exact Ending.eq_ack_of_failure? success ▸ he
  · intro acked
    have success : ∀ entry ∈ before, entry.1 ∈ results.map Transaction.reply →
        entry.2.failure? = none := by
      intro entry hentry own
      obtain ⟨result, hresult, same⟩ := List.mem_map.mp own
      rw [← List.inj_on_of_nodup_map distinct (acked result hresult) hentry same]
      rfl
    refine ⟨List.findSome?_eq_none_iff.mpr fun look hlook => ?_,
      firstFailure_eq_none_iff.mpr success⟩
    refine firstFailure_eq_none_iff.mpr fun entry hentry here => ?_
    refine success entry ((h.past look hlook).subset hentry) ?_
    rw [← h.order, List.mem_singleton.mp here]
    exact List.mem_map_of_mem hlook

/-! ### Runs -/

/-- What holds of a bench and of the first looks of its worker. -/
structure Looked (bench : Bench σ) (looks : List (Look σ)) : Prop where
  current : ∀ origin unread watched failure,
    bench.processor.phase = .joining origin unread watched failure →
      ∃ own, own <:+ looks ∧ Joining bench.dock.around.ledger.settled (bench.made origin) origin own
        unread watched failure
  answered : ∀ origin response, .answered origin response ∈ bench.journal →
    bench.made origin ≠ [] → ∃ own before, own <:+: looks ∧
      before ++ [(origin, .answered response)] <+: bench.dock.around.ledger.settled ∧
      Found (bench.made origin) origin own before response

variable {looks : List (Look σ)}

lemma Opening.looked (h : bench.Opening) : Looked bench [] where
  current := by simp [h.waiting.1]
  answered := by simp [h.journal]

/-- What users do changes nothing but the log. -/
lemma Looked.frame (h : bench.Looked looks)
    (hs : bench.dock.around.ledger.settled <+: bench'.dock.around.ledger.settled)
    (phase : bench'.processor.phase = bench.processor.phase)
    (journal : bench'.journal = bench.journal) : bench'.Looked looks := by
  have made (origin : Nat) : bench'.made origin = bench.made origin := by
    rw [Bench.made, Bench.made, journal]
  constructor
  · intro origin unread watched failure hp
    obtain ⟨own, within, joining⟩ := h.current origin unread watched failure (phase ▸ hp)
    exact ⟨own, within, made origin ▸ joining.mono hs⟩
  · intro origin response hreport left
    rw [made] at left ⊢
    obtain ⟨own, before, within, hbefore, found⟩ :=
      h.answered origin response (journal ▸ hreport) left
    exact ⟨own, before, within, hbefore.trans hs, found⟩

lemma Invariant.nodup_made (inv : Invariant process chain bench) (origin : Nat) :
    ((bench.made origin).map Transaction.reply).Nodup := by
  have results : (bench.results.map Transaction.reply).Nodup := inv.balanced.nodup_emitted
  exact results.sublist ((List.filter_sublist.filterMap _).map _)

/-- What the worker awaits is in the log if it can be read. -/
lemma Invariant.read_cases (inv : Invariant process chain bench) {id : Nat}
    (hid : id ∈ bench.processor.awaited) :
    ((bench.dock.around.ledger.read id).1 = .pending ∧
        id ∉ bench.dock.around.ledger.settled.map Prod.fst) ∨
      ((bench.dock.around.ledger.read id).1 ≠ .pending ∧
        ∃ e, (id, e) ∈ bench.dock.around.ledger.settled ∧
          (bench.dock.around.ledger.read id).1.failure? = e.failure?) := by
  have awaited : id ∈ bench.books.awaited := Multiset.mem_add.mpr (.inl hid)
  refine (inv.balanced.ledger.read_cases (inv.balanced.awaited_lt awaited)
    (inv.balanced.listening id awaited)).imp_left fun ⟨pending, absent⟩ => ⟨pending, fun hmem => ?_⟩
  obtain ⟨entry, hentry, same⟩ := List.mem_map.mp hmem
  exact absent entry hentry same

/-- What ended as the log says is read as the log says. -/
lemma Invariant.read_of_mem (inv : Invariant process chain bench) {id : Nat} {e : Ending}
    (hid : id ∈ bench.processor.awaited) (he : (id, e) ∈ bench.dock.around.ledger.settled) :
    (bench.dock.around.ledger.read id).1.failure? = e.failure? := by
  rcases inv.read_cases hid with ⟨-, absent⟩ | ⟨-, e', he', found⟩
  · exact absurd (List.mem_map_of_mem he) absent
  · obtain rfl := inv.balanced.ending_unique he he'
    exact found

/-- The worker goes on with the current transaction. -/
lemma Looked.current_work (h : bench.Looked looks) (inv : Invariant process chain bench)
    (he : bench.step process .work = some bench') (origin : Nat) (unread watched : List Nat)
    (failure : Option Failure)
    (hp' : bench'.processor.phase = .joining origin unread watched failure) :
    ∃ own, own <:+ looks ++ bench.noted .work ∧
      Joining bench'.dock.around.ledger.settled (bench'.made origin) origin own unread watched
        failure := by
  obtain ⟨⟨p', around⟩, hwork, rfl⟩ := Option.map_eq_some_iff.mp he
  have m := Processor.Move.of_step hwork
  generalize bench.processor.report process bench.dock.around = new at m ⊢
  cases m with
  | sent hp metrics =>
    cases hp'
    obtain ⟨taken, transcript, -, distinct⟩ := inv.taken
    obtain rfl := transcript.results_of_emitting distinct hp
    rw [made_of_results_eq_nil rfl rfl]
    exact ⟨[], List.nil_suffix, .start _ (bench.made origin) origin⟩
  | @watch _ id _ watched _ hp hr =>
    cases hp'
    obtain ⟨own, within, joining⟩ := h.current _ _ _ _ hp
    have awaited : id ∈ bench.processor.awaited := by simp [Processor.awaited, hp]
    obtain ⟨-, absent⟩ := (inv.read_cases awaited).resolve_right fun ended => ended.1 hr
    rw [made_of_results_eq_nil rfl rfl, noted, look?, hp]
    exact ⟨own ++ [⟨id, bench⟩], List.suffix_append_self_iff.mpr within,
      joining.look rfl fun collected => collected.watch absent⟩
  | @collect _ id _ watched _ hp hr =>
    cases hp'
    obtain ⟨own, within, joining⟩ := h.current _ _ _ _ hp
    have awaited : id ∈ bench.processor.awaited := by simp [Processor.awaited, hp]
    obtain ⟨-, e, he, found⟩ := (inv.read_cases awaited).resolve_left fun pending => hr pending.1
    rw [made_of_results_eq_nil rfl rfl, noted, look?, hp, found, Option.orElse_eq_orElse,
      Option.orElse_eq_or]
    refine ⟨own ++ [⟨id, bench⟩], List.suffix_append_self_iff.mpr within, ?_⟩
    exact joining.look rfl fun collected => collected.collect inv.balanced.nodup_settled he
  | @collectWatched _ id watched _ hp hf =>
    cases hp'
    obtain ⟨own, within, joining⟩ := h.current _ _ _ _ hp
    obtain ⟨before, e, after, split, hid, others⟩ := Ledger.split_of_firstSettled hf
    have awaited : id ∈ bench.processor.awaited := by simp [Processor.awaited, hp, hid]
    have found := inv.read_of_mem awaited (split ▸ List.mem_append_right before List.mem_cons_self)
    rw [made_of_results_eq_nil rfl rfl, noted, look?, hp, found, Option.orElse_eq_orElse,
      Option.orElse_eq_or]
    refine ⟨own, by simpa using within, ?_⟩
    exact joining.collectWatched inv.balanced.nodup_settled (inv.nodup_made origin) split hid others
  | hear hp => cases hp.symm.trans hp'
  | _ => cases hp'

lemma Looked.answered_work (h : bench.Looked looks) (inv : Invariant process chain bench)
    (he : bench.step process .work = some bench') (origin : Nat) (response : Response)
    (hreport : .answered origin response ∈ bench'.journal) (left : bench'.made origin ≠ []) :
    ∃ own before, own <:+: looks ++ bench.noted .work ∧
      before ++ [(origin, .answered response)] <+: bench'.dock.around.ledger.settled ∧
      Found (bench'.made origin) origin own before response := by
  obtain ⟨new, m, -, hjournal⟩ := move_of_work he
  have log : bench.dock.around.ledger.settled <+: bench'.dock.around.ledger.settled :=
    (inv.books_work he).settled_grows
  rw [hjournal] at hreport
  rcases List.mem_append.mp hreport with old | now
  · have ended := Ledger.mem_ended.mpr ⟨_, inv.given old⟩
    have others : ∀ report ∈ new, report.origin ≠ origin := by
      rintro report made rfl
      exact inv.balanced.notMem_work ended (Multiset.mem_add.mpr (.inl (m.origin_mem_work made)))
    rw [made_of_ne hjournal others] at left ⊢
    obtain ⟨own, before, within, hbefore, found⟩ := h.answered origin response old left
    exact ⟨own, before, within.trans (List.prefix_append _ _).isInfix, hbefore.trans log, found⟩
  · obtain ⟨t, hp, rfl, nothing⟩ | ⟨hp, rfl, hlog⟩ := m.answered_cases now
    · -- the stages left nothing of it, so no results were made
      obtain ⟨taken, transcript, -, distinct⟩ := inv.taken
      refine absurd ?_ left
      rw [made_of_results_eq_nil hjournal nothing, made, transcript.reports_of_running distinct hp]
      rfl
    · obtain ⟨own, within, joining⟩ := h.current _ _ _ _ hp
      rw [made_of_results_eq_nil hjournal rfl, hlog, noted, look?, hp]
      refine ⟨own, _, ?_, List.prefix_rfl, joining.found inv.balanced.nodup_settled⟩
      simpa using within.isInfix

/-- Every event goes on with what holds of the looks. -/
lemma Looked.step (h : bench.Looked looks) (inv : Invariant process chain bench)
    (he : bench.step process e = some bench') : bench'.Looked (looks ++ bench.noted e) := by
  cases e with
  | work => exact ⟨h.current_work inv he, h.answered_work inv he⟩
  | user e =>
    obtain ⟨dock, hd, rfl⟩ := Option.map_eq_some_iff.mp he
    rw [noted, List.append_nil]
    have steps : Books.Steps bench.books (books { bench with dock }) := by
      rw [books_eq, books_eq]
      exact Dock.books_of_step hd
    exact h.frame steps.settled_grows rfl rfl
  | close =>
    cases he
    rw [noted, List.append_nil]
    exact h.frame List.prefix_rfl (Processor.phase_close inv.bound.1) rfl

lemma Looked.run (h : bench.Looked looks) (inv : Invariant process chain bench)
    (hr : bench.run process events = some bench') :
    bench'.Looked (looks ++ bench.looks process events) := by
  induction events generalizing bench looks with
  | nil =>
    cases hr
    rwa [Bench.looks, List.append_nil]
  | cons e events ih =>
    obtain ⟨next, he, hr⟩ := Option.bind_eq_some_iff.mp hr
    rw [Bench.looks, he, Option.elim_some, ← List.append_assoc]
    exact ih (h.step inv he) (inv.step he) hr

variable {start : Bench σ}

/-- The failure that a transaction is answered with: if failures were there when the worker looked
at the results for the first time, it is the first of them in the order of sending, and otherwise the
first failure to arrive. It is assumed that the first round of looks is not cut short, however many
results have come to an end by then. A worker that has to pause after so many of them would look at the
others later, and might find a failure first that arrived in the meantime. -/
theorem failure_by_looks (opening : start.Opening) (hr : start.run process events = some bench)
    {t : Transaction} {response : Response} (ht : t ∈ bench.dock.accepted)
    (answered : (t.reply, .answered response) ∈ bench.dock.around.ledger.settled)
    (left : bench.made t.reply ≠ []) :
    ∃ looks before, looks <:+: start.looks process events ∧
      before ++ [(t.reply, .answered response)] <+: bench.dock.around.ledger.settled ∧
      Found (bench.made t.reply) t.reply looks before response ∧
      (response = .ack ↔
        ∀ result ∈ bench.made t.reply, (result.reply, .answered .ack) ∈ before) := by
  have inv : Invariant process start.processor.chain bench := opening.invariant hr
  have looked := opening.looked.run opening.start hr
  obtain ⟨x, rfl, rfl, -, -, hstory⟩ := inv.treatment ht answered
  have hreport : .answered x.transaction.reply x.response ∈ bench.journal := by
    refine List.mem_of_mem_filter (p := (·.origin = x.transaction.reply)) ?_
    rw [hstory]
    simp [Treatment.reports]
  obtain ⟨looks, before, within, hbefore, found⟩ := looked.answered _ _ hreport left
  have earlier : before <+: bench.dock.around.ledger.settled :=
    (List.prefix_append _ _).trans hbefore
  exact ⟨looks, before, within, hbefore, found,
    found.ack_iff (inv.balanced.nodup_settled.sublist (earlier.sublist.map Prod.fst))⟩

/-- A processor that makes four results of every transaction, with room for one in its output. -/
def fanned : Bench Stage where
  processor := (Processor.consume { chain := [.fanOut 4], metered := false }).2
  dock :=
    { around := { input := .new 1, fed := true, output := .new 1, ledger := {}, metrics := {} } }

lemma opening_fanned : fanned.Opening where
  bound := ⟨{ chain := [.fanOut 4], metered := false }, rfl, rfl⟩
  dock := by constructor <;> simp [fanned, Channel.new]
  output := ⟨1, rfl⟩
  journal := rfl

/-- The second result fails and then the first one, while the worker waits for room for the last
one. The others succeed. -/
def fannedCourse : List Event :=
  [.user (.send .empty), .work, .work, .work, .user .receive, .work, .user .receive, .work,
    .user (.answer ⟨.ofStrings ["test1"], 2⟩ (.error (.delivery "second"))),
    .user (.answer ⟨.ofStrings ["test0"], 1⟩ (.error (.delivery "first"))),
    .user .receive, .work, .work, .work, .work, .work, .work, .user .receive,
    .user (.answer ⟨.ofStrings ["test2"], 3⟩ .ack), .user (.answer ⟨.ofStrings ["test3"], 4⟩ .ack),
    .work, .work, .work]

/-- The failure that is answered need not be the first one to arrive. -/
theorem failure_out_of_turn :
    fanned.Opening ∧ ∃ bench before, fanned.run (Stage.process .empty) fannedCourse = some bench ∧
      bench.dock.around.ledger.settled = before ++ [(0, .answered (.error (.delivery "first")))] ∧
      before = [(2, .answered (.error (.delivery "second"))),
        (1, .answered (.error (.delivery "first"))), (3, .answered .ack), (4, .answered .ack)] ∧
      (bench.made 0).map Transaction.reply = [1, 2, 3, 4] ∧
      firstFailure before [1, 2, 3, 4] = some (.delivery "second") := by
  obtain ⟨bench, hr, told⟩ := Option.map_eq_some_iff.mp
    (show (fanned.run (Stage.process .empty) fannedCourse).map (fun bench =>
        (bench.dock.around.ledger.settled, (bench.made 0).map Transaction.reply)) =
      some ([(2, .answered (.error (.delivery "second"))),
        (1, .answered (.error (.delivery "first"))), (3, .answered .ack), (4, .answered .ack),
        (0, .answered (.error (.delivery "first")))], [1, 2, 3, 4]) by decide +kernel)
  obtain ⟨log, made⟩ := Prod.mk.inj told
  exact ⟨opening_fanned, bench, _, hr, log, rfl, made, rfl⟩

/-- The worker looks at the first result first. -/
theorem failure_by_looks_fanned :
    ∃ bench looks before, fanned.run (Stage.process .empty) fannedCourse = some bench ∧
      looks <:+: fanned.looks (Stage.process .empty) fannedCourse ∧
      Found (bench.made 0) 0 looks before (.error (.delivery "first")) ∧
      (fanned.looks (Stage.process .empty) fannedCourse).map
          (fun look => (look.id, look.failure?)) =
        [(1, some (.delivery "first")), (2, some (.delivery "second")), (3, none), (4, none)] := by
  obtain ⟨bench, hr, told⟩ := Option.map_eq_some_iff.mp
    (show (fanned.run (Stage.process .empty) fannedCourse).map (fun bench =>
        (bench.dock.accepted, bench.dock.around.ledger.settled.getLast?, (bench.made 0).length)) =
      some ([⟨.empty, 0⟩], some (0, .answered (.error (.delivery "first"))), 4) by decide +kernel)
  simp only [Prod.mk.injEq] at told
  obtain ⟨accepted, last, four⟩ := told
  obtain ⟨looks, before, within, -, found, -⟩ :=
    failure_by_looks opening_fanned hr (accepted ▸ List.mem_singleton_self _)
      (List.mem_of_getLast? last) (List.ne_nil_of_length_pos (four ▸ Nat.succ_pos 3))
  exact ⟨bench, looks, before, hr, within, found, by decide +kernel⟩

end Bench

end Conveyor
