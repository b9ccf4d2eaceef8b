import Conveyor.Proofs.Processor.Books

/-!
# The transcript of a worker

A worker treats its transactions one after the other. The reports of a worker are those of its
complete treatments, followed by those of the current one (`Processor.Transcript`); each treatment
starts from the stages that the one before it left behind, and a treatment with results ends only
after all of them have come to an end. Every move of the worker continues the transcript
(`Processor.Transcript.move`).
-/

namespace Conveyor

/-! ### The reduction of answers -/

/-- How far the answers to some results are reduced: those on the paths `pending` have still to be
looked at, and `failure` was found so far. -/
structure Tally (settled : List (Nat × Ending)) (results : List Transaction) (pending : List Nat)
    (failure : Option Failure) : Prop where
  owned : ∀ id ∈ pending, ∃ r ∈ results, r.reply = id
  seen : ∀ r ∈ results, r.reply ∈ pending ∨
    ∃ e, (r.reply, e) ∈ settled ∧ (failure = none → e.failure? = none)
  failed : ∀ f, failure = some f → ∃ r ∈ results, ∃ e, (r.reply, e) ∈ settled ∧ e.failure? = some f

namespace Tally

variable {settled settled' : List (Nat × Ending)} {results : List Transaction}
  {pending pending' : List Nat} {failure : Option Failure}

lemma start (settled : List (Nat × Ending)) (results : List Transaction) :
    Tally settled results (results.map Transaction.reply) none where
  owned := fun _ hid => List.mem_map.mp hid
  seen := fun _ hr => .inl (List.mem_map_of_mem hr)
  failed := by simp

lemma mono (h : Tally settled results pending failure) (hs : settled <+: settled') :
    Tally settled' results pending failure where
  owned := h.owned
  seen := fun r hr => (h.seen r hr).imp_right fun ⟨e, he, hf⟩ => ⟨e, hs.subset he, hf⟩
  failed := fun f hf =>
    let ⟨r, hr, e, he, hef⟩ := h.failed f hf
    ⟨r, hr, e, hs.subset he, hef⟩

lemma reorder (h : Tally settled results pending failure)
    (hp : ∀ id, id ∈ pending' ↔ id ∈ pending) : Tally settled results pending' failure where
  owned := fun id hid => h.owned id ((hp id).mp hid)
  seen := fun r hr => (h.seen r hr).imp_left (hp r.reply).mpr
  failed := h.failed

/-- One more path has come to an end, and its end is looked at. Only the first failure counts. -/
lemma collect (h : Tally settled results pending failure) {id : Nat} {e : Ending}
    (hid : id ∈ pending) (he : (id, e) ∈ settled) (sub : ∀ x ∈ pending', x ∈ pending)
    (rest : ∀ x ∈ pending, x ≠ id → x ∈ pending') :
    Tally settled results pending' (failure <|> e.failure?) where
  owned := fun x hx => h.owned x (sub x hx)
  seen := by
    intro r hr
    by_cases hrid : r.reply = id
    · refine .inr ⟨e, hrid ▸ he, fun hf => ?_⟩
      cases failure with
      | none => exact hf
      | some f => cases hf
    · rcases h.seen r hr with hp | ⟨e', he', hf'⟩
      · exact .inl (rest _ hp hrid)
      · refine .inr ⟨e', he', fun hf => hf' ?_⟩
        cases failure with
        | none => rfl
        | some f => cases hf
  failed := by
    intro f hf
    cases failure with
    | none =>
      obtain ⟨r, hr, rfl⟩ := h.owned id hid
      exact ⟨r, hr, e, he, hf⟩
    | some f' => exact h.failed f hf

end Tally

/-! ### Reductions -/

/-- How an answer sums up the results of a transaction, `before` being what had come to an end when
it was given. -/
structure Reduction (before : List (Nat × Ending)) (results : List Transaction)
    (response : Response) : Prop where
  resolved : ∀ result ∈ results, ∃ e, (result.reply, e) ∈ before
  ack : response = .ack ↔ ∀ result ∈ results, (result.reply, .answered .ack) ∈ before
  error : ∀ failure, response = .error failure → ∃ result ∈ results,
    (result.reply, .answered (.error failure)) ∈ before ∨
      failure = .abandoned ∧ (result.reply, .abandoned) ∈ before

/-- A failure comes from an answer or from a result that nobody answered. -/
lemma Ending.failure?_eq_some {e : Ending} {failure : Failure} (h : e.failure? = some failure) :
    e = .answered (.error failure) ∨ failure = .abandoned ∧ e = .abandoned := by
  match e, h with
  | .answered (.error _), rfl => exact .inl rfl
  | .abandoned, rfl => exact .inr ⟨rfl, rfl⟩

/-- A tally with nothing left to look at is a reduction. -/
lemma Tally.reduction {before : List (Nat × Ending)} {results : List Transaction}
    {response : Response} (h : Tally before results [] response.failure?)
    (unique : ∀ id e e', (id, e) ∈ before → (id, e') ∈ before → e = e') :
    Reduction before results response := by
  have seen : ∀ result ∈ results, ∃ e, (result.reply, e) ∈ before ∧
      (response.failure? = none → e.failure? = none) := fun result hresult =>
    (h.seen result hresult).resolve_left List.not_mem_nil
  constructor
  · intro result hresult
    obtain ⟨e, he, -⟩ := seen result hresult
    exact ⟨e, he⟩
  · constructor
    · rintro rfl result hresult
      obtain ⟨e, he, hack⟩ := seen result hresult
      obtain rfl := Ending.eq_ack_of_failure? (hack rfl)
      exact he
    · intro acked
      cases response with
      | ack => rfl
      | error failure =>
        obtain ⟨result, hresult, e, he, hfailure⟩ := h.failed failure rfl
        obtain rfl := unique _ _ _ he (acked result hresult)
        cases hfailure
  · rintro failure rfl
    obtain ⟨result, hresult, e, he, hfailure⟩ := h.failed failure rfl
    refine ⟨result, hresult, ?_⟩
    obtain rfl | ⟨rfl, rfl⟩ := Ending.failure?_eq_some hfailure
    · exact .inl he
    · exact .inr ⟨rfl, he⟩

/-! ### Treatments -/

/-- What was done with one transaction. -/
structure Treatment (σ : Type) where
  transaction : Transaction
  /-- The stages, as they were before. -/
  chain : List σ
  /-- The results that were made. -/
  results : List Transaction
  response : Response

variable {σ : Type} {process : Behaviour σ} {settled settled' : List (Nat × Ending)}

namespace Treatment

/-- The run of the stages on the transaction. -/
def run (process : Behaviour σ) (x : Treatment σ) : ChainRun σ :=
  runChain process x.chain x.transaction.payload

/-- The reports that make up a treatment. -/
def reports (x : Treatment σ) : List (Report σ) :=
  .ran x.transaction x.chain ::
    (x.results.map (.emitted x.transaction.reply) ++ [.answered x.transaction.reply x.response])

lemma origin_eq {x : Treatment σ} {report : Report σ} (h : report ∈ x.reports) :
    report.origin = x.transaction.reply := by
  simp only [reports, List.mem_cons, List.mem_append, List.mem_map, List.not_mem_nil,
    or_false] at h
  obtain rfl | ⟨result, -, rfl⟩ | rfl := h
  all_goals rfl

/-- A transaction does not occur in the treatments of others. -/
lemma filter_eq_nil {xs : List (Treatment σ)} {id : Nat}
    (h : ∀ x ∈ xs, x.transaction.reply ≠ id) :
    (xs.flatMap reports).filter (·.origin = id) = [] := by
  refine List.filter_eq_nil_iff.mpr fun report hreport => ?_
  obtain ⟨x, hx, hreport⟩ := List.mem_flatMap.mp hreport
  simpa [origin_eq hreport] using h x hx

lemma filter_eq_self (x : Treatment σ) :
    x.reports.filter (·.origin = x.transaction.reply) = x.reports :=
  List.filter_eq_self.mpr fun _ hreport => by simp [origin_eq hreport]

/-- The reports about a transaction that was treated, if no other one has its path. -/
lemma filter_flatMap {xs : List (Treatment σ)}
    (distinct : (xs.map fun x => x.transaction.reply).Nodup) {x : Treatment σ} (hx : x ∈ xs) :
    (xs.flatMap reports).filter (·.origin = x.transaction.reply) = x.reports := by
  obtain ⟨ys, zs, rfl⟩ := List.append_of_mem hx
  rw [List.map_append, List.map_cons] at distinct
  obtain ⟨-, distinct, before⟩ := List.nodup_append.mp distinct
  have hys : ∀ y ∈ ys, y.transaction.reply ≠ x.transaction.reply := fun y hy =>
    before _ (List.mem_map_of_mem hy) _ (List.mem_cons_self ..)
  have hzs : ∀ z ∈ zs, z.transaction.reply ≠ x.transaction.reply := fun z hz heq =>
    (List.nodup_cons.mp distinct).1 (heq ▸ List.mem_map_of_mem hz)
  simp [List.filter_append, filter_eq_nil hys, filter_eq_nil hzs, filter_eq_self]

/-- A complete treatment: every message that was left was sent, the response is that of the stages
if none was, and otherwise it was given when all results had come to an end, and sums them up. -/
structure Sound (process : Behaviour σ) (settled : List (Nat × Ending)) (x : Treatment σ) :
    Prop where
  payloads : x.results.map Transaction.payload = (x.run process).outcome.messages
  direct : x.results = [] → x.response = .ofFailure? (x.run process).outcome.rejection
  delivered : ∃ before, before ++ [(x.transaction.reply, .answered x.response)] <+: settled ∧
    (x.results ≠ [] → Tally before x.results [] x.response.failure?)

lemma Sound.given {x : Treatment σ} (h : x.Sound process settled) :
    (x.transaction.reply, .answered x.response) ∈ settled := by
  obtain ⟨before, hbefore, -⟩ := h.delivered
  exact hbefore.subset (by simp)

/-- The answer to a transaction with results sums them up. -/
lemma Sound.reduction {x : Treatment σ} (h : x.Sound process settled)
    (unique : ∀ id e e', (id, e) ∈ settled → (id, e') ∈ settled → e = e') :
    ∃ before, before ++ [(x.transaction.reply, .answered x.response)] <+: settled ∧
      ((x.run process).outcome.messages ≠ [] → Reduction before x.results x.response) := by
  obtain ⟨before, hbefore, tally⟩ := h.delivered
  refine ⟨before, hbefore, fun left => ?_⟩
  have emitted : x.results ≠ [] := fun none =>
    left (h.payloads.symm.trans (congrArg (List.map Transaction.payload) none))
  have earlier := (List.prefix_append before _).trans hbefore
  exact (tally emitted).reduction fun id e e' he he' =>
    unique id e e' (earlier.subset he) (earlier.subset he')

lemma Sound.mono {x : Treatment σ} (h : x.Sound process settled) (hs : settled <+: settled') :
    x.Sound process settled' where
  payloads := h.payloads
  direct := h.direct
  delivered :=
    let ⟨before, hb, tally⟩ := h.delivered
    ⟨before, hb.trans hs, tally⟩

end Treatment

/-- Treatments one after the other, that lead from one state of the stages to another. -/
inductive Treated (process : Behaviour σ) (settled : List (Nat × Ending)) (chain : List σ) :
    List (Treatment σ) → List σ → Prop where
  | nil : Treated process settled chain [] chain
  | concat {xs : List (Treatment σ)} {x : Treatment σ} (h : Treated process settled chain xs x.chain)
      (hx : x.Sound process settled) :
      Treated process settled chain (xs ++ [x]) (x.run process).chain

namespace Treated

variable {chain chain' : List σ} {xs : List (Treatment σ)}

lemma mono (h : Treated process settled chain xs chain') (hs : settled <+: settled') :
    Treated process settled' chain xs chain' := by
  induction h with
  | nil => exact .nil
  | concat _ hx ih => exact ih.concat (hx.mono hs)

lemma sound (h : Treated process settled chain xs chain') {x : Treatment σ} (hx : x ∈ xs) :
    x.Sound process settled := by
  induction h with
  | nil => cases hx
  | concat _ hlast ih =>
    rcases List.mem_append.mp hx with hx | hx
    · exact ih hx
    · exact List.mem_singleton.mp hx ▸ hlast

end Treated

/-! ### The transcript -/

namespace Processor

/-- How far the worker is with its current transaction, which it took when the stages were in the
states `chain`. -/
inductive Progress (process : Behaviour σ) (settled : List (Nat × Ending)) (chain : List σ) :
    Phase → List σ → List Transaction → List (Report σ) → Prop where
  | wait : Progress process settled chain .waiting chain [] []
  | ended : Progress process settled chain .ended chain [] []
  | run (t : Transaction) : Progress process settled chain (.running t) chain [t] []
  | emit {t : Transaction} (results : List Transaction) {later : List Message} {sent : List Nat}
      (messages : results.map Transaction.payload ++ later =
        (runChain process chain t.payload).outcome.messages)
      (some : (runChain process chain t.payload).outcome.messages ≠ [])
      (hsent : sent = results.map Transaction.reply) :
      Progress process settled chain (.emitting t.reply later sent)
        (runChain process chain t.payload).chain [t]
        (.ran t chain :: results.map (.emitted t.reply))
  | join {t : Transaction} (results : List Transaction) {unread watched : List Nat}
      {failure : Option Failure}
      (messages : results.map Transaction.payload =
        (runChain process chain t.payload).outcome.messages)
      (some : results ≠ []) (tally : Tally settled results (unread ++ watched) failure) :
      Progress process settled chain (.joining t.reply unread watched failure)
        (runChain process chain t.payload).chain [t]
        (.ran t chain :: results.map (.emitted t.reply))

lemma Progress.mono {chain chain' : List σ} {phase : Phase} {ts : List Transaction}
    {reports : List (Report σ)} (h : Progress process settled chain phase chain' ts reports)
    (hs : settled <+: settled') : Progress process settled' chain phase chain' ts reports := by
  cases h with
  | wait => exact .wait
  | ended => exact .ended
  | run t => exact .run t
  | emit results messages some hsent => exact .emit results messages some hsent
  | join results messages some tally => exact .join results messages some (tally.mono hs)

lemma Progress.origin {chain chain' : List σ} {phase : Phase} {ts : List Transaction}
    {reports : List (Report σ)} (h : Progress process settled chain phase chain' ts reports)
    {report : Report σ} (hreport : report ∈ reports) : ∃ t, ts = [t] ∧ report.origin = t.reply := by
  cases h with
  | wait | ended | run => cases hreport
  | emit results | join results =>
    refine ⟨_, rfl, ?_⟩
    simp only [List.mem_cons, List.mem_map] at hreport
    obtain rfl | ⟨result, -, rfl⟩ := hreport
    all_goals rfl

/-- The transaction that the worker is at has still to be answered. -/
lemma Progress.mem_work {chain : List σ} {p : Processor σ} {ts : List Transaction}
    {reports : List (Report σ)} (h : Progress process settled chain p.phase p.chain ts reports)
    {t : Transaction} (ht : t ∈ ts) : t.reply ∈ p.work := by
  unfold work
  generalize p.phase = phase at h
  generalize p.chain = chain' at h
  cases h with
  | wait | ended => cases ht
  | run | emit | join => simp [List.mem_singleton.mp ht]

/-- A worker that started with the stages `start` has taken these transactions and made these
reports, in agreement with the log `settled`. -/
def Transcript (process : Behaviour σ) (settled : List (Nat × Ending)) (start : List σ)
    (p : Processor σ) (taken : List Transaction) (reports : List (Report σ)) : Prop :=
  ∃ (xs : List (Treatment σ)) (chain : List σ) (ts : List Transaction) (rs : List (Report σ)),
    Treated process settled start xs chain ∧ Progress process settled chain p.phase p.chain ts rs ∧
      taken = xs.map Treatment.transaction ++ ts ∧ reports = xs.flatMap Treatment.reports ++ rs

namespace Transcript

variable {start : List σ} {p p' : Processor σ} {s s' : Surroundings} {taken : List Transaction}
  {reports new : List (Report σ)}

lemma of_waiting (hp : p.phase = .waiting) : Transcript process settled p.chain p [] [] :=
  ⟨[], p.chain, [], [], .nil, hp ▸ .wait, rfl, rfl⟩

lemma mono (h : Transcript process settled start p taken reports) (hs : settled <+: settled') :
    Transcript process settled' start p taken reports :=
  let ⟨xs, chain, ts, rs, treated, progress, ht, hr⟩ := h
  ⟨xs, chain, ts, rs, treated.mono hs, progress.mono hs, ht, hr⟩

/-- Only the phase and the stages of a worker matter. -/
lemma congr (h : Transcript process settled start p taken reports) (hp : p'.phase = p.phase)
    (hc : p'.chain = p.chain) : Transcript process settled start p' taken reports := by
  unfold Transcript
  rw [hp, hc]
  exact h

/-- A worker reports only about transactions that it took. -/
lemma origin (h : Transcript process settled start p taken reports) {report : Report σ}
    (hreport : report ∈ reports) : ∃ t ∈ taken, report.origin = t.reply := by
  obtain ⟨xs, chain, ts, rs, treated, progress, rfl, rfl⟩ := h
  rcases List.mem_append.mp hreport with hreport | hreport
  · obtain ⟨x, hx, hreport⟩ := List.mem_flatMap.mp hreport
    refine ⟨x.transaction, ?_, Treatment.origin_eq hreport⟩
    exact List.mem_append.mpr (.inl (List.mem_map_of_mem hx))
  · obtain ⟨t, rfl, hreport⟩ := progress.origin hreport
    exact ⟨t, List.mem_append.mpr (.inr (List.mem_singleton_self t)), hreport⟩

/-- A treatment that is complete joins those before it. -/
lemma complete {xs : List (Treatment σ)} {x : Treatment σ}
    (treated : Treated process settled start xs x.chain) (hs : settled <+: settled')
    (hx : x.Sound process settled') (hp : p.phase = .waiting)
    (hc : p.chain = (x.run process).chain) :
    Transcript process settled' start p (xs.map Treatment.transaction ++ [x.transaction])
      (xs.flatMap Treatment.reports ++ x.reports) := by
  refine ⟨xs ++ [x], _, [], [], (treated.mono hs).concat hx, hp ▸ hc ▸ .wait, ?_, ?_⟩
  · simp
  · simp

/-- A result that was made joins those before it. -/
lemma emit (h : Transcript process settled start p taken reports) {origin id : Nat}
    {message : Message} {later : List Message} {sent : List Nat}
    (hp : p.phase = .emitting origin (message :: later) sent) :
    Transcript process settled start { p with phase := .emitting origin later (sent ++ [id]) }
      taken (reports ++ [.emitted origin ⟨message, id⟩]) := by
  obtain ⟨xs, chain, ts, rs, treated, progress, rfl, rfl⟩ := h
  rw [hp] at progress
  generalize hc : p.chain = c at progress
  cases progress with
  | @emit t results _ _ messages some hsent =>
    have next : Progress process settled chain (.emitting t.reply later (sent ++ [id]))
        (runChain process chain t.payload).chain [t] _ :=
      .emit (results ++ [⟨message, id⟩]) (by simpa using messages) some
        (by simp [hsent])
    exact ⟨xs, chain, [t], _, treated, next, rfl, by simp⟩

/-- Looking at an answer changes nothing but the tally of the answers. -/
lemma look (h : Transcript process settled start p taken reports) {origin : Nat}
    {unread watched unread' watched' : List Nat} {failure failure' : Option Failure}
    (hp : p.phase = .joining origin unread watched failure)
    (tally : ∀ results, Tally settled results (unread ++ watched) failure →
      Tally settled results (unread' ++ watched') failure') :
    Transcript process settled start { p with phase := .joining origin unread' watched' failure' }
      taken reports := by
  obtain ⟨xs, chain, ts, rs, treated, progress, rfl, rfl⟩ := h
  rw [hp] at progress
  generalize hc : p.chain = c at progress
  cases progress with
  | join results messages some old =>
    exact ⟨xs, chain, _, _, treated, .join results messages some (tally _ old), rfl, rfl⟩

/-- Every move continues the transcript, and what the worker takes comes from its input. -/
lemma move (h : Transcript process s.ledger.settled start p taken reports)
    (m : Move process p s new p' s') (reads : p.Reads s) :
    ∃ taken', Transcript process s'.ledger.settled start p' taken' (reports ++ new) ∧
      taken' ++ s'.input.queue = taken ++ s.input.queue := by
  have whole := h
  obtain ⟨xs, chain, ts, rs, treated, progress, rfl, rfl⟩ := h
  cases m with
  | hear hp =>
    rw [hp] at progress
    cases progress with
    | wait => exact ⟨_, ⟨xs, p.chain, [], [], treated, hp ▸ .wait, rfl, by simp⟩, rfl⟩
  | @take t queue hp hq metrics =>
    rw [hp] at progress
    cases progress with
    | wait => exact ⟨_, ⟨xs, _, _, _, treated, .run t, rfl, by simp⟩, by simp [hq]⟩
  | leave hp hq =>
    rw [hp] at progress
    cases progress with
    | wait =>
      exact ⟨_, ⟨xs, _, _, _, treated, .ended, rfl, by simp⟩, by simp [hq, Channel.shut]⟩
  | @finish t rejection hp ho metrics =>
    rw [hp] at progress
    generalize hc : p.chain = c at progress ho
    cases progress with
    | run =>
      let x : Treatment σ := ⟨t, chain, [], .ofFailure? rejection⟩
      have sound : x.Sound process (s.ledger.respond t.reply x.response).2.settled :=
        { payloads := by simp [x, Treatment.run, ho]
          direct := fun _ => by simp [x, Treatment.run, ho]
          delivered := ⟨s.ledger.settled, List.prefix_rfl, fun hne => absurd rfl hne⟩ }
      refine ⟨_, ?_, rfl⟩
      simpa [x, Treatment.reports] using
        complete (x := x) treated (List.prefix_append _ _) sound rfl rfl
  | @fan t hp hm metrics =>
    rw [hp] at progress
    generalize hc : p.chain = c at progress hm
    cases progress with
    | run =>
      exact ⟨_, ⟨xs, _, _, _, treated, .emit [] rfl hm rfl, rfl, by simp⟩, rfl⟩
  | put hp room => exact ⟨_, whole.emit hp, rfl⟩
  | lose hp closed => exact ⟨_, (whole.mono (List.prefix_append _ _)).emit hp, rfl⟩
  | @sent origin sent hp metrics =>
    rw [hp] at progress
    generalize hc : p.chain = c at progress
    cases progress with
    | @emit t results _ _ messages some hsent =>
      refine ⟨_, ⟨xs, _, _, _, treated, .join results ?_ ?_ ?_, rfl, by simp⟩, rfl⟩
      · simpa using messages
      · rintro rfl
        exact some (by simpa using messages.symm)
      · simpa [hsent] using Tally.start s.ledger.settled results
  | watch hp hr =>
    refine ⟨_, ?_, rfl⟩
    rw [List.append_nil]
    exact whole.look hp fun _ tally => tally.reorder (by simp [or_comm, or_left_comm])
  | @collect origin id unread watched failure hp hr =>
    obtain ⟨e, he, hread⟩ := reads id (by simp [awaited, hp]) (.inl hr)
    refine ⟨_, ?_, rfl⟩
    rw [List.append_nil, hread]
    refine whole.look hp fun _ tally => tally.collect (List.mem_cons_self ..) he ?_ ?_
    · exact fun x hx => List.mem_cons_of_mem _ hx
    · exact fun x hx hne => (List.mem_cons.mp hx).resolve_left hne
  | @collectWatched origin id watched failure hp hf =>
    obtain ⟨hmem, ended⟩ := Ledger.mem_of_firstSettled hf
    obtain ⟨e, he, hread⟩ := reads id (by simp [awaited, hp, hmem])
      (.inr (Ledger.mem_ended.mpr ended))
    refine ⟨_, ?_, rfl⟩
    rw [List.append_nil, hread]
    refine whole.look hp fun _ tally => tally.collect (by simpa using hmem) he ?_ ?_
    · exact fun x hx => List.mem_of_mem_erase hx
    · exact fun x hx hne => (List.mem_erase_of_ne hne).mpr hx
  | @answer origin failure hp metrics =>
    rw [hp] at progress
    generalize hc : p.chain = c at progress
    cases progress with
    | @join t results _ _ _ messages some tally =>
      let x : Treatment σ := ⟨t, chain, results, .ofFailure? failure⟩
      have sound : x.Sound process (s.ledger.respond t.reply x.response).2.settled :=
        { payloads := messages
          direct := fun hnone => absurd hnone some
          delivered := ⟨s.ledger.settled, List.prefix_rfl, fun _ => by cases failure <;> exact tally⟩ }
      refine ⟨_, ?_, rfl⟩
      simpa [x, Treatment.reports] using
        complete (x := x) treated (List.prefix_append _ _) sound rfl rfl

end Transcript

end Processor

end Conveyor
