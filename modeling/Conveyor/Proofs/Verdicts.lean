import Conveyor.Proofs.Processor.Interpretation
import Conveyor.Proofs.Site.Conservation

/-!
# Consumers that judge by what they have received

A consumer judges every result by the payloads that it has received so far, this one included: it
accepts the result, or refuses it with a failure that is always the same. Such a consumer and a single
worker leave nothing to chance. What the consumer receives, and the answers to the transactions, follow
from the stages and from the transactions alone (`Processor.Transcript.follows`), and two docks where
this is so agree with each other (`Dock.Follows.answers_agree`).
-/

namespace Conveyor

variable {σ : Type} {process : Behaviour σ} {judge : List Message → Bool} {failure : Failure}

/-! ### Verdicts -/

/-- The answer to the last one of the payloads that were received. -/
def verdict (judge : List Message → Bool) (failure : Failure) (seen : List Message) : Response :=
  if judge seen then .ack else .error failure

/-- Every one of these results that came to an end was answered by the payloads up to its own. -/
def Judged (judge : List Message → Bool) (failure : Failure) (settled : List (Nat × Ending))
    (results : List Transaction) : Prop :=
  ∀ k result, results[k]? = some result → ∀ e, (result.reply, e) ∈ settled →
    e = .answered (verdict judge failure ((results.take (k + 1)).map Transaction.payload))

/-- The consumer is still there, and has judged results by the payloads up to theirs only. -/
structure Dock.Judged (judge : List Message → Bool) (failure : Failure) (d : Dock) : Prop where
  listens : d.around.output.closed = false
  judged : Conveyor.Judged judge failure d.around.ledger.settled d.received

/-- Results that have not come to an end may be on their way. -/
lemma Judged.extend {settled : List (Nat × Ending)} {results rest : List Transaction}
    (h : Judged judge failure settled results)
    (running : ∀ result ∈ rest, ∀ e, (result.reply, e) ∉ settled) :
    Judged judge failure settled (results ++ rest) := by
  intro k result hresult e he
  rcases Nat.lt_or_ge k results.length with received | later
  · rw [List.getElem?_append_left received] at hresult
    rw [List.take_append_of_le_length received]
    exact h k result hresult e he
  · rw [List.getElem?_append_right later] at hresult
    exact absurd he (running result (List.mem_of_getElem? hresult) e)

/-! ### The answers that follow from verdicts -/

/-- The answer to a transaction with an outcome, when the consumer has received `seen` before: that of
the stages if no message is left, and otherwise success if all messages are accepted, in their turn. -/
def answerAfter (judge : List Message → Bool) (failure : Failure) (seen : List Message)
    (outcome : ChainOutcome) : Response :=
  if outcome.messages = [] then .ofFailure? outcome.rejection
  else if ∀ k < outcome.messages.length, judge (seen ++ outcome.messages.take (k + 1)) then .ack
  else .error failure

/-- The answer to a transaction that comes after some others, according to the interpreter. -/
def dueAfter (process : Behaviour σ) (judge : List Message → Bool) (failure : Failure)
    (chain : List σ) (before : List Transaction) (message : Message) : Response :=
  answerAfter judge failure (messagesOf (interpret process chain before))
    (runChain process (chainAfter process chain before) message).outcome

/-- A consumer with verdicts leaves no choice for the sum of its answers. -/
lemma Reduction.response_judged {before : List (Nat × Ending)} {results : List Transaction}
    {response : Response} (h : Reduction before results response) (some : results ≠ [])
    {seen : List Message} (rejection : Option Failure)
    (judged : ∀ k result, results[k]? = .some result → ∀ e, (result.reply, e) ∈ before →
      e = .answered (verdict judge failure
        (seen ++ (results.map Transaction.payload).take (k + 1)))) :
    response = answerAfter judge failure seen ⟨results.map Transaction.payload, rejection⟩ := by
  have left : results.map Transaction.payload ≠ [] := fun none =>
    some (List.map_eq_nil_iff.mp none)
  rw [answerAfter, if_neg left]
  split
  next all =>
    refine h.ack.mpr fun result hresult => ?_
    obtain ⟨k, hk⟩ := List.mem_iff_getElem?.mp hresult
    obtain ⟨e, he⟩ := h.resolved result hresult
    have inside : k < (results.map Transaction.payload).length := by
      rw [List.length_map]
      exact (List.getElem?_eq_some_iff.mp hk).1
    obtain rfl := judged k result hk e he
    simpa [verdict, all k inside] using he
  next refused =>
    cases response with
    | ack =>
      -- then all results were acknowledged, also the first one that was refused
      refine absurd (fun k inside => ?_) refused
      rw [List.length_map] at inside
      have hk := List.getElem?_eq_getElem inside
      have acked := h.ack.mp rfl _ (List.getElem_mem inside)
      have given := judged k _ hk _ acked
      by_contra disliked
      simp [verdict, disliked] at given
    | error reason =>
      obtain ⟨result, hresult, ending⟩ := h.error reason rfl
      obtain ⟨k, hk⟩ := List.mem_iff_getElem?.mp hresult
      rcases ending with given | ⟨-, abandoned⟩
      · have same := judged k result hk _ given
        unfold verdict at same
        split at same
        next => cases same
        next => simpa using same
      · cases judged k result hk _ abandoned

/-- The response of a treatment whose results were judged after others. -/
lemma Treatment.Sound.response_judged {settled : List (Nat × Ending)} {x : Treatment σ}
    (h : x.Sound process settled)
    (unique : ∀ id e e', (id, e) ∈ settled → (id, e') ∈ settled → e = e')
    {first rest : List Transaction}
    (judged : Judged judge failure settled (first ++ (x.results ++ rest))) :
    x.response = answerAfter judge failure (first.map Transaction.payload)
      (x.run process).outcome := by
  cases houtcome : (x.run process).outcome with
  | mk messages rejection =>
    obtain rfl : x.results.map Transaction.payload = messages :=
      h.payloads.trans (congrArg ChainOutcome.messages houtcome)
    by_cases none : x.results = []
    · rw [h.direct none, houtcome, none]
      rfl
    · obtain ⟨before, hbefore, reduction⟩ := h.reduction unique
      have left : (x.run process).outcome.messages ≠ [] := fun empty =>
        none (List.map_eq_nil_iff.mp (h.payloads.trans empty))
      have earlier := (List.prefix_append before _).trans hbefore
      refine (reduction left).response_judged none rejection fun k result hk e he => ?_
      have inside : k < x.results.length := (List.getElem?_eq_some_iff.mp hk).1
      have here : (first ++ (x.results ++ rest))[first.length + k]? = some result := by
        rw [List.getElem?_append_right (Nat.le_add_right _ _), Nat.add_sub_cancel_left,
          List.getElem?_append_left inside, hk]
      have given := judged _ result here e (earlier.subset he)
      rwa [Nat.add_assoc, List.take_length_add_append, List.take_append_of_le_length inside,
        List.map_append, List.map_take] at given

/-- A treatment starts with the stages that those before it left behind. -/
lemma Treated.split {settled : List (Nat × Ending)} {chain chain' : List σ}
    {xs ys zs : List (Treatment σ)} {x : Treatment σ} (h : Treated process settled chain xs chain')
    (hxs : xs = ys ++ x :: zs) : Treated process settled chain ys x.chain := by
  induction h generalizing zs with
  | nil => simp at hxs
  | @concat xs last before hlast ih =>
    rcases List.eq_nil_or_concat zs with rfl | ⟨zs, z, rfl⟩
    · obtain ⟨rfl, hx⟩ := List.append_inj' hxs rfl
      obtain rfl := List.singleton_inj.mp hx
      exact before
    · have same : xs ++ [last] = (ys ++ x :: zs) ++ [z] := by simpa using hxs
      exact ih (List.append_inj' same rfl).1

namespace Processor.Transcript

variable {settled : List (Nat × Ending)} {chain : List σ} {p : Processor σ}
  {taken waiting : List Transaction} {reports : List (Report σ)}

/-- A transaction that came to an end got the answer that follows from those before it. -/
lemma ending_judged (h : Transcript process settled chain p taken reports)
    (unique : ∀ id e e', (id, e) ∈ settled → (id, e') ∈ settled → e = e')
    (judged : Judged judge failure settled (Report.results reports))
    (distinct : ((taken ++ waiting).map Transaction.reply).Nodup)
    (running : ∀ id, id ∈ p.work ∨ id ∈ replies waiting → ∀ e, (id, e) ∉ settled)
    {first later : List Transaction} {t : Transaction}
    (place : taken ++ waiting = first ++ t :: later) {e : Ending} (he : (t.reply, e) ∈ settled) :
    e = .answered (dueAfter process judge failure chain first t.payload) := by
  obtain ⟨xs, current, ts, rs, treated, progress, rfl, rfl⟩ := h
  have complete : t ∈ xs.map Treatment.transaction := by
    have mem : t ∈ xs.map Treatment.transaction ++ ts ++ waiting := by simp [place]
    rcases List.mem_append.mp mem with took | waits
    · exact (List.mem_append.mp took).resolve_right fun ht =>
        running _ (.inl (progress.mem_work ht)) e he
    · exact absurd he (running _ (.inr (mem_replies.mpr ⟨t, waits, rfl⟩)) e)
  obtain ⟨x, hx, rfl⟩ := List.mem_map.mp complete
  obtain ⟨ys, zs, rfl⟩ := List.append_of_mem hx
  have here : (ys ++ x :: zs).map Treatment.transaction ++ ts ++ waiting =
      ys.map Treatment.transaction ++
        x.transaction :: (zs.map Treatment.transaction ++ ts ++ waiting) := by simp
  obtain rfl := before_unique distinct place here rfl
  -- the results before those of `x` are those of the treatments before it
  have earlier := treated.split rfl
  have sound : x.Sound process settled := treated.sound hx
  have made : Report.results ((ys ++ x :: zs).flatMap Treatment.reports ++ rs) =
      Report.results (ys.flatMap Treatment.reports) ++
        (x.results ++ Report.results (zs.flatMap Treatment.reports ++ rs)) := by
    simp
  rw [made] at judged
  rw [unique _ _ _ he sound.given, sound.response_judged unique judged, dueAfter,
    earlier.messages_reports, earlier.interpret_eq.1]
  rfl

end Processor.Transcript

/-! ### Docks that follow the interpreter -/

/-- What the users see agrees with the interpreter: the consumer has received the first messages, and
the answers are those that follow from the verdicts on them. -/
structure Dock.Follows (process : Behaviour σ) (judge : List Message → Bool) (failure : Failure)
    (chain : List σ) (d : Dock) : Prop where
  received : d.received.map Transaction.payload <+: messagesOf (interpret process chain d.accepted)
  answers : ∀ first t later, d.accepted = first ++ t :: later →
    ∀ response ∈ d.around.ledger.responses t.reply,
      response = dueAfter process judge failure chain first t.payload

/-- The consumer has received all messages, and every transaction has been answered once. -/
structure Dock.Finished (process : Behaviour σ) (chain : List σ) (d : Dock) : Prop where
  received : d.received.map Transaction.payload = messagesOf (interpret process chain d.accepted)
  answered : ∀ t ∈ d.accepted, ∃ response, d.around.ledger.responses t.reply = [response]

/-- When nothing is left to be answered every transaction has one response. -/
lemma Books.Balanced.responses_eq {b : Books} (h : b.Balanced) (nothing : b.work = 0) {id : Nat}
    (hid : id ∈ b.accepted) : ∃ response, b.ledger.responses id = [response] := by
  have kept : (id, .abandoned) ∉ b.ledger.settled := fun abandoned =>
    h.disjoint hid (h.abandoned_emitted id abandoned)
  have one := h.count_eq_one hid
  rw [nothing, Multiset.count_zero, Nat.zero_add] at one
  exact List.length_eq_one_iff.mp ((Ledger.length_responses kept).trans one)

namespace Processor.Transcript

variable {chain : List σ} {p : Processor σ} {taken waiting rest : List Transaction}
  {reports : List (Report σ)} {d : Dock} {b : Books}

/-- A dock follows the interpreter if the transactions that wait are still to be answered, and the
results that were not received yet are on their way. -/
theorem follows
    (h : Transcript process d.around.ledger.settled chain p taken reports) (hb : b.Balanced)
    (ledger : b.ledger = d.around.ledger) (accepted : b.accepted = replies d.accepted)
    (htaken : d.accepted = taken ++ waiting) (hresults : Report.results reports = d.received ++ rest)
    (work : ∀ id, id ∈ p.work ∨ id ∈ replies waiting → id ∈ b.work)
    (goods : ∀ id ∈ replies rest, id ∈ b.goods) (judged : d.Judged judge failure) :
    d.Follows process judge failure chain := by
  have distinct : (d.accepted.map Transaction.reply).Nodup := by
    have nodup := hb.nodup_accepted
    rwa [accepted] at nodup
  have unique : ∀ id e e', (id, e) ∈ d.around.ledger.settled →
      (id, e') ∈ d.around.ledger.settled → e = e' := fun _ _ _ he he' =>
    hb.ending_unique (ledger ▸ he) (ledger ▸ he')
  have ended {id : Nat} {e : Ending} (he : (id, e) ∈ d.around.ledger.settled) :
      id ∈ b.ledger.ended := Ledger.mem_ended.mpr ⟨e, ledger ▸ he⟩
  constructor
  · have some : d.received.map Transaction.payload <+:
        (Report.results reports).map Transaction.payload := by
      rw [hresults]
      exact (List.prefix_append _ _).map _
    refine some.trans (h.messages_grow.trans ?_)
    rw [htaken]
    exact (interpret_grows (List.prefix_append _ _)).flatMap _
  · intro first t later haccepted response hresponse
    have answered := Ledger.mem_responses.mp hresponse
    refine Ending.answered.inj (h.ending_judged unique ?_ (htaken ▸ distinct) (fun id busy e he => ?_)
      (htaken.symm.trans haccepted) answered)
    · rw [hresults]
      refine judged.judged.extend fun result hresult e he => ?_
      exact hb.notMem_goods (ended he) (goods _ (mem_replies.mpr ⟨result, hresult, rfl⟩))
    · exact hb.notMem_work (ended he) (work id busy)

/-- When the worker has done everything, and everything was received, all is finished. -/
theorem finished
    (h : Transcript process d.around.ledger.settled chain p d.accepted reports) (hb : b.Balanced)
    (ledger : b.ledger = d.around.ledger) (accepted : b.accepted = replies d.accepted)
    (idle : p.phase = .waiting ∨ p.phase = .ended) (hresults : Report.results reports = d.received)
    (nothing : b.work = 0) : d.Finished process chain := by
  constructor
  · rw [← hresults]
    exact (h.complete_of_idle idle).2
  · intro t ht
    have hid : t.reply ∈ b.accepted := accepted ▸ mem_replies.mpr ⟨t, ht, rfl⟩
    rw [← ledger]
    exact hb.responses_eq nothing hid

end Processor.Transcript

/-! ### Two docks -/

lemma split_of_getElem? {ts : List Transaction} {k : Nat} {t : Transaction} (h : ts[k]? = some t) :
    ts = ts.take k ++ t :: ts.drop (k + 1) := by
  obtain ⟨inside, rfl⟩ := List.getElem?_eq_some_iff.mp h
  rw [← List.drop_eq_getElem_cons inside, List.take_append_drop]

/-- The interpreter looks at the payloads only. -/
lemma interpret_congr {ts ts' : List Transaction}
    (h : ts.map Transaction.payload = ts'.map Transaction.payload) (chain : List σ) :
    messagesOf (interpret process chain ts) = messagesOf (interpret process chain ts') ∧
      chainAfter process chain ts = chainAfter process chain ts' := by
  induction ts generalizing ts' chain with
  | nil =>
    obtain rfl := List.map_eq_nil_iff.mp h.symm
    exact ⟨rfl, rfl⟩
  | cons t ts ih =>
    cases ts' with
    | nil => cases h
    | cons t' ts' =>
      obtain ⟨head, tail⟩ := List.cons.inj h
      obtain ⟨messages, stages⟩ := ih tail (runChain process chain t.payload).chain
      simp only [interpret, chainAfter, messagesOf, List.flatMap_cons] at messages ⊢
      rw [← head]
      exact ⟨congrArg _ messages, stages⟩

lemma dueAfter_congr {before before' : List Transaction}
    (h : before.map Transaction.payload = before'.map Transaction.payload) (chain : List σ)
    (message : Message) :
    dueAfter process judge failure chain before message =
      dueAfter process judge failure chain before' message := by
  obtain ⟨messages, stages⟩ : messagesOf (interpret process chain before) =
      messagesOf (interpret process chain before') ∧
        chainAfter process chain before = chainAfter process chain before' :=
    interpret_congr h chain
  rw [dueAfter, dueAfter, messages, stages]

namespace Dock

variable {chain : List σ} {d d' : Dock}

/-- Of two docks with inputs that begin alike, one has received the first payloads of the other. -/
lemma Follows.received_agree (h : d.Follows process judge failure chain)
    (h' : d'.Follows process judge failure chain) {inputs : List Message}
    (begins : d.accepted.map Transaction.payload <+: inputs)
    (begins' : d'.accepted.map Transaction.payload <+: inputs) :
    d.received.map Transaction.payload <+: d'.received.map Transaction.payload ∨
      d'.received.map Transaction.payload <+: d.received.map Transaction.payload := by
  -- both are beginnings of what comes of all inputs
  let whole := inputs.map fun payload => (⟨payload, 0⟩ : Transaction)
  have grows {ts : List Transaction} (hts : ts.map Transaction.payload <+: inputs) :
      messagesOf (interpret process chain ts) <+: messagesOf (interpret process chain whole) := by
    have some : whole.take ts.length <+: whole := List.take_prefix _ _
    have same : ts.map Transaction.payload =
        (whole.take ts.length).map Transaction.payload := by
      have payloads : whole.map Transaction.payload = inputs := by
        simp [whole, Function.comp_def]
      rw [List.map_take, payloads, ← List.length_map Transaction.payload]
      exact List.prefix_iff_eq_take.mp hts
    rw [(interpret_congr same chain).1]
    exact (interpret_grows some).flatMap _
  exact List.prefix_or_prefix_of_prefix (h.received.trans (grows begins))
    (h'.received.trans (grows begins'))

/-- Two docks with inputs that begin alike give the same answers. -/
lemma Follows.answers_agree (h : d.Follows process judge failure chain)
    (h' : d'.Follows process judge failure chain) {inputs : List Message}
    (begins : d.accepted.map Transaction.payload <+: inputs)
    (begins' : d'.accepted.map Transaction.payload <+: inputs) {k : Nat} {t t' : Transaction}
    (ht : d.accepted[k]? = some t) (ht' : d'.accepted[k]? = some t') {response response' : Response}
    (answered : response ∈ d.around.ledger.responses t.reply)
    (answered' : response' ∈ d'.around.ledger.responses t'.reply) : response = response' := by
  have first {ts : List Transaction} {t : Transaction} (hts : ts.map Transaction.payload <+: inputs)
      (ht : ts[k]? = some t) :
      (ts.take k).map Transaction.payload = inputs.take k ∧ some t.payload = inputs[k]? := by
    have inside : k < (ts.map Transaction.payload).length := by
      rw [List.length_map]
      exact (List.getElem?_eq_some_iff.mp ht).1
    obtain ⟨more, rfl⟩ := hts
    rw [List.take_append_of_le_length inside.le, List.getElem?_append_left inside,
      List.getElem?_map, ht, List.map_take]
    exact ⟨rfl, rfl⟩
  obtain ⟨before, payload⟩ := first begins ht
  obtain ⟨before', payload'⟩ := first begins' ht'
  have here := h.answers _ t _ (split_of_getElem? ht) response answered
  have there := h'.answers _ t' _ (split_of_getElem? ht') response' answered'
  rw [here, there, Option.some.inj (payload.trans payload'.symm)]
  exact dueAfter_congr (before.trans before'.symm) chain _

/-- When both docks have finished the same input, they have received the same payloads and given the
same answers. -/
lemma Finished.agree (h : d.Finished process chain) (h' : d'.Finished process chain)
    (follows : d.Follows process judge failure chain)
    (follows' : d'.Follows process judge failure chain)
    (same : d.accepted.map Transaction.payload = d'.accepted.map Transaction.payload) :
    d.received.map Transaction.payload = d'.received.map Transaction.payload ∧
      (d.accepted.map fun t => d.around.ledger.responses t.reply) =
        d'.accepted.map fun t => d'.around.ledger.responses t.reply := by
  refine ⟨?_, List.ext_getElem? fun k => ?_⟩
  · rw [h.received, h'.received, (interpret_congr same chain).1]
  · have length : d.accepted.length = d'.accepted.length := by
      simpa using congrArg List.length same
    rw [List.getElem?_map, List.getElem?_map]
    cases ht : d.accepted[k]? with
    | none =>
      rw [List.getElem?_eq_none (length ▸ List.getElem?_eq_none_iff.mp ht)]
      rfl
    | some t =>
      have inside := (List.getElem?_eq_some_iff.mp ht).1
      have ht' := List.getElem?_eq_getElem (length ▸ inside)
      obtain ⟨response, hresponse⟩ := h.answered t (List.mem_of_getElem? ht)
      obtain ⟨response', hresponse'⟩ := h'.answered _ (List.mem_of_getElem? ht')
      have begins' : d'.accepted.map Transaction.payload <+: d.accepted.map Transaction.payload :=
        same ▸ List.prefix_rfl
      have agree : response = response' :=
        follows.answers_agree follows' List.prefix_rfl begins' ht ht'
          (hresponse ▸ List.mem_singleton_self _) (hresponse' ▸ List.mem_singleton_self _)
      rw [ht', Option.map_some, Option.map_some, hresponse, hresponse', agree]

end Dock

end Conveyor
