import Conveyor.Proofs.Verdicts

/-!
# Consumers that keep to their verdicts

A consumer with verdicts may take its time, but it answers every result by the payloads that it had
received when the result came, and neither drops a result nor leaves (`Dock.Event.judges`). As nobody
else answers what it has in its hands, all answers to received results are its verdicts
(`Dock.Attended.user`, `Dock.Attended.keep`).
-/

namespace Conveyor.Dock

variable {judge : List Message → Bool} {failure : Failure} {d d' : Dock} {rest rest' : Books}
  {e : Event}

/-- Whether what a user does agrees with the verdicts on the results, each by the payloads up to its
own. -/
def Event.judges (judge : List Message → Bool) (failure : Failure) (d : Dock) : Event → Bool
  | .answer t response =>
    response =
      verdict judge failure ((d.received.take (d.received.idxOf t + 1)).map Transaction.payload)
  | .discard _ | .hangUp => false
  | _ => true

/-- What holds of a dock whose consumer keeps to its verdicts. -/
structure Attended (judge : List Message → Bool) (failure : Failure) (d : Dock) : Prop where
  judged : d.Judged judge failure
  held_received : d.held ⊆ d.received
  kept : ∀ t ∈ d.received, t ∈ d.held ∨ t.reply ∈ d.around.ledger.ended

lemma Opening.attended (h : d.Opening) (listens : d.around.output.closed = false) :
    d.Attended judge failure where
  judged := ⟨listens, by simp [Conveyor.Judged, h.settled]⟩
  held_received := by simp [h.held]
  kept := by simp [h.received]

/-- A result comes: it was not answered before. -/
lemma Attended.receive (h : d.Attended judge failure) (balanced : (d.books rest).Balanced)
    (hd : d.step .receive = some d') : d'.Attended judge failure := by
  simp only [step] at hd
  split at hd
  next => cases hd
  next t queue hq =>
    cases hd
    have running : ∀ result ∈ [t], ∀ e, (result.reply, e) ∉ d.around.ledger.settled := by
      rintro result hresult e he
      obtain rfl := List.mem_singleton.mp hresult
      have goods : result.reply ∈ (d.books rest).goods := by simp [books, hq]
      exact balanced.notMem_goods (Ledger.mem_ended.mpr ⟨e, he⟩) goods
    refine ⟨⟨h.judged.listens, h.judged.judged.extend running⟩, ?_, fun result hresult => ?_⟩
    · exact List.append_subset.mpr
        ⟨List.Subset.trans h.held_received (List.subset_append_left _ _),
          List.subset_append_right _ _⟩
    · rcases List.mem_append.mp hresult with old | new
      · exact (h.kept result old).imp_left (List.mem_append_left _)
      · exact .inl (List.mem_append_right _ new)

/-- A result is answered: the others keep their answers. -/
lemma Attended.answer (h : d.Attended judge failure)
    (distinct : (d.received.map Transaction.reply).Nodup) {t : Transaction} {response : Response}
    (judges : (Event.answer t response).judges judge failure d)
    (hd : d.step (.answer t response) = some d') : d'.Attended judge failure := by
  simp only [step] at hd
  split at hd
  next ht =>
    cases hd
    have mem := h.held_received ht
    refine ⟨⟨h.judged.listens, fun k result hresult e he => ?_⟩, ?_, fun result hresult => ?_⟩
    · rw [Ledger.settled_respond] at he
      rcases List.mem_append.mp he with before | now
      · exact h.judged.judged k result hresult e before
      · obtain ⟨same, rfl⟩ := Prod.mk.inj (List.mem_singleton.mp now)
        have member := List.mem_of_getElem? hresult
        obtain rfl := List.inj_on_of_nodup_map distinct member mem same
        obtain ⟨inside, here⟩ := List.getElem?_eq_some_iff.mp hresult
        have position : d.received.idxOf result = k := by
          rw [← here]
          exact distinct.of_map.idxOf_getElem k inside
        rw [← position]
        exact congrArg _ (of_decide_eq_true judges)
    · exact List.Subset.trans List.erase_subset h.held_received
    · by_cases same : result = t
      · subst same
        exact .inr (Ledger.mem_ended.mpr ⟨.answered response, by simp⟩)
      · refine (h.kept result hresult).imp (List.mem_erase_of_ne same).mpr fun ended => ?_
        obtain ⟨e, he⟩ := Ledger.mem_ended.mp ended
        exact Ledger.mem_ended.mpr ⟨e, by simp [he]⟩
  next => cases hd

/-- The consumer keeps to its verdicts as long as it does what agrees with them, whatever the producers
do. -/
lemma Attended.user (h : d.Attended judge failure) (balanced : (d.books rest).Balanced)
    (distinct : (d.received.map Transaction.reply).Nodup) (judges : e.judges judge failure d)
    (hd : d.step e = some d') : d'.Attended judge failure := by
  cases e with
  | receive => exact h.receive balanced hd
  | answer t response => exact h.answer distinct judges hd
  | discard | hangUp => cases judges
  | depart =>
    cases hd
    exact ⟨⟨h.judged.listens, h.judged.judged⟩, h.held_received, h.kept⟩
  | send | look | release =>
    simp only [step] at hd
    split at hd <;> cases hd
    exact ⟨⟨h.judged.listens, h.judged.judged⟩, h.held_received, h.kept⟩

/-- Nobody else answers what the consumer has in its hands. -/
lemma Attended.keep (h : d.Attended judge failure) (balanced : (d'.books rest').Balanced)
    (held : d'.held = d.held) (received : d'.received = d.received)
    (output : d'.around.output.closed = d.around.output.closed)
    (log : d.around.ledger.settled <+: d'.around.ledger.settled) : d'.Attended judge failure := by
  refine ⟨⟨output.trans h.judged.listens, fun k result hresult e he => ?_⟩, ?_, fun t ht => ?_⟩
  · rw [received] at hresult ⊢
    rcases h.kept result (List.mem_of_getElem? hresult) with inHand | ended
    · -- it is still in the hands of the consumer
      have goods : result.reply ∈ (d'.books rest').goods :=
        Multiset.mem_add.mpr (.inr (Multiset.mem_add.mpr (.inl
          (mem_replies.mpr ⟨result, held ▸ inHand, rfl⟩))))
      exact absurd goods (balanced.notMem_goods (Ledger.mem_ended.mpr ⟨e, he⟩))
    · obtain ⟨e₁, he₁⟩ := Ledger.mem_ended.mp ended
      rw [balanced.ending_unique he (log.subset he₁)]
      exact h.judged.judged k result hresult e₁ he₁
  · rw [held, received]
    exact h.held_received
  · rw [received] at ht
    rw [held]
    refine (h.kept t ht).imp_right fun ended => ?_
    obtain ⟨e, he⟩ := Ledger.mem_ended.mp ended
    exact Ledger.mem_ended.mpr ⟨e, log.subset he⟩

end Conveyor.Dock
