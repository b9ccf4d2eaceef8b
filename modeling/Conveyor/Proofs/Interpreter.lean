import Conveyor.Processor
import Mathlib.Data.List.Nodup

/-!
# The sequential interpreter

The interpreter runs the stages on one transaction after the other, each time from the states that
the run before left them in, a panic included. Nothing happens beside it, and it never waits.
-/

namespace Conveyor

variable {σ : Type}

/-- The runs of the stages on some transactions, one after the other. -/
def interpret (process : Behaviour σ) (chain : List σ) :
    List Transaction → List (Transaction × ChainRun σ)
  | []      => []
  | t :: ts =>
    (t, runChain process chain t.payload) ::
      interpret process (runChain process chain t.payload).chain ts

/-- The stages, as the runs on some transactions leave them. -/
def chainAfter (process : Behaviour σ) (chain : List σ) : List Transaction → List σ
  | []      => chain
  | t :: ts => chainAfter process (runChain process chain t.payload).chain ts

/-- The messages that are left of some runs, in their order. -/
def messagesOf (runs : List (Transaction × ChainRun σ)) : List Message :=
  runs.flatMap fun (_, run) => run.outcome.messages

variable (process : Behaviour σ) (chain : List σ) (ts ts' : List Transaction)

@[simp] lemma interpret_singleton (t : Transaction) :
    interpret process chain [t] = [(t, runChain process chain t.payload)] := rfl

lemma interpret_append :
    interpret process chain (ts ++ ts') =
      interpret process chain ts ++ interpret process (chainAfter process chain ts) ts' := by
  induction ts generalizing chain with
  | nil => rfl
  | cons t ts ih => simp [interpret, chainAfter, ih]

lemma chainAfter_append :
    chainAfter process chain (ts ++ ts') =
      chainAfter process (chainAfter process chain ts) ts' := by
  induction ts generalizing chain with
  | nil => rfl
  | cons t ts ih => exact ih _

@[simp] lemma map_fst_interpret : (interpret process chain ts).map Prod.fst = ts := by
  induction ts generalizing chain with
  | nil => rfl
  | cons t ts ih => simp [interpret, ih]

variable {process chain ts ts'}

/-- The interpreter does not look ahead. -/
lemma interpret_grows (h : ts <+: ts') :
    interpret process chain ts <+: interpret process chain ts' := by
  obtain ⟨later, rfl⟩ := h
  rw [interpret_append]
  exact List.prefix_append _ _

/-- There is one run for each transaction. -/
lemma run_unique (distinct : (ts.map Transaction.reply).Nodup) {t : Transaction}
    {run run' : ChainRun σ} (h : (t, run) ∈ interpret process chain ts)
    (h' : (t, run') ∈ interpret process chain ts) : run = run' := by
  have distinct : ((interpret process chain ts).map (Transaction.reply ∘ Prod.fst)).Nodup := by
    rwa [← List.map_map, map_fst_interpret]
  exact (Prod.mk.inj (List.inj_on_of_nodup_map distinct h h' rfl)).2

end Conveyor
