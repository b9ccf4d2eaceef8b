import Conveyor.Proofs.DepthFirst
import Conveyor.Proofs.Interpreter
import Conveyor.Stage.Catalogue
import Mathlib.Data.List.Induction

/-!
# Gates that count

A gate over a counter of rounds rejects the last message of every round and passes all others on. What
it counts are the messages that reach it over the whole life of its chain, whichever message of the
input they come from and whatever the other stages do (`last_of_round_rejected`). Its counter stays
below the length of a round, so counting one more never overflows.
-/

namespace Conveyor

/-! ### Rounds -/

namespace RoundCounter

/-- How many questions make a round, where a length of zero is taken as one. -/
def round (length : UInt64) : Nat := max length.toNat 1

/-- A counter that has answered `n` questions. -/
def asked (length : UInt64) (n : Nat) : RoundCounter := ⟨length, .ofNat (n % round length)⟩

variable (length : UInt64) (n : Nat)

lemma mod_round_lt : n % round length < round length :=
  Nat.mod_lt n (Nat.lt_of_lt_of_le Nat.one_pos (Nat.le_max_right ..))

/-- A counter can count one more. -/
lemma mod_round_succ_lt : n % round length + 1 < UInt64.size := by
  have bound := length.toNat_lt
  have below := mod_round_lt length n
  simp only [round, UInt64.size] at below ⊢
  omega

lemma toNat_count_asked : (asked length n).count.toNat = n % round length := by
  have fits := mod_round_succ_lt length n
  exact UInt64.toNat_ofNat_of_lt' (Nat.lt_of_succ_lt fits)

lemma succ_mod_round :
    (n + 1) % round length =
      if n % round length + 1 = round length then 0 else n % round length + 1 := by
  have below := mod_round_lt length n
  rw [← Nat.mod_add_mod]
  split
  next last => rw [last, Nat.mod_self]
  next more => exact Nat.mod_eq_of_lt (by omega)

/-- The last question of every round is answered with no. -/
lemma check_asked :
    (asked length n).check = (decide ¬round length ∣ n + 1, asked length (n + 1)) := by
  have below := mod_round_lt length n
  have counted : ((asked length n).count + 1).toNat = n % round length + 1 := by
    rw [UInt64.toNat_add, toNat_count_asked]
    exact Nat.mod_eq_of_lt (mod_round_succ_lt length n)
  have goes_on : (asked length n).count + 1 < length ↔ ¬n % round length + 1 = round length := by
    rw [UInt64.lt_iff_toNat_lt, counted]
    simp only [round] at below ⊢
    omega
  have next := succ_mod_round length n
  rw [check, show (asked length n).length = length from rfl]
  by_cases last : n % round length + 1 = round length
  · rw [if_pos last] at next
    rw [if_neg (by simpa [goes_on] using last)]
    simp [asked, Nat.dvd_iff_mod_eq_zero, next]
  · rw [if_neg last] at next
    rw [if_pos (goes_on.mpr last)]
    simp [asked, Nat.dvd_iff_mod_eq_zero, next]

end RoundCounter

/-! ### What reaches a stage -/

section Life

variable {σ : Type}

/-- The messages that reach the stage in a place of a chain over the life of the chain, in which it is
run on some transactions, one after the other. -/
def reaching (process : Behaviour σ) (k : Nat) (chain : List σ) : List Transaction → List Message
  | []      => []
  | t :: ts =>
    (ChainRun.seen process chain [t.payload])[k]?.getD [] ++
      reaching process k (runChain process chain t.payload).chain ts

/-- Notes disturb neither the life of a chain nor what reaches its stages. -/
lemma chainAfter_noting (process : Behaviour σ) (k : Nat) (noted : List (Noted σ))
    (ts : List Transaction) :
    chainAfter process (noted.map Noted.stage) ts =
        (chainAfter (noting process) noted ts).map Noted.stage ∧
      reaching process k (noted.map Noted.stage) ts = reaching (noting process) k noted ts := by
  have same (noted : Noted σ) (message : Message) : process noted.stage message =
      ((noting process noted message).1, (noting process noted message).2.stage) := rfl
  induction ts generalizing noted with
  | nil => exact ⟨rfl, rfl⟩
  | cons t ts ih =>
    have first : runChain process (noted.map Noted.stage) t.payload = _ :=
      ChainRun.ofMessages_view same noted [t.payload] none
    have seen := ChainRun.seen_view same noted [t.payload]
    obtain ⟨chain, later⟩ := ih (runChain (noting process) noted t.payload).chain
    rw [chainAfter, chainAfter, reaching, reaching, first, seen]
    exact ⟨chain, congrArg _ later⟩

lemma ChainRun.length_seen (process : Behaviour σ) (chain : List σ) (messages : List Message) :
    (seen process chain messages).length = chain.length := by
  induction chain generalizing messages with
  | nil => rfl
  | cons stage chain ih =>
    rw [seen, List.length_cons, List.length_cons]
    split
    · rw [List.length_replicate]
    · rw [ih]

lemma advance_append (stage : σ) (messages later : List Message) :
    advance process stage (messages ++ later) =
      advance process (advance process stage messages) later :=
  List.foldl_append

/-- Over the life of a chain, a stage is what the messages that reach it make of it. -/
lemma getElem?_chainAfter (process : Behaviour σ) {chain : List σ} {k : Nat} {stage : σ}
    (h : chain[k]? = some stage) (ts : List Transaction) :
    (chainAfter process chain ts)[k]? = some (advance process stage (reaching process k chain ts)) := by
  induction ts generalizing chain stage with
  | nil => exact h
  | cons t ts ih =>
    obtain ⟨seen, hs⟩ : ∃ seen, (ChainRun.seen process chain [t.payload])[k]? = some seen := by
      have bound := (List.getElem?_eq_some_iff.mp h).1
      rw [← ChainRun.length_seen process chain [t.payload]] at bound
      exact ⟨_, List.getElem?_eq_getElem bound⟩
    have next : (runChain process chain t.payload).chain[k]? = some (advance process stage seen) := by
      rw [runChain, ChainRun.chain_eq, List.getElem?_zipWith_eq_some]
      exact ⟨stage, seen, h, hs, rfl⟩
    rw [chainAfter, ih next, reaching, hs, Option.getD_some, advance_append]

end Life

/-! ### Gates among other stages -/

variable {τ : Type}

/-- Stages of the catalogue among any others. -/
def among (switches : Switches) (others : Behaviour τ) : Behaviour (Stage ⊕ τ)
  | .inl stage, message =>
    let (verdict, stage) := stage.process switches message
    (verdict, .inl stage)
  | .inr stage, message =>
    let (verdict, stage) := others stage message
    (verdict, .inr stage)

/-- What a gate makes of a message that reaches it after `n` others. -/
def roundVerdict (name : String) (length : UInt64) (n : Nat) (message : Message) : Verdict :=
  if RoundCounter.round length ∣ n + 1 then .reject (.rejected (Stage.gateReason name))
  else .pass [message]

/-- A gate that `n` messages have reached. -/
def countingGate (τ : Type) (name : String) (length : UInt64) (n : Nat) : Stage ⊕ τ :=
  .inl (.gate name (.rounds (.asked length n)))

variable {switches : Switches} {others : Behaviour τ} {name : String} {length : UInt64}

lemma among_countingGate (n : Nat) (message : Message) :
    among switches others (countingGate τ name length n) message =
      (roundVerdict name length n message, countingGate τ name length (n + 1)) := by
  have checked := RoundCounter.check_asked length n
  simp only [among, countingGate, Stage.process, Condition.check, checked, roundVerdict]
  by_cases last : RoundCounter.round length ∣ n + 1 <;> simp [last]

lemma advance_countingGate (messages : List Message) :
    advance (among switches others) (countingGate τ name length 0) messages =
      countingGate τ name length messages.length := by
  induction messages using List.reverseRecOn with
  | nil => rfl
  | append_singleton messages message ih =>
    rw [advance_append, ih, advance, List.foldl_cons, among_countingGate]
    simp

/-- Each message that reaches a gate is judged by its place among all that do. -/
lemma advance_noting_countingGate (messages : List Message) :
    advance (noting (among switches others)) (.fresh (countingGate τ name length 0)) messages =
      ⟨countingGate τ name length messages.length,
        messages.mapIdx fun i message => (message, roundVerdict name length i message)⟩ := by
  induction messages using List.reverseRecOn with
  | nil => rfl
  | append_singleton messages message ih =>
    rw [advance_append, ih, advance, List.foldl_cons, noting, among_countingGate]
    simp [List.mapIdx_concat]

/-- A gate over a counter of rounds, anywhere in a chain of any other stages, and runs of the chain on
any messages, one after the other. Whatever the other stages do, the calls of the gate are those for the
messages that reach it over the life of the chain: the last one of every round is rejected, and all
others are passed on as they are. After each of them the counter is their number modulo the length of a
round, so it can always count one more. -/
theorem last_of_round_rejected (switches : Switches) (others : Behaviour τ) (name : String)
    (length : UInt64) (before after : List (Stage ⊕ τ)) (ts : List Transaction) :
    let process := among switches others
    let gate : Stage ⊕ τ := .inl (.gate name (.rounds { length }))
    let chain := before ++ gate :: after
    let reached := reaching process before.length chain ts
    let noted := chainAfter (noting process) (chain.map Noted.fresh) ts
    chainAfter process chain ts = noted.map Noted.stage ∧
      noted[before.length]? = some
        { stage := advance process gate reached
          calls := reached.mapIdx fun i message =>
            (message,
              if max length.toNat 1 ∣ i + 1 then .reject (.rejected (Stage.gateReason name))
              else .pass [message]) } ∧
      ∀ i ≤ reached.length, ∃ count : UInt64,
        advance process gate (reached.take i) = .inl (.gate name (.rounds { length, count })) ∧
          count.toNat = i % max length.toNat 1 ∧ count.toNat + 1 < UInt64.size := by
  intro process gate chain reached noted
  have start : gate = countingGate τ name length 0 := by
    simp [gate, countingGate, RoundCounter.asked]
  have bare : (chain.map Noted.fresh).map Noted.stage = chain := by
    rw [List.map_map]
    exact List.map_id _
  obtain ⟨plain, same⟩ := chainAfter_noting process before.length (chain.map Noted.fresh) ts
  rw [bare] at plain same
  have here : (chain.map Noted.fresh)[before.length]? =
      some (.fresh (countingGate τ name length 0)) := by
    simp [chain, start]
  have after := getElem?_chainAfter (noting process) here ts
  rw [← same, advance_noting_countingGate] at after
  refine ⟨plain, ?_, fun i hi => ?_⟩
  · rw [start, advance_countingGate]
    exact after
  · have taken : (reached.take i).length = i := List.length_take_of_le hi
    have count := RoundCounter.toNat_count_asked length i
    refine ⟨(RoundCounter.asked length i).count, ?_, count, ?_⟩
    · rw [start, advance_countingGate, taken]
      rfl
    · rw [count]
      exact RoundCounter.mod_round_succ_lt length i

/-- Two runs send two messages each to a gate that rejects every third one. The stage behind it sends
the first message on twice, rejects the second one and panics at the last one. -/
theorem last_of_round_rejected_crossing :
    let gate : Stage ⊕ Nat := .inl (.gate "third" (.rounds { length := 3 }))
    let chain := [.inl (.fanOut 2), gate, .inr 0]
    let runs : List Transaction := [⟨.empty, 0⟩, ⟨.empty, 1⟩]
    let first : Message := .ofStrings ["test0"]
    let second : Message := .ofStrings ["test1"]
    (interpret (among .empty fickle) chain runs).map (fun run => run.2.result) =
        [.ok ⟨[first, first], some (.rejected "no more")⟩, .error "too many"] ∧
      (chainAfter (noting (among .empty fickle)) (chain.map Noted.fresh) runs)[1]? = some
        { stage := .inl (.gate "third" (.rounds { length := 3, count := 1 }))
          calls := [(first, .pass [first]), (second, .pass [second]),
            (first, .reject (.rejected (Stage.gateReason "third"))), (second, .pass [second])] } := by
  intro gate chain runs first second
  have reached : reaching (among .empty fickle) 1 chain runs = [first, second, first, second] := rfl
  have counted : advance (among .empty fickle) gate [first, second, first, second] =
      .inl (.gate "third" (.rounds { length := 3, count := 1 })) := rfl
  obtain ⟨-, notes, -⟩ := last_of_round_rejected .empty fickle "third" 3 [.inl (.fanOut 2)] [.inr 0] runs
  refine ⟨rfl, notes.trans ?_⟩
  change some (Noted.mk (advance _ gate (reaching _ 1 chain runs))
    ((reaching _ 1 chain runs).mapIdx _)) = _
  rw [reached, counted]
  simp

end Conveyor
