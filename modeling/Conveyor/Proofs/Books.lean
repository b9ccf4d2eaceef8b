import Conveyor.Proofs.Ledger
import Mathlib.Data.Multiset.UnionInter
import Mathlib.Logic.Relation

/-!
# Books of transactions

The books of a pipeline at work tell, by the numbers of their response paths, which transactions
wait for an answer and which results are on their way. Whatever the pipeline and its users do is a
sequence of the entries of `Books.Step`; that a transaction moves from one place to another needs
no entry. The books stay balanced: everything that was accepted or emitted is in exactly one of the
three places work, goods and log (`Books.Balanced.balance`).
-/

namespace Conveyor

/-- The numbers of the paths of some transactions. -/
def replies (ts : List Transaction) : Multiset Nat := (ts.map Transaction.reply : List Nat)

@[simp] lemma replies_nil : replies [] = 0 := rfl

@[simp] lemma replies_cons (t : Transaction) (ts : List Transaction) :
    replies (t :: ts) = t.reply ::ₘ replies ts := rfl

lemma replies_append (ts ts' : List Transaction) :
    replies (ts ++ ts') = replies ts + replies ts' := by
  simp [replies]

@[simp] lemma replies_concat (ts : List Transaction) (t : Transaction) :
    replies (ts ++ [t]) = t.reply ::ₘ replies ts := by
  simp [replies, Multiset.cons_coe, List.perm_append_singleton]

lemma replies_erase {ts : List Transaction} {t : Transaction} (h : t ∈ ts) :
    replies ts = t.reply ::ₘ replies (ts.erase t) :=
  Multiset.coe_eq_coe.mpr ((List.perm_cons_erase h).map Transaction.reply)

lemma mem_replies {ts : List Transaction} {id : Nat} :
    id ∈ replies ts ↔ ∃ t ∈ ts, t.reply = id := by
  simp [replies]

/-- The numbers of the paths that came to an end. -/
def Ledger.ended (l : Ledger) : Multiset Nat := (l.settled.map Prod.fst : List Nat)

namespace Ledger

@[simp] lemma ended_fresh (l : Ledger) : l.fresh.2.ended = l.ended := rfl

@[simp] lemma ended_read (l : Ledger) (id : Nat) : (l.read id).2.ended = l.ended := rfl

@[simp] lemma ended_release (l : Ledger) (id : Nat) : (l.release id).ended = l.ended := rfl

@[simp] lemma ended_respond (l : Ledger) (id : Nat) (r : Response) :
    (l.respond id r).2.ended = id ::ₘ l.ended := by
  simp [ended, Multiset.cons_coe, List.perm_append_singleton]

@[simp] lemma ended_abandon (l : Ledger) (id : Nat) : (l.abandon id).ended = id ::ₘ l.ended := by
  simp [ended, Multiset.cons_coe, List.perm_append_singleton]

lemma mem_ended {l : Ledger} {id : Nat} : id ∈ l.ended ↔ ∃ e, (id, e) ∈ l.settled := by
  simp [ended]

end Ledger

/-- The books of a pipeline at work. -/
@[ext]
structure Books where
  /-- The transactions that the pipeline has to answer. -/
  work : Multiset Nat
  /-- The results that are on their way to the consumer or in its hands. -/
  goods : Multiset Nat
  /-- The results whose answers a worker is still going to read. -/
  awaited : Multiset Nat
  /-- All transactions that were accepted. -/
  accepted : Multiset Nat
  /-- All results that were made. -/
  emitted : Multiset Nat
  ledger : Ledger

namespace Books

/-- The entries that can be made. A transaction is accepted and answered; a result is emitted, which
makes its answer awaited, and resolved or dropped; an awaited answer is collected when it is there.
The sender of a transaction may look for the answer, and may release its path. -/
inductive Step (b : Books) : Books → Prop where
  | accept :
      Step b { b with
        work := b.ledger.paths.length ::ₘ b.work
        accepted := b.ledger.paths.length ::ₘ b.accepted
        ledger := b.ledger.fresh.2 }
  | answer (id : Nat) (work : Multiset Nat) (h : b.work = id ::ₘ work) (r : Response) :
      Step b { b with work, ledger := (b.ledger.respond id r).2 }
  | emit :
      Step b { b with
        goods := b.ledger.paths.length ::ₘ b.goods
        awaited := b.ledger.paths.length ::ₘ b.awaited
        emitted := b.ledger.paths.length ::ₘ b.emitted
        ledger := b.ledger.fresh.2 }
  | resolve (id : Nat) (goods : Multiset Nat) (h : b.goods = id ::ₘ goods) (r : Response) :
      Step b { b with goods, ledger := (b.ledger.respond id r).2 }
  | drop (id : Nat) (goods : Multiset Nat) (h : b.goods = id ::ₘ goods) :
      Step b { b with goods, ledger := b.ledger.abandon id }
  | collect (id : Nat) (awaited : Multiset Nat) (h : b.awaited = id ::ₘ awaited)
      (ended : id ∈ b.ledger.ended) :
      Step b { b with awaited, ledger := (b.ledger.read id).2 }
  | look {id : Nat} (h : id ∈ b.accepted) : Step b { b with ledger := (b.ledger.read id).2 }
  | release {id : Nat} (h : id ∈ b.accepted) : Step b { b with ledger := b.ledger.release id }

/-- Any number of entries. -/
abbrev Steps : Books → Books → Prop := Relation.ReflTransGen Step

/-- What holds of the books at any time. -/
structure Balanced (b : Books) : Prop where
  ledger : b.ledger.Sound
  balance : b.work + b.goods + b.ledger.ended = b.accepted + b.emitted
  nodup : (b.accepted + b.emitted).Nodup
  lt_length : ∀ id ∈ b.accepted + b.emitted, id < b.ledger.paths.length
  work_accepted : b.work ⊆ b.accepted
  goods_emitted : b.goods ⊆ b.emitted
  abandoned_emitted : ∀ id, (id, .abandoned) ∈ b.ledger.settled → id ∈ b.emitted
  awaited_le : b.awaited ≤ b.emitted
  listening : ∀ id ∈ b.awaited, (b.ledger.path id).receiver = .listening
  resolved : ∀ id ∈ b.emitted, id ∈ b.awaited ∨ id ∈ b.ledger.ended

variable {b b' : Books}

lemma Steps.of_eq (h : b = b') : Steps b b' := h ▸ .refl

/-- A result is made and dropped at once. -/
lemma Steps.lose (b : Books) :
    Steps b { b with
      awaited := b.ledger.paths.length ::ₘ b.awaited
      emitted := b.ledger.paths.length ::ₘ b.emitted
      ledger := b.ledger.fresh.2.abandon b.ledger.paths.length } := by
  have made : Steps b _ := .single .emit
  exact made.tail (.drop _ b.goods rfl)

/-! ### The log only grows -/

lemma Step.settled_grows (h : Step b b') : b.ledger.settled <+: b'.ledger.settled := by
  cases h with
  | answer | resolve | drop => exact List.prefix_append _ _
  | _ => exact List.prefix_rfl

lemma Steps.settled_grows (h : Steps b b') : b.ledger.settled <+: b'.ledger.settled := by
  induction h with
  | refl => exact List.prefix_rfl
  | tail _ step ih => exact ih.trans step.settled_grows

/-! ### The books stay balanced -/

lemma Balanced.fresh_notMem (h : b.Balanced) : b.ledger.paths.length ∉ b.accepted + b.emitted :=
  fun hmem => Nat.lt_irrefl _ (h.lt_length _ hmem)

lemma Balanced.work_lt (h : b.Balanced) {id : Nat} (hid : id ∈ b.work) :
    id < b.ledger.paths.length :=
  h.lt_length id (Multiset.mem_add.mpr (.inl (h.work_accepted hid)))

lemma Balanced.goods_lt (h : b.Balanced) {id : Nat} (hid : id ∈ b.goods) :
    id < b.ledger.paths.length :=
  h.lt_length id (Multiset.mem_add.mpr (.inr (h.goods_emitted hid)))

lemma Balanced.awaited_emitted (h : b.Balanced) {id : Nat} (hid : id ∈ b.awaited) :
    id ∈ b.emitted := Multiset.mem_of_le h.awaited_le hid

lemma Balanced.awaited_lt (h : b.Balanced) {id : Nat} (hid : id ∈ b.awaited) :
    id < b.ledger.paths.length :=
  h.lt_length id (Multiset.mem_add.mpr (.inr (h.awaited_emitted hid)))

lemma Balanced.disjoint (h : b.Balanced) {id : Nat} (ha : id ∈ b.accepted) : id ∉ b.emitted :=
  fun he => Multiset.disjoint_left.mp (Multiset.nodup_add.mp h.nodup).2.2 ha he

/-- A new number keeps the numbers apart. -/
lemma Balanced.nodup_fresh (h : b.Balanced) :
    (b.ledger.paths.length ::ₘ (b.accepted + b.emitted)).Nodup :=
  Multiset.nodup_cons.mpr ⟨h.fresh_notMem, h.nodup⟩

lemma Balanced.lt_length_fresh (h : b.Balanced) :
    ∀ id ∈ b.ledger.paths.length ::ₘ (b.accepted + b.emitted),
      id < b.ledger.fresh.2.paths.length := by
  intro id hid
  rw [Ledger.length_fresh]
  rcases Multiset.mem_cons.mp hid with rfl | hid
  · exact Nat.lt_succ_self _
  · exact Nat.lt_succ_of_lt (h.lt_length id hid)

lemma Balanced.listening_fresh (h : b.Balanced) {id : Nat} (hid : id ∈ b.awaited) :
    (b.ledger.fresh.2.path id).receiver = .listening := by
  rw [Ledger.path_fresh_of_lt (h.awaited_lt hid)]
  exact h.listening id hid

lemma Balanced.abandoned_respond (h : b.Balanced) {id x : Nat} {r : Response}
    (hx : (x, .abandoned) ∈ (b.ledger.respond id r).2.settled) : x ∈ b.emitted := by
  rw [Ledger.settled_respond] at hx
  exact h.abandoned_emitted x (by simpa using hx)

lemma Balanced.listening_respond (h : b.Balanced) {id x : Nat} {r : Response}
    (hx : x ∈ b.awaited) : ((b.ledger.respond id r).2.path x).receiver = .listening := by
  rw [Ledger.receiver_respond]
  exact h.listening x hx

/-- A result is still awaited, or it came to an end, also when one more path does so. -/
lemma Balanced.resolved_cons (h : b.Balanced) (id : Nat) {x : Nat} (hx : x ∈ b.emitted) :
    x ∈ b.awaited ∨ x ∈ id ::ₘ b.ledger.ended :=
  (h.resolved x hx).imp_right Multiset.mem_cons_of_mem

/-- Nobody awaits the answer to a transaction as that to a result. -/
lemma Balanced.ne_of_awaited (h : b.Balanced) {id x : Nat} (ha : id ∈ b.accepted)
    (hx : x ∈ b.awaited) : x ≠ id := by
  rintro rfl
  exact h.disjoint ha (h.awaited_emitted hx)

lemma Balanced.accept (h : b.Balanced) :
    Balanced { b with
      work := b.ledger.paths.length ::ₘ b.work
      accepted := b.ledger.paths.length ::ₘ b.accepted
      ledger := b.ledger.fresh.2 } :=
  { h with
    ledger := h.ledger.fresh
    balance := by simp [Multiset.cons_add, h.balance]
    nodup := by simpa [Multiset.cons_add] using h.nodup_fresh
    lt_length := by simpa only [Multiset.cons_add] using h.lt_length_fresh
    work_accepted := Multiset.cons_subset_cons h.work_accepted
    listening := fun id hid => h.listening_fresh hid }

lemma Balanced.answer (h : b.Balanced) {id : Nat} {work : Multiset Nat}
    (hw : b.work = id ::ₘ work) (r : Response) :
    Balanced { b with work, ledger := (b.ledger.respond id r).2 } := by
  have hid : id ∈ b.work := hw ▸ Multiset.mem_cons_self id work
  exact
    { h with
      ledger := h.ledger.respond (h.work_lt hid) r
      balance := by
        rw [← h.balance, hw, Ledger.ended_respond]
        simp [Multiset.cons_add, Multiset.add_cons]
      lt_length := by simpa using h.lt_length
      work_accepted := fun x hx => h.work_accepted (hw ▸ Multiset.mem_cons_of_mem hx)
      abandoned_emitted := fun _ hx => h.abandoned_respond hx
      listening := fun _ hx => h.listening_respond hx
      resolved := fun x hx => Ledger.ended_respond _ _ _ ▸ h.resolved_cons id hx }

lemma Balanced.emit (h : b.Balanced) :
    Balanced { b with
      goods := b.ledger.paths.length ::ₘ b.goods
      awaited := b.ledger.paths.length ::ₘ b.awaited
      emitted := b.ledger.paths.length ::ₘ b.emitted
      ledger := b.ledger.fresh.2 } :=
  { ledger := h.ledger.fresh
    balance := by simp [Multiset.cons_add, Multiset.add_cons, h.balance]
    nodup := by simpa [Multiset.add_cons] using h.nodup_fresh
    lt_length := by simpa only [Multiset.add_cons] using h.lt_length_fresh
    work_accepted := h.work_accepted
    goods_emitted := Multiset.cons_subset_cons h.goods_emitted
    abandoned_emitted := fun x hx => Multiset.mem_cons_of_mem (h.abandoned_emitted x hx)
    awaited_le := Multiset.cons_le_cons _ h.awaited_le
    listening := by
      intro x hx
      rcases Multiset.mem_cons.mp hx with rfl | hx
      · simp [Ledger.path_fresh_self]
      · exact h.listening_fresh hx
    resolved := by
      intro x hx
      rcases Multiset.mem_cons.mp hx with rfl | hx
      · exact .inl (Multiset.mem_cons_self _ _)
      · exact (h.resolved x hx).imp_left Multiset.mem_cons_of_mem }

lemma Balanced.resolve (h : b.Balanced) {id : Nat} {goods : Multiset Nat}
    (hg : b.goods = id ::ₘ goods) (r : Response) :
    Balanced { b with goods, ledger := (b.ledger.respond id r).2 } := by
  have hid : id ∈ b.goods := hg ▸ Multiset.mem_cons_self id goods
  exact
    { h with
      ledger := h.ledger.respond (h.goods_lt hid) r
      balance := by
        rw [← h.balance, hg, Ledger.ended_respond]
        simp [Multiset.cons_add, Multiset.add_cons]
      lt_length := by simpa using h.lt_length
      goods_emitted := fun x hx => h.goods_emitted (hg ▸ Multiset.mem_cons_of_mem hx)
      abandoned_emitted := fun _ hx => h.abandoned_respond hx
      listening := fun _ hx => h.listening_respond hx
      resolved := fun x hx => Ledger.ended_respond _ _ _ ▸ h.resolved_cons id hx }

lemma Balanced.drop (h : b.Balanced) {id : Nat} {goods : Multiset Nat}
    (hg : b.goods = id ::ₘ goods) :
    Balanced { b with goods, ledger := b.ledger.abandon id } := by
  have hid : id ∈ b.goods := hg ▸ Multiset.mem_cons_self id goods
  exact
    { h with
      ledger := h.ledger.abandon (h.goods_lt hid)
      balance := by
        rw [← h.balance, hg, Ledger.ended_abandon]
        simp [Multiset.cons_add, Multiset.add_cons]
      lt_length := by simpa using h.lt_length
      goods_emitted := fun x hx => h.goods_emitted (hg ▸ Multiset.mem_cons_of_mem hx)
      abandoned_emitted := by
        intro x hx
        rw [Ledger.settled_abandon] at hx
        rcases List.mem_append.mp hx with hx | hx
        · exact h.abandoned_emitted x hx
        · have : x = id := by simpa using hx
          exact this.symm ▸ h.goods_emitted hid
      listening := fun x hx => (Ledger.receiver_abandon _ _ _).trans (h.listening x hx)
      resolved := fun x hx => Ledger.ended_abandon _ _ ▸ h.resolved_cons id hx }

lemma Balanced.collect (h : b.Balanced) {id : Nat} {awaited : Multiset Nat}
    (ha : b.awaited = id ::ₘ awaited) (ended : id ∈ b.ledger.ended) :
    Balanced { b with awaited, ledger := (b.ledger.read id).2 } := by
  have distinct : (id ::ₘ awaited).Nodup :=
    Multiset.nodup_of_le (ha ▸ h.awaited_le) (Multiset.nodup_add.mp h.nodup).2.1
  exact
    { h with
      ledger := h.ledger.read id
      lt_length := by simpa using h.lt_length
      awaited_le := (Multiset.le_cons_self _ _).trans (ha ▸ h.awaited_le)
      listening := by
        intro x hx
        have hne : x ≠ id := fun heq => (Multiset.nodup_cons.mp distinct).1 (heq ▸ hx)
        rw [Ledger.path_read_of_ne hne]
        exact h.listening x (ha ▸ Multiset.mem_cons_of_mem hx)
      resolved := by
        intro x hx
        rcases h.resolved x hx with hx | hx
        · rcases Multiset.mem_cons.mp (ha ▸ hx) with rfl | hx
          · exact .inr ended
          · exact .inl hx
        · exact .inr hx }

lemma Balanced.look (h : b.Balanced) {id : Nat} (ha : id ∈ b.accepted) :
    Balanced { b with ledger := (b.ledger.read id).2 } :=
  { h with
    ledger := h.ledger.read id
    lt_length := by simpa using h.lt_length
    listening := by
      intro x hx
      rw [Ledger.path_read_of_ne (h.ne_of_awaited ha hx)]
      exact h.listening x hx }

lemma Balanced.release (h : b.Balanced) {id : Nat} (ha : id ∈ b.accepted) :
    Balanced { b with ledger := b.ledger.release id } :=
  { h with
    ledger := h.ledger.release id
    lt_length := by simpa using h.lt_length
    listening := by
      intro x hx
      rw [Ledger.path_release_of_ne (h.ne_of_awaited ha hx)]
      exact h.listening x hx }

lemma Balanced.step (h : b.Balanced) (hs : Step b b') : b'.Balanced := by
  cases hs with
  | accept => exact h.accept
  | answer id work hw r => exact h.answer hw r
  | emit => exact h.emit
  | resolve id goods hg r => exact h.resolve hg r
  | drop id goods hg => exact h.drop hg
  | collect id awaited ha ended => exact h.collect ha ended
  | @look id ha => exact h.look ha
  | @release id ha => exact h.release ha

/-- Whatever is entered, balanced books stay balanced. -/
lemma Balanced.steps (h : b.Balanced) (hs : Steps b b') : b'.Balanced := by
  induction hs with
  | refl => exact h
  | tail _ step ih => exact ih.step step

/-! ### What the balance says -/

/-- Everything accepted or emitted has a place, and only one. -/
lemma Balanced.nodup_places (h : b.Balanced) :
    (b.work + b.goods + b.ledger.ended).Nodup := h.balance ▸ h.nodup

/-- A transaction that was accepted either has to be answered still or was settled, not both, and
in both cases once. -/
lemma Balanced.count_eq_one (h : b.Balanced) {id : Nat} (hid : id ∈ b.accepted) :
    b.work.count id + b.ledger.ended.count id = 1 := by
  have total : (b.work + b.goods + b.ledger.ended).count id = 1 := by
    rw [h.balance]
    exact Multiset.count_eq_one_of_mem h.nodup (Multiset.mem_add.mpr (.inl hid))
  have goods : b.goods.count id = 0 :=
    Multiset.count_eq_zero.mpr fun hg => h.disjoint hid (h.goods_emitted hg)
  simp only [Multiset.count_add] at total
  omega

/-- No path comes to an end twice. -/
lemma Balanced.nodup_settled (h : b.Balanced) : (b.ledger.settled.map Prod.fst).Nodup :=
  (Multiset.nodup_add.mp h.nodup_places).2.1

/-- A path comes to an end in one way only. -/
lemma Balanced.ending_unique (h : b.Balanced) {id : Nat} {e e' : Ending}
    (he : (id, e) ∈ b.ledger.settled) (he' : (id, e') ∈ b.ledger.settled) : e = e' :=
  (Prod.mk.inj (List.inj_on_of_nodup_map h.nodup_settled he he' rfl)).2

/-- A transaction that was settled was answered: only results are ever abandoned. -/
lemma Balanced.answered (h : b.Balanced) {id : Nat} (hid : id ∈ b.accepted)
    (ended : id ∈ b.ledger.ended) : ∃ r, (id, .answered r) ∈ b.ledger.settled := by
  obtain ⟨e, he⟩ := Ledger.mem_ended.mp ended
  cases e with
  | answered r => exact ⟨r, he⟩
  | abandoned => exact absurd (h.abandoned_emitted id he) (h.disjoint hid)

lemma Balanced.nodup_accepted (h : b.Balanced) : b.accepted.Nodup :=
  (Multiset.nodup_add.mp h.nodup).1

lemma Balanced.nodup_emitted (h : b.Balanced) : b.emitted.Nodup :=
  (Multiset.nodup_add.mp h.nodup).2.1

/-- When there is no work left every transaction has been answered. -/
lemma Balanced.answered_of_work_eq_zero (h : b.Balanced) (nothing : b.work = 0) {id : Nat}
    (hid : id ∈ b.accepted) : ∃ r, (id, .answered r) ∈ b.ledger.settled := by
  have one := h.count_eq_one hid
  rw [nothing, Multiset.count_zero, Nat.zero_add] at one
  exact h.answered hid (Multiset.count_pos.mp (Nat.lt_of_lt_of_eq Nat.one_pos one.symm))

/-- A result that came to an end is no longer on its way. -/
lemma Balanced.notMem_goods (h : b.Balanced) {id : Nat} (ended : id ∈ b.ledger.ended) :
    id ∉ b.goods := fun hg =>
  Multiset.disjoint_left.mp (Multiset.nodup_add.mp h.nodup_places).2.2
    (Multiset.mem_add.mpr (.inr hg)) ended

/-- A transaction that came to an end needs no answer any more. -/
lemma Balanced.notMem_work (h : b.Balanced) {id : Nat} (ended : id ∈ b.ledger.ended) :
    id ∉ b.work := fun hw =>
  Multiset.disjoint_left.mp (Multiset.nodup_add.mp h.nodup_places).2.2
    (Multiset.mem_add.mpr (.inl hw)) ended

/-- A result that was emitted and has not come to an end is on its way. -/
lemma Balanced.mem_goods (h : b.Balanced) {id : Nat} (hid : id ∈ b.emitted)
    (ended : id ∉ b.ledger.ended) : id ∈ b.goods := by
  have : id ∈ b.work + b.goods + b.ledger.ended := by
    rw [h.balance]
    exact Multiset.mem_add.mpr (.inr hid)
  rcases Multiset.mem_add.mp this with hw | he
  · rcases Multiset.mem_add.mp hw with hw | hg
    · exact absurd hid (h.disjoint (h.work_accepted hw))
    · exact hg
  · exact absurd he ended

end Books

end Conveyor
