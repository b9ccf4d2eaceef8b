import Conveyor.Processor
import Mathlib.Tactic.Common

/-!
# The ledger and its log

The log of a ledger tells which response paths came to an end, in which order and how. Nothing is
ever taken out of it. As long as nobody responds on a path that was not given out, the log and the
paths agree (`Ledger.Sound`): a receiver that still listens reads what the log says.
-/

namespace Conveyor

/-- What the end of a path counts as when results are reduced. -/
def Ending.failure? : Ending → Option Failure
  | .answered response => response.failure?
  | .abandoned         => some .abandoned

lemma Ending.eq_ack_of_failure? {e : Ending} (h : e.failure? = none) : e = .answered .ack := by
  match e, h with
  | .answered .ack, _ => rfl

namespace Ledger

/-! ### Single paths -/

@[simp] lemma fst_fresh (l : Ledger) : l.fresh.1 = l.paths.length := rfl

@[simp] lemma settled_fresh (l : Ledger) : l.fresh.2.settled = l.settled := rfl

@[simp] lemma length_fresh (l : Ledger) : l.fresh.2.paths.length = l.paths.length + 1 := by
  simp [fresh]

@[simp] lemma settled_respond (l : Ledger) (id : Nat) (r : Response) :
    (l.respond id r).2.settled = l.settled ++ [(id, .answered r)] := rfl

@[simp] lemma length_respond (l : Ledger) (id : Nat) (r : Response) :
    (l.respond id r).2.paths.length = l.paths.length := by
  simp [respond, update]

@[simp] lemma settled_abandon (l : Ledger) (id : Nat) :
    (l.abandon id).settled = l.settled ++ [(id, .abandoned)] := rfl

@[simp] lemma length_abandon (l : Ledger) (id : Nat) :
    (l.abandon id).paths.length = l.paths.length := by
  simp [abandon, update]

@[simp] lemma settled_read (l : Ledger) (id : Nat) : (l.read id).2.settled = l.settled := rfl

@[simp] lemma length_read (l : Ledger) (id : Nat) :
    (l.read id).2.paths.length = l.paths.length := by
  simp [read, update]

@[simp] lemma settled_release (l : Ledger) (id : Nat) : (l.release id).settled = l.settled := rfl

@[simp] lemma length_release (l : Ledger) (id : Nat) :
    (l.release id).paths.length = l.paths.length := by
  simp [release, update]

lemma path_fresh_self (l : Ledger) : l.fresh.2.path l.paths.length = {} := by
  simp [path, fresh]

lemma path_fresh_of_lt {l : Ledger} {id : Nat} (h : id < l.paths.length) :
    l.fresh.2.path id = l.path id := by
  simp [path, fresh, List.getElem?_append_left h]

lemma path_update (l : Ledger) (id : Nat) (change : ResponsePath → ResponsePath) :
    (l.update id change).path id =
      if id < l.paths.length then change (l.path id) else l.path id := by
  by_cases h : id < l.paths.length
  · simp [path, update, h]
  · simp [path, update, h]

lemma path_update_of_ne {id other : Nat} (h : other ≠ id) (l : Ledger)
    (change : ResponsePath → ResponsePath) : (l.update id change).path other = l.path other := by
  simp [path, update, h.symm]

lemma path_respond_of_ne {id other : Nat} (h : other ≠ id) (l : Ledger) (r : Response) :
    (l.respond id r).2.path other = l.path other := path_update_of_ne h l _

lemma path_abandon_of_ne {id other : Nat} (h : other ≠ id) (l : Ledger) :
    (l.abandon id).path other = l.path other := path_update_of_ne h l _

lemma path_read_of_ne {id other : Nat} (h : other ≠ id) (l : Ledger) :
    (l.read id).2.path other = l.path other := path_update_of_ne h l _

lemma path_release_of_ne {id other : Nat} (h : other ≠ id) (l : Ledger) :
    (l.release id).path other = l.path other := path_update_of_ne h l _

lemma receiver_respond (l : Ledger) (id other : Nat) (r : Response) :
    ((l.respond id r).2.path other).receiver = (l.path other).receiver := by
  by_cases hid : other = id
  · change ((l.update id _).path other).receiver = _
    rw [hid, path_update]
    split
    · by_cases hg : (l.path id).isClosed <;> simp [ResponsePath.respond, hg]
    · rfl
  · rw [path_respond_of_ne hid]

lemma receiver_abandon (l : Ledger) (id other : Nat) :
    ((l.abandon id).path other).receiver = (l.path other).receiver := by
  by_cases hid : other = id
  · change ((l.update id _).path other).receiver = _
    rw [hid, path_update]
    split <;> rfl
  · rw [path_abandon_of_ne hid]

lemma sender_update (l : Ledger) (id other : Nat) {change : ResponsePath → ResponsePath}
    (same : ∀ p, (change p).sender = p.sender) :
    ((l.update id change).path other).sender = (l.path other).sender := by
  by_cases hid : other = id
  · rw [hid, path_update]
    split
    · exact same _
    · rfl
  · rw [path_update_of_ne hid]

lemma sender_tryReceive (p : ResponsePath) : p.tryReceive.2.sender = p.sender := by
  unfold ResponsePath.tryReceive
  split <;> rfl

lemma sender_read (l : Ledger) (id other : Nat) :
    ((l.read id).2.path other).sender = (l.path other).sender :=
  sender_update l id other sender_tryReceive

lemma sender_release (l : Ledger) (id other : Nat) :
    ((l.release id).path other).sender = (l.path other).sender :=
  sender_update l id other fun _ => rfl

/-! ### Dropped transactions -/

lemma sender_of_length_le {l : Ledger} {id : Nat} (h : l.paths.length ≤ id) :
    (l.path id).sender = .dropped := by
  simp [path, List.getElem?_eq_none h]

lemma sender_abandon_self (l : Ledger) (id : Nat) : ((l.abandon id).path id).sender = .dropped := by
  change ((l.update id _).path id).sender = _
  rw [path_update]
  split
  · rfl
  next h => exact sender_of_length_le (Nat.not_lt.mp h)

lemma sender_abandon_of_dropped {l : Ledger} {id other : Nat}
    (h : (l.path other).sender = .dropped) : ((l.abandon id).path other).sender = .dropped := by
  by_cases hid : other = id
  · rw [hid]
    exact sender_abandon_self l id
  · rwa [path_abandon_of_ne hid]

@[simp] lemma length_abandonAll (l : Ledger) (ts : List Transaction) :
    (l.abandonAll ts).paths.length = l.paths.length := by
  induction ts generalizing l with
  | nil => rfl
  | cons t ts ih => exact (ih _).trans (length_abandon l t.reply)

lemma settled_abandonAll (l : Ledger) (ts : List Transaction) :
    (l.abandonAll ts).settled = l.settled ++ ts.map fun t => (t.reply, .abandoned) := by
  induction ts generalizing l with
  | nil => simp [abandonAll]
  | cons t ts ih => exact (ih _).trans (by simp)

lemma sender_abandonAll_of_dropped {l : Ledger} {id : Nat} (ts : List Transaction)
    (h : (l.path id).sender = .dropped) : ((l.abandonAll ts).path id).sender = .dropped := by
  induction ts generalizing l with
  | nil => exact h
  | cons t ts ih => exact ih (sender_abandon_of_dropped h)

lemma sender_abandonAll_of_mem (l : Ledger) {ts : List Transaction} {t : Transaction}
    (ht : t ∈ ts) : ((l.abandonAll ts).path t.reply).sender = .dropped := by
  induction ts generalizing l with
  | nil => cases ht
  | cons t' ts ih =>
    rcases List.mem_cons.mp ht with rfl | ht
    · exact sender_abandonAll_of_dropped ts (sender_abandon_self l t.reply)
    · exact ih _ ht

/-- Whoever waits for an answer that nobody can give any more sees that there is none. -/
lemma read_of_dropped {l : Ledger} {id : Nat} (h : (l.path id).sender = .dropped) :
    (l.read id).1 = .abandoned := by
  simp only [read, ResponsePath.tryReceive, h]
  split <;> simp_all

lemma read_abandonAll (l : Ledger) {ts : List Transaction} {t : Transaction} (ht : t ∈ ts) :
    ((l.abandonAll ts).read t.reply).1 = .abandoned :=
  read_of_dropped (sender_abandonAll_of_mem l ht)

/-! ### Agreement of the log and the paths -/

/-- The log mentions only paths that were given out, and the ends of these paths agree with it. -/
structure Sound (l : Ledger) : Prop where
  lt_length : ∀ e ∈ l.settled, e.1 < l.paths.length
  unsettled : ∀ id, (l.path id).sender = .held → ∀ e ∈ l.settled, e.1 ≠ id
  answered : ∀ id r, (l.path id).sender = .sent r → (id, .answered r) ∈ l.settled
  abandoned : ∀ id < l.paths.length, (l.path id).sender = .dropped →
    (l.path id).receiver ≠ .gone → (id, .abandoned) ∈ l.settled

lemma path_mem {l : Ledger} {id : Nat} (h : id < l.paths.length) : l.path id ∈ l.paths := by
  simp [path, h]

/-- Nothing has come to an end yet. -/
lemma Sound.of_held {l : Ledger} (hs : l.settled = [])
    (hp : ∀ path ∈ l.paths, path.sender = .held) : l.Sound where
  lt_length := by simp [hs]
  unsettled := by simp [hs]
  answered := by
    intro id r h
    by_cases hid : id < l.paths.length
    · rw [hp _ (path_mem hid)] at h
      cases h
    · rw [sender_of_length_le (Nat.not_lt.mp hid)] at h
      cases h
  abandoned := by
    intro id hid h
    rw [hp _ (path_mem hid)] at h
    cases h

lemma Sound.fresh {l : Ledger} (h : l.Sound) : l.fresh.2.Sound := by
  have old : ∀ id, id ≠ l.paths.length → id < l.fresh.2.paths.length → id < l.paths.length := by
    intro id hne hlt
    simp only [length_fresh] at hlt
    omega
  have beyond : ∀ id, (l.fresh.2.path id).sender ≠ .dropped → id < l.fresh.2.paths.length := by
    intro id hs
    by_contra hlt
    exact hs (sender_of_length_le (Nat.not_lt.mp hlt))
  constructor
  · intro e he
    have := h.lt_length e he
    simp only [length_fresh]
    omega
  · intro id hs e he
    by_cases hid : id = l.paths.length
    · exact hid ▸ Nat.ne_of_lt (h.lt_length e he)
    · have hlt := old id hid (beyond id (by simp [hs]))
      rw [path_fresh_of_lt hlt] at hs
      exact h.unsettled id hs e he
  · intro id r hs
    by_cases hid : id = l.paths.length
    · rw [hid, path_fresh_self] at hs
      cases hs
    · have hlt := old id hid (beyond id (by simp [hs]))
      rw [path_fresh_of_lt hlt] at hs
      exact h.answered id r hs
  · intro id hlt hs hr
    by_cases hid : id = l.paths.length
    · rw [hid, path_fresh_self] at hs
      cases hs
    · have hlt := old id hid hlt
      rw [path_fresh_of_lt hlt] at hs hr
      exact h.abandoned id hlt hs hr

/-- A path that was given out comes to an end, and the log gets the same end. -/
lemma Sound.settle {l : Ledger} (h : l.Sound) {id : Nat} (hlt : id < l.paths.length)
    {e : Ending} {change : ResponsePath → ResponsePath}
    (held : (change (l.path id)).sender ≠ .held)
    (answered : ∀ r, (change (l.path id)).sender = .sent r → e = .answered r)
    (abandoned : (change (l.path id)).sender = .dropped →
      (change (l.path id)).receiver ≠ .gone → e = .abandoned) :
    { l.update id change with settled := l.settled ++ [(id, e)] }.Sound := by
  have self : (l.update id change).path id = change (l.path id) := by
    rw [path_update, if_pos hlt]
  have length : (l.update id change).paths.length = l.paths.length := by simp [update]
  constructor
  · intro x hx
    rcases List.mem_append.mp hx with hx | hx
    · exact length ▸ h.lt_length x hx
    · rw [List.mem_singleton.mp hx]
      exact length ▸ hlt
  · intro other hs x hx
    change ((l.update id change).path other).sender = _ at hs
    by_cases hid : other = id
    · rw [hid, self] at hs
      exact absurd hs held
    · rw [path_update_of_ne hid] at hs
      rcases List.mem_append.mp hx with hx | hx
      · exact h.unsettled other hs x hx
      · rw [List.mem_singleton.mp hx]
        exact fun heq => hid heq.symm
  · intro other r hs
    change ((l.update id change).path other).sender = _ at hs
    refine List.mem_append.mpr ?_
    by_cases hid : other = id
    · rw [hid, self] at hs
      simp [hid, answered r hs]
    · rw [path_update_of_ne hid] at hs
      exact .inl (h.answered other r hs)
  · intro other hlt' hs hr
    change ((l.update id change).path other).sender = _ at hs
    change ((l.update id change).path other).receiver ≠ _ at hr
    refine List.mem_append.mpr ?_
    by_cases hid : other = id
    · rw [hid, self] at hs hr
      simp [hid, abandoned hs hr]
    · rw [path_update_of_ne hid] at hs hr
      exact .inl (h.abandoned other (length ▸ hlt') hs hr)

lemma Sound.respond {l : Ledger} (h : l.Sound) {id : Nat} (hlt : id < l.paths.length)
    (r : Response) : (l.respond id r).2.Sound := by
  by_cases hg : (l.path id).receiver = .gone
  · apply h.settle hlt <;> simp [ResponsePath.respond, ResponsePath.isClosed, hg]
  · apply h.settle hlt <;> simp [ResponsePath.respond, ResponsePath.isClosed, hg]

lemma Sound.abandon {l : Ledger} (h : l.Sound) {id : Nat} (hlt : id < l.paths.length) :
    (l.abandon id).Sound := by
  apply h.settle hlt <;> simp [ResponsePath.abandon]

lemma Sound.abandonAll {l : Ledger} (h : l.Sound) {ts : List Transaction}
    (hlt : ∀ t ∈ ts, t.reply < l.paths.length) : (l.abandonAll ts).Sound := by
  induction ts generalizing l with
  | nil => exact h
  | cons t ts ih =>
    refine ih (h.abandon (hlt t List.mem_cons_self)) fun u hu => ?_
    rw [length_abandon]
    exact hlt u (List.mem_cons_of_mem t hu)

/-- A change at the receiving ends does not touch the agreement, unless a receiver that had gone
away comes back. -/
lemma Sound.update_receiver {l : Ledger} (h : l.Sound) (id : Nat)
    {change : ResponsePath → ResponsePath} (sender : ∀ p, (change p).sender = p.sender)
    (gone : ∀ p, (change p).receiver ≠ .gone → p.receiver ≠ .gone) :
    (l.update id change).Sound := by
  have same : ∀ other, ((l.update id change).path other).sender = (l.path other).sender := by
    intro other
    by_cases hid : other = id
    · rw [hid, path_update]
      split
      · exact sender _
      · rfl
    · rw [path_update_of_ne hid]
  have length : (l.update id change).paths.length = l.paths.length := by simp [update]
  constructor
  · exact fun e he => length ▸ h.lt_length e he
  · exact fun other hs => h.unsettled other (same other ▸ hs)
  · exact fun other r hs => h.answered other r (same other ▸ hs)
  · intro other hlt hs hr
    refine h.abandoned other (length ▸ hlt) (same other ▸ hs) ?_
    by_cases hid : other = id
    · rw [hid, path_update] at hr
      rw [hid]
      split at hr
      · exact gone _ hr
      · exact hr
    · rwa [path_update_of_ne hid] at hr

lemma Sound.read {l : Ledger} (h : l.Sound) (id : Nat) : (l.read id).2.Sound := by
  refine h.update_receiver id sender_tryReceive fun p hp hgone => hp ?_
  simp [ResponsePath.tryReceive, hgone]

lemma Sound.release {l : Ledger} (h : l.Sound) (id : Nat) : (l.release id).Sound :=
  h.update_receiver id (fun _ => rfl) (by simp [ResponsePath.release])

/-- What a receiver that still listens reads: nothing as long as the log does not mention its path,
and later the end that is in the log. -/
lemma Sound.read_cases {l : Ledger} (h : l.Sound) {id : Nat} (hlt : id < l.paths.length)
    (hr : (l.path id).receiver = .listening) :
    ((l.read id).1 = .pending ∧ ∀ e ∈ l.settled, e.1 ≠ id) ∨
      ((l.read id).1 ≠ .pending ∧
        ∃ e, (id, e) ∈ l.settled ∧ (l.read id).1.failure? = e.failure?) := by
  cases hs : (l.path id).sender with
  | held =>
    left
    exact ⟨by simp [Ledger.read, ResponsePath.tryReceive, hr, hs], h.unsettled id hs⟩
  | sent r =>
    have reading : (l.read id).1 = .answered r := by
      simp [Ledger.read, ResponsePath.tryReceive, hr, hs]
    right
    exact ⟨by simp [reading], .answered r, h.answered id r hs, by rw [reading]; rfl⟩
  | dropped =>
    have reading : (l.read id).1 = .abandoned := by
      simp [Ledger.read, ResponsePath.tryReceive, hr, hs]
    right
    exact ⟨by simp [reading], .abandoned, h.abandoned id hlt hs (by simp [hr]), by
      rw [reading]; rfl⟩

lemma Sound.settled_of_read {l : Ledger} (h : l.Sound) {id : Nat} {r : Response}
    (hr : (l.read id).1 = .answered r) : (id, .answered r) ∈ l.settled := by
  refine h.answered id r ?_
  simp only [Ledger.read, ResponsePath.tryReceive] at hr
  split at hr <;> cases hr
  assumption

/-! ### The first of several paths to have come to an end -/

lemma split_of_firstSettled {l : Ledger} {ids : List Nat} {id : Nat}
    (h : l.firstSettled ids = some id) : ∃ before e after, l.settled = before ++ (id, e) :: after ∧
      id ∈ ids ∧ ∀ entry ∈ before, entry.1 ∉ ids := by
  obtain ⟨⟨_, e⟩, found, rfl⟩ := Option.map_eq_some_iff.mp h
  obtain ⟨hid, before, after, split, others⟩ := List.find?_eq_some_iff_append.mp found
  exact ⟨before, e, after, split, by simpa using hid, by simpa using others⟩

lemma mem_of_firstSettled {l : Ledger} {ids : List Nat} {id : Nat}
    (h : l.firstSettled ids = some id) : id ∈ ids ∧ ∃ e, (id, e) ∈ l.settled := by
  obtain ⟨before, e, after, split, hid, -⟩ := split_of_firstSettled h
  exact ⟨hid, e, split ▸ List.mem_append_right before List.mem_cons_self⟩

lemma firstSettled_eq_none {l : Ledger} {ids : List Nat} (h : l.firstSettled ids = none) :
    ∀ e ∈ l.settled, e.1 ∉ ids := by
  intro e he
  simpa using List.find?_eq_none.mp (Option.map_eq_none_iff.mp h) e he

end Ledger

end Conveyor
