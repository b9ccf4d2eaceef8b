import Conveyor.Cache.Memory
import Mathlib.Tactic.Common

/-!
# What a memory cache holds

Which values a memory cache holds follows from the history of the calls to it. The deeds of a cache
are the compactions, the values written and the keys erased, in the order in which they took place
(`MemoryCache.deeds`). A value can be read as long as nothing was written under its key later, the
key was not erased, and no compaction took place when it had expired (`MemoryCache.Readable`). The
cache answers every call accordingly (`MemoryCache.answers_by_history`).
-/

namespace Conveyor.MemoryCache

/-! ### Calls -/

/-- A call to a cache, with the readings of the clock that it takes: when a value is written, and when
the cache is compacted. -/
inductive Call
  | get (key : String)
  | set (written now : Instant) (key : String) (value : Bytes)
  | setMulti (now : Instant) (values : List (Instant × String × Bytes))
  | add (written now : Instant) (key : String) (value : Bytes)
  | delete (now : Instant) (key : String)

/-- What comes of a call. -/
inductive Outcome
  | value (result : Except CacheError Bytes)
  | written (result : WriteResult)

def perform (c : MemoryCache) : Call → Outcome × MemoryCache
  | .get key => (.value (c.get key), c)
  | .set written now key value =>
    let (result, c) := c.setAt written now key value
    (.written result, c)
  | .setMulti now values =>
    let (result, c) := c.setMultiAt now values
    (.written result, c)
  | .add written now key value =>
    let (result, c) := c.addAt written now key value
    (.written result, c)
  | .delete now key => (.written .ok, c.delete now key)

/-- The calls to a cache with what came of each, and the cache after them. -/
def run (c : MemoryCache) : List Call → List (Call × Outcome) × MemoryCache
  | [] => ([], c)
  | call :: calls =>
    let (outcome, c) := c.perform call
    let (history, c) := c.run calls
    ((call, outcome) :: history, c)

namespace Call

/-- The reading of the clock that decides whether the call compacts the cache. -/
def asks : Call → Option Instant
  | .get _           => none
  | .set _ now _ _   => some now
  | .setMulti now _  => some now
  | .add _ now _ _   => some now
  | .delete now _    => some now

/-- The values that a call is to write. -/
def values : Call → List (Instant × String × Bytes)
  | .set written _ key value => [(written, key, value)]
  | .setMulti _ values       => values
  | .add written _ key value => [(written, key, value)]
  | _                        => []

/-- Whether all values of a call expire within the range of the clock. -/
def Fits (ttl : Nat) (call : Call) : Prop := ∀ x ∈ call.values, x.1 + ttl < clockBound

end Call

/-! ### Deeds -/

/-- What is done to a cache. -/
inductive Deed
  /-- The values that had expired were removed. -/
  | compacted (now : Instant)
  | wrote (written : Instant) (key : String) (value : Bytes)
  | erased (key : String)
deriving DecidableEq

/-- The instant of the last compaction, or that at which the cache was made. -/
def compactedLast (made : Instant) (deeds : List Deed) : Instant :=
  deeds.foldl (fun last deed => match deed with
    | .compacted now => now
    | _              => last) made

/-- The compaction that a call begins with, if at least the interval has passed since the last
one. -/
def due (interval : Nat) (last : Instant) (call : Call) : List Deed :=
  match call.asks with
  | some now => if interval ≤ now - last then [.compacted now] else []
  | none     => []

/-- What a call does besides, given what came of it. -/
def changes : Call × Outcome → List Deed
  | (.set written _ key value, _)            => [.wrote written key value]
  | (.setMulti _ values, _)                  => values.map fun x => .wrote x.1 x.2.1 x.2.2
  | (.add written _ key value, .written .ok) => [.wrote written key value]
  | (.delete _ key, _)                       => [.erased key]
  | _                                        => []

/-- What was done to a cache in a history of calls, the oldest deed first. -/
def deeds (interval : Nat) (made : Instant) (history : List (Call × Outcome)) : List Deed :=
  history.foldl (fun before entry =>
    before ++ due interval (compactedLast made before) entry.1 ++ changes entry) []

/-- Whether what was written under a key, to expire at some time, is still there after a deed. -/
def Deed.Spares (key : String) (expiry : Instant) : Deed → Prop
  | .compacted now    => now < expiry
  | .wrote _ other _  => other ≠ key
  | .erased other     => other ≠ key

/-- Whether an initial value under a key is still there after a deed. -/
def Deed.Keeps (key : String) : Deed → Prop
  | .compacted _      => True
  | .wrote _ other _  => other ≠ key
  | .erased other     => other ≠ key

/-- Whether a value was written under a key at some time, and all that was done later spared it. -/
def Survives (ttl : Nat) (deeds : List Deed) (key : String) (written : Instant) (value : Bytes) :
    Prop :=
  ∃ before after, deeds = before ++ .wrote written key value :: after ∧
    ∀ deed ∈ after, deed.Spares key (written + ttl)

/-- Whether an initial value was never written over or erased. -/
def Lasts (init : Dict String) (deeds : List Deed) (key : String) (value : Bytes) : Prop :=
  (∃ text, init.get? key = some text ∧ value = .ofString text) ∧ ∀ deed ∈ deeds, deed.Keeps key

/-- Whether a value can be read under a key. -/
def Readable (ttl : Nat) (init : Dict String) (deeds : List Deed) (key : String) (value : Bytes) :
    Prop :=
  (∃ written, Survives ttl deeds key written value) ∨ Lasts init deeds key value

variable {ttl interval : Nat} {made : Instant} {init : Dict String} {ds : List Deed} {d : Deed}
  {key : String} {written : Instant} {value : Bytes}

/-- What survives one more deed was written by it, or survived before and is spared. -/
lemma survives_concat : Survives ttl (ds ++ [d]) key written value ↔
    d = .wrote written key value ∨
      Survives ttl ds key written value ∧ d.Spares key (written + ttl) := by
  constructor
  · rintro ⟨before, after, hds, spared⟩
    rcases List.eq_nil_or_concat after with rfl | ⟨after, last, rfl⟩
    · obtain ⟨-, hd⟩ := List.append_inj' hds rfl
      exact .inl (List.singleton_inj.mp hd)
    · rw [List.concat_eq_append] at hds spared
      rw [← List.cons_append, ← List.append_assoc] at hds
      obtain ⟨rfl, hd⟩ := List.append_inj' hds rfl
      obtain rfl := List.singleton_inj.mp hd
      exact .inr ⟨⟨before, after, rfl, fun deed hdeed => spared deed (by simp [hdeed])⟩,
        spared d (by simp)⟩
  · rintro (rfl | ⟨⟨before, after, rfl, spared⟩, last⟩)
    · exact ⟨ds, [], rfl, nofun⟩
    · refine ⟨before, after ++ [d], by simp, fun deed hdeed => ?_⟩
      rcases List.mem_append.mp hdeed with hdeed | hdeed
      · exact spared deed hdeed
      · exact List.mem_singleton.mp hdeed ▸ last

lemma lasts_concat : Lasts init (ds ++ [d]) key value ↔
    Lasts init ds key value ∧ d.Keeps key := by
  simp [Lasts, or_imp, forall_and, and_assoc]

lemma deeds_concat (interval : Nat) (made : Instant) (history : List (Call × Outcome))
    (entry : Call × Outcome) :
    deeds interval made (history ++ [entry]) =
      deeds interval made history ++
        (due interval (compactedLast made (deeds interval made history)) entry.1 ++
          changes entry) := by
  simp [deeds]

/-! ### What deeds do -/

/-- The cache after a deed. -/
def apply (c : MemoryCache) : Deed → MemoryCache
  | .compacted now =>
    { c with
      items := c.items.filter fun _ item => item.expiresAt.all (now < ·)
      lastCompaction := now }
  | .wrote written key value =>
    { c with items := c.items.insert key { value, expiresAt := some (written + c.ttl) } }
  | .erased key => { c with items := c.items.erase key }

variable {c : MemoryCache}

lemma compact_eq {call : Call} (now : Instant) (h : call.asks = some now) :
    c.compact now = (due c.interval c.lastCompaction call).foldl apply c := by
  rw [due, h, compact]
  by_cases early : now - c.lastCompaction < c.interval
  · rw [if_pos early]
    simp [Nat.not_le.mpr early]
  · rw [if_neg early]
    simp [Nat.le_of_not_lt early, apply]

lemma ttl_compact (c : MemoryCache) (now : Instant) : (c.compact now).ttl = c.ttl := by
  unfold compact
  split <;> rfl

lemma item?_of_fits {c : MemoryCache} (h : written + c.ttl < clockBound) (value : Bytes) :
    c.item? written value = some { value, expiresAt := some (written + c.ttl) } :=
  if_pos h

lemma insertAll_of_fits {values : List (Instant × String × Bytes)}
    (h : ∀ x ∈ values, x.1 + c.ttl < clockBound) :
    c.insertAll values =
      (.ok, (values.map fun x => Deed.wrote x.1 x.2.1 x.2.2).foldl apply c) := by
  induction values generalizing c with
  | nil => rfl
  | cons x values ih =>
    obtain ⟨first, later⟩ := List.forall_mem_cons.mp h
    simp only [insertAll, item?_of_fits first]
    exact ih later

/-- A call does its deeds. -/
lemma perform_eq {call : Call} (h : call.Fits c.ttl) :
    (c.perform call).2 = (due c.interval c.lastCompaction call ++
      changes (call, (c.perform call).1)).foldl apply c := by
  rw [List.foldl_append]
  cases call with
  | get key => rfl
  | set written now key value =>
    have fits : written + c.ttl < clockBound := h _ (List.mem_singleton_self _)
    have ttl := c.ttl_compact now
    rw [← compact_eq now rfl]
    simp [perform, setAt, item?_of_fits fits, changes, apply, ttl]
  | setMulti now values =>
    have fits : ∀ x ∈ values, x.1 + (c.compact now).ttl < clockBound := c.ttl_compact now ▸ h
    rw [← compact_eq now rfl]
    simp [perform, setMultiAt, insertAll_of_fits fits, changes]
  | add written now key value =>
    have fits : written + c.ttl < clockBound := h _ (List.mem_singleton_self _)
    have ttl := c.ttl_compact now
    rw [← compact_eq now rfl]
    by_cases used : (c.compact now).items.contains key
    · simp [perform, addAt, item?_of_fits fits, changes, used]
    · simp [perform, addAt, item?_of_fits fits, changes, used, apply, ttl]
  | delete now key =>
    rw [← compact_eq now rfl]
    rfl

/-! ### Histories -/

variable {history : List (Call × Outcome)}

/-- Whether a cache holds what was written to it and has survived. -/
structure Follows (ttl interval : Nat) (init : Dict String) (made : Instant) (ds : List Deed)
    (c : MemoryCache) : Prop where
  lifetime : c.ttl = ttl
  pause : c.interval = interval
  last : c.lastCompaction = compactedLast made ds
  items : ∀ key item, c.items.get? key = some item ↔
    (∃ written, item.expiresAt = some (written + ttl) ∧
      Survives ttl ds key written item.value) ∨
    (item.expiresAt = none ∧ Lasts init ds key item.value)

lemma follows_new (config : MemoryCacheConfig) (made : Instant) :
    Follows config.ttl config.interval config.initValues made [] (new config made) := by
  refine ⟨rfl, rfl, rfl, fun key item => ?_⟩
  have nothing : ∀ written, ¬Survives config.ttl [] key written item.value := by
    rintro written ⟨before, after, hds, -⟩
    simp at hds
  have items : (new config made).items.get? key =
      (config.initValues.get? key).map fun text => { value := .ofString text } :=
    Dict.get?_ofList_map config.initValues
      (fun text => ({ value := .ofString text } : CachedItem)) key
  obtain ⟨value, expiresAt⟩ := item
  rw [items]
  simp only [nothing, and_false, exists_false, false_or, Lasts, List.not_mem_nil, false_implies,
    implies_true, and_true, Option.map_eq_some_iff, CachedItem.mk.injEq]
  constructor
  · rintro ⟨text, htext, rfl, rfl⟩
    exact ⟨rfl, text, htext, rfl⟩
  · rintro ⟨rfl, text, htext, rfl⟩
    exact ⟨text, htext, rfl, rfl⟩

/-- What a cache holds is kept by every deed. -/
lemma Follows.apply (h : Follows ttl interval init made ds c) (d : Deed) :
    Follows ttl interval init made (ds ++ [d]) (c.apply d) := by
  obtain ⟨lifetime, pause, last, items⟩ := h
  refine ⟨?_, ?_, ?_, fun key item => ?_⟩
  · cases d <;> exact lifetime
  · cases d <;> exact pause
  · cases d <;> simp [compactedLast, MemoryCache.apply, last]
  · simp only [survives_concat, lasts_concat]
    cases d with
    | compacted now =>
      simp only [MemoryCache.apply, Dict.get?_filter, Option.filter_eq_some_iff, items, Deed.Spares,
        Deed.Keeps, and_true, reduceCtorEq, false_or]
      constructor
      · rintro ⟨⟨written, expires, survives⟩ | initial, kept⟩
        · rw [expires, Option.all_some, decide_eq_true_eq] at kept
          exact .inl ⟨written, expires, survives, kept⟩
        · exact .inr initial
      · rintro (⟨written, expires, survives, kept⟩ | ⟨never, lasts⟩)
        · exact ⟨.inl ⟨written, expires, survives⟩, by simpa [expires] using kept⟩
        · exact ⟨.inr ⟨never, lasts⟩, by simp [never]⟩
    | wrote written other value =>
      simp only [MemoryCache.apply, Dict.get?_insert, Deed.Spares, Deed.Keeps, Deed.wrote.injEq,
        lifetime]
      by_cases hk : key = other
      · subst hk
        rw [if_pos rfl]
        constructor
        · rintro ⟨⟩
          exact .inl ⟨written, rfl, .inl ⟨rfl, rfl, rfl⟩⟩
        · rintro (⟨written', expires, ⟨rfl, -, rfl⟩ | ⟨-, other⟩⟩ | ⟨-, -, other⟩)
          · rw [← expires]
          · exact absurd rfl other
          · exact absurd rfl other
      · have apart : other ≠ key := Ne.symm hk
        simp [hk, apart, items]
    | erased other =>
      simp only [MemoryCache.apply, Dict.get?_erase, Deed.Spares, Deed.Keeps, reduceCtorEq, false_or]
      by_cases hk : key = other
      · simp [hk]
      · have apart : other ≠ key := Ne.symm hk
        simp [hk, apart, items]

lemma Follows.foldl (h : Follows ttl interval init made ds c) (new : List Deed) :
    Follows ttl interval init made (ds ++ new) (new.foldl MemoryCache.apply c) := by
  induction new generalizing ds c with
  | nil => exact (List.append_nil ds).symm ▸ h
  | cons d new ih =>
    rw [List.append_cons]
    exact ih (h.apply d)

/-- A call adds its deeds to those that were done. -/
lemma Follows.perform (h : Follows ttl interval init made (deeds interval made history) c) {call : Call}
    (fits : call.Fits ttl) :
    Follows ttl interval init made (deeds interval made (history ++ [(call, (c.perform call).1)]))
      (c.perform call).2 := by
  rw [deeds_concat, perform_eq (h.lifetime ▸ fits), h.pause, h.last]
  exact h.foldl _

lemma Follows.run (h : Follows ttl interval init made (deeds interval made history) c)
    {calls : List Call} (fits : ∀ call ∈ calls, call.Fits ttl) :
    Follows ttl interval init made (deeds interval made (history ++ (c.run calls).1))
      (c.run calls).2 := by
  induction calls generalizing history c with
  | nil => exact (List.append_nil history).symm ▸ h
  | cons call calls ih =>
    obtain ⟨first, later⟩ := List.forall_mem_cons.mp fits
    have rest := ih (h.perform first) later
    rw [List.append_assoc] at rest
    exact rest

/-! ### Readings -/

lemma Follows.get (h : Follows ttl interval init made ds c) :
    c.get key = .ok value ↔ Readable ttl init ds key value := by
  have found : c.get key = .ok value ↔ ∃ item, c.items.get? key = some item ∧ item.value = value := by
    unfold MemoryCache.get
    cases c.items.get? key <;> simp
  rw [found]
  constructor
  · rintro ⟨item, hitem, rfl⟩
    exact ((h.items key item).mp hitem).imp (fun ⟨written, _, survives⟩ => ⟨written, survives⟩)
      And.right
  · rintro (⟨written, survives⟩ | lasts)
    · exact ⟨⟨value, some (written + ttl)⟩,
        (h.items _ _).mpr (.inl ⟨written, rfl, survives⟩), rfl⟩
    · exact ⟨⟨value, none⟩, (h.items _ _).mpr (.inr ⟨rfl, lasts⟩), rfl⟩

lemma Follows.get_of_none (h : Follows ttl interval init made ds c)
    (none : ∀ value, ¬Readable ttl init ds key value) : c.get key = .error .keyNotFound := by
  have missing : ∀ value, c.get key ≠ .ok value := fun value hget => none value (h.get.mp hget)
  unfold MemoryCache.get at missing ⊢
  cases hitem : c.items.get? key with
  | none => rfl
  | some item => simp [hitem] at missing

lemma contains_eq_false_iff : c.items.contains key = false ↔ ∀ value, c.get key ≠ .ok value := by
  unfold Dict.contains MemoryCache.get
  cases c.items.get? key <;> simp

/-- A cache holds what survives the compaction that is due in a call. -/
lemma Follows.compact (h : Follows ttl interval init made ds c) (call : Call) {now : Instant}
    (asks : call.asks = some now) :
    Follows ttl interval init made (ds ++ due interval (compactedLast made ds) call)
      (c.compact now) := by
  rw [compact_eq now asks, h.pause, h.last]
  exact h.foldl _

/-- What a call writes survives it, as it uses no key twice. -/
lemma survives_changes {call : Call} {outcome : Outcome}
    (distinct : (call.values.map fun x => x.2.1).Nodup)
    (h : .wrote written key value ∈ changes (call, outcome)) :
    Survives ttl (ds ++ changes (call, outcome)) key written value := by
  have whole : changes (call, outcome) = call.values.map fun x => .wrote x.1 x.2.1 x.2.2 := by
    cases call with
    | get => cases h
    | set => rfl
    | setMulti => rfl
    | add =>
      match outcome, h with
      | .written .ok, _ => rfl
    | delete => simp [changes] at h
  rw [whole] at h ⊢
  obtain ⟨x, hx, hwrote⟩ := List.mem_map.mp h
  obtain ⟨rfl, rfl, rfl⟩ := Deed.wrote.inj hwrote
  obtain ⟨before, after, hvalues⟩ := List.append_of_mem hx
  rw [hvalues, List.map_append, List.map_cons] at distinct
  obtain ⟨absent, -⟩ := List.nodup_cons.mp (List.nodup_append.mp distinct).2.1
  refine ⟨ds ++ before.map (fun x => .wrote x.1 x.2.1 x.2.2), after.map fun x => .wrote x.1 x.2.1 x.2.2,
    by simp [hvalues], fun deed hdeed => ?_⟩
  obtain ⟨y, hy, rfl⟩ := List.mem_map.mp hdeed
  exact fun same => absent (same ▸ List.mem_map_of_mem hy)

/-! ### The result -/

/-- How a cache answers, given what was done to it. -/
structure Answers (config : MemoryCacheConfig) (made : Instant) (ds : List Deed) (c : MemoryCache) :
    Prop where
  get : ∀ key value, c.get key = .ok value ↔ Readable config.ttl config.initValues ds key value
  missing : ∀ key, (∀ value, ¬Readable config.ttl config.initValues ds key value) →
    c.get key = .error .keyNotFound
  /-- A value is added if none can be read after the compaction that is due. -/
  add : ∀ written now key value, written + config.ttl < clockBound →
    ((c.addAt written now key value).1 = .ok ↔
      ∀ old, ¬Readable config.ttl config.initValues
        (ds ++ due config.interval (compactedLast made ds) (.add written now key value)) key old)
  /-- A value that is not added changes nothing but what that compaction does. -/
  refused : ∀ written now key value, written + config.ttl < clockBound →
    (c.addAt written now key value).1 ≠ .ok →
    c.addAt written now key value = (.failed .keyAlreadyExists, c.compact now) ∧
      ∀ key' value', (c.compact now).get key' = .ok value' ↔
        Readable config.ttl config.initValues
          (ds ++ due config.interval (compactedLast made ds) (.add written now key value)) key' value'
  /-- All other write operations succeed. -/
  set : ∀ written now key value, written + config.ttl < clockBound →
    (c.setAt written now key value).1 = .ok
  setMulti : ∀ now values, (∀ x ∈ values, x.1 + config.ttl < clockBound) →
    (c.setMultiAt now values).1 = .ok
  /-- Whatever a call has just written can be read. -/
  written : ∀ call, call.Fits config.ttl → (call.values.map fun x => x.2.1).Nodup →
    ∀ written key value, .wrote written key value ∈ changes (call, (c.perform call).1) →
      (c.perform call).2.get key = .ok value

lemma addAt_of_fits (h : written + c.ttl < clockBound) (now : Instant) :
    c.addAt written now key value =
      if (c.compact now).items.contains key then (.failed .keyAlreadyExists, c.compact now)
      else (.ok, (c.compact now).apply (.wrote written key value)) := by
  simp only [addAt, item?_of_fits h, MemoryCache.apply, ttl_compact]

lemma Follows.answers {config : MemoryCacheConfig}
    (h : Follows config.ttl config.interval config.initValues made ds c) :
    Answers config made ds c where
  get := fun key value => h.get
  missing := fun key none => h.get_of_none none
  add := fun written now key value fits => by
    have compacted := h.compact (.add written now key value) rfl
    rw [addAt_of_fits (h.lifetime ▸ fits)]
    simp only [← compacted.get]
    rw [← contains_eq_false_iff]
    cases (c.compact now).items.contains key <;> simp
  refused := fun written now key value fits refused => by
    have compacted := h.compact (.add written now key value) rfl
    rw [addAt_of_fits (h.lifetime ▸ fits)] at refused ⊢
    refine ⟨?_, fun key' value' => compacted.get⟩
    by_cases used : (c.compact now).items.contains key
    · rw [if_pos used]
    · rw [if_neg used] at refused
      exact absurd rfl refused
  set := fun written now key value fits => by
    simp [setAt, item?_of_fits (h.lifetime ▸ fits : written + c.ttl < clockBound)]
  setMulti := fun now values fits => by
    have fits : ∀ x ∈ values, x.1 + (c.compact now).ttl < clockBound := by
      rw [ttl_compact, h.lifetime]
      exact fits
    rw [setMultiAt, insertAll_of_fits fits]
  written := fun call fits distinct written key value wrote => by
    have after := h.foldl (due config.interval (compactedLast made ds) call ++
      changes (call, (c.perform call).1))
    rw [← h.pause, ← h.last, ← perform_eq (h.lifetime ▸ fits), ← List.append_assoc] at after
    exact after.get.mpr (.inl ⟨written, survives_changes distinct wrote⟩)

/-- After any calls whose values expire within the range of the clock, a cache answers as the history
of these calls tells, and so does each further call. -/
theorem answers_by_history (config : MemoryCacheConfig) (made : Instant) {calls : List Call}
    (fits : ∀ call ∈ calls, call.Fits config.ttl) :
    Answers config made (deeds config.interval made ((new config made).run calls).1)
      ((new config made).run calls).2 := by
  have start : Follows config.ttl config.interval config.initValues made
      (deeds config.interval made []) (new config made) := follows_new config made
  have followed := start.run fits
  exact followed.answers

/-- A cache in which every write expires at once, and is removed by the next one. -/
def shortLived : MemoryCacheConfig where
  ttlSeconds := 0
  compactionIntervalSeconds := 0
  initValues := .ofList [("a", "first")]

/-- An initial value is written over, and is then gone when another key is added. -/
def overwriting : List Call := [.set 5 6 "a" [1], .get "a", .add 6 7 "b" [2]]

theorem answers_by_history_shortLived :
    (∀ call ∈ overwriting, call.Fits shortLived.ttl) ∧
      Answers shortLived 4 [.compacted 6, .wrote 5 "a" [1], .compacted 7, .wrote 6 "b" [2]]
        ((new shortLived 4).run overwriting).2 ∧
      ((new shortLived 4).run overwriting).2.get "a" = .error .keyNotFound ∧
      ((new shortLived 4).run overwriting).2.get "b" = .ok [2] := by
  have fits : ∀ call ∈ overwriting, call.Fits shortLived.ttl := by
    unfold Call.Fits
    decide +kernel
  have told : deeds shortLived.interval 4 ((new shortLived 4).run overwriting).1 =
      [.compacted 6, .wrote 5 "a" [1], .compacted 7, .wrote 6 "b" [2]] := by
    decide +kernel
  have answers := answers_by_history shortLived 4 fits
  rw [told] at answers
  refine ⟨fits, answers, ?_, ?_⟩
  · decide +kernel
  · decide +kernel

end Conveyor.MemoryCache
