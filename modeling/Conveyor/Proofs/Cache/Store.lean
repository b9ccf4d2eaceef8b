import Conveyor.Proofs.Cache.Memory
import Conveyor.Proofs.Dict
import Mathlib.Logic.Function.Basic

/-!
# Caches as maps from keys to values

What any cache is to do: it keeps a value for some of the keys (`Store`), and each operation answers
from these values and changes them (`Store.perform`). A memory cache does this as long as no value
that it holds has expired when it is compacted (`MemoryCache.perform_of_alike`).
-/

namespace Conveyor

/-! ### Operations -/

/-- An operation on a cache. Several values are set in the order in which they are visited. -/
inductive Cache.Operation
  | get (key : String)
  | set (key : String) (value : Bytes)
  | setMulti (items : List (String × Bytes))
  | add (key : String) (value : Bytes)
  | delete (key : String)

/-- The keys that an operation uses. -/
def Cache.Operation.keys : Operation → List String
  | .get key        => [key]
  | .set key _      => [key]
  | .setMulti items => items.map Prod.fst
  | .add key _      => [key]
  | .delete key     => [key]

/-- The values that a cache keeps. -/
abbrev Cache.Store := String → Option Bytes

namespace Cache.Store

open MemoryCache (Outcome)

def get (s : Store) (key : String) : Except CacheError Bytes :=
  match s key with
  | some value => .ok value
  | none       => .error .keyNotFound

def put (s : Store) (key : String) (value : Bytes) : Store := Function.update s key (some value)

def putAll (s : Store) (items : List (String × Bytes)) : Store :=
  items.foldl (fun s e => s.put e.1 e.2) s

def erase (s : Store) (key : String) : Store := Function.update s key none

/-- What comes of an operation, and the values that are kept after it. -/
def perform (s : Store) : Operation → Outcome × Store
  | .get key        => (.value (s.get key), s)
  | .set key value  => (.written .ok, s.put key value)
  | .setMulti items => (.written .ok, s.putAll items)
  | .add key value  =>
    if (s key).isSome then (.written (.failed .keyAlreadyExists), s)
    else (.written .ok, s.put key value)
  | .delete key => (.written .ok, s.erase key)

/-- What comes of operations, and the values that are kept after them. -/
def run (s : Store) : List Operation → List Outcome × Store
  | [] => ([], s)
  | op :: ops =>
    let (outcome, s) := s.perform op
    let (outcomes, s) := run s ops
    (outcome :: outcomes, s)

variable {s : Store} {items items' : List (String × Bytes)}

/-- With different keys it does not matter in which order values are put in. -/
lemma putAll_of_perm (h : items.Perm items') (distinct : (items.map Prod.fst).Nodup) :
    s.putAll items = s.putAll items' := by
  apply h.foldl_eq'
  intro a ha b hb s
  by_cases same : a.1 = b.1
  · rw [List.inj_on_of_nodup_map distinct ha hb same]
  · exact Function.update_comm same ..

end Cache.Store

/-! ### Memory caches -/

namespace MemoryCache

open Cache (Store Operation)

/-- The values that a memory cache keeps. -/
def contents (c : MemoryCache) : Store := fun key => (c.items.get? key).map CachedItem.value

/-- Whether nothing has expired that a compaction at this time would look at, if it is due. -/
def Unexpired (c : MemoryCache) (now : Instant) : Prop :=
  c.interval ≤ now - c.lastCompaction → ∀ e ∈ c.items.toList, e.2.expiresAt.all (now < ·)

instance (c : MemoryCache) (now : Instant) : Decidable (c.Unexpired now) :=
  inferInstanceAs (Decidable (_ → _))

/-- Whether no item has expired at any compaction in the course of these calls. -/
def NoneExpired (c : MemoryCache) : List Call → Prop
  | []            => True
  | call :: calls => (∀ now ∈ call.asks, c.Unexpired now) ∧ NoneExpired (c.perform call).2 calls

/-- Whether a call is for an operation; several values may be visited in another order. -/
inductive Call.Alike : Call → Operation → Prop
  | get (key : String) : Alike (.get key) (.get key)
  | set (written now : Instant) (key : String) (value : Bytes) :
    Alike (.set written now key value) (.set key value)
  | setMulti (now : Instant) {values : List (Instant × String × Bytes)}
      {items : List (String × Bytes)} (h : (values.map Prod.snd).Perm items) :
    Alike (.setMulti now values) (.setMulti items)
  | add (written now : Instant) (key : String) (value : Bytes) :
    Alike (.add written now key value) (.add key value)
  | delete (now : Instant) (key : String) : Alike (.delete now key) (.delete key)

variable {c : MemoryCache} {now written : Instant} {key : String} {value : Bytes} {call : Call}
  {op : Operation}

lemma get_eq_contents (c : MemoryCache) (key : String) : c.get key = c.contents.get key := by
  rw [MemoryCache.get, Store.get, contents]
  cases c.items.get? key <;> rfl

lemma contents_insert (c : MemoryCache) (key : String) (item : CachedItem) :
    contents { c with items := c.items.insert key item } = c.contents.put key item.value := by
  funext k
  by_cases h : k = key <;> simp [contents, Store.put, h]

lemma contents_erase (c : MemoryCache) (key : String) :
    contents { c with items := c.items.erase key } = c.contents.erase key := by
  funext k
  by_cases h : k = key <;> simp [contents, Store.erase, h]

lemma contents_compact (h : c.Unexpired now) : (c.compact now).contents = c.contents := by
  rw [compact]
  split
  · rfl
  · rename_i late
    funext k
    simp only [contents, Dict.get?_filter]
    cases found : c.items.get? k with
    | none => rfl
    | some item =>
      have kept := h (Nat.le_of_not_lt late) _ (Dict.get?_eq_some_iff.mp found)
      simp only at kept
      simp [Option.filter, kept]

lemma insertAll_eq {values : List (Instant × String × Bytes)}
    (h : ∀ x ∈ values, x.1 + c.ttl < clockBound) :
    (c.insertAll values).1 = .ok ∧
      (c.insertAll values).2.contents = c.contents.putAll (values.map Prod.snd) := by
  induction values generalizing c with
  | nil => exact ⟨rfl, rfl⟩
  | cons x values ih =>
    obtain ⟨first, later⟩ := List.forall_mem_cons.mp h
    simp only [insertAll, item?_of_fits first]
    obtain ⟨result, contents⟩ := ih (c := { c with items := c.items.insert x.2.1 _ }) later
    exact ⟨result, contents.trans (by rw [contents_insert]; rfl)⟩

lemma setMultiAt_eq {values : List (Instant × String × Bytes)}
    (fits : ∀ x ∈ values, x.1 + c.ttl < clockBound) (fresh : c.Unexpired now) :
    (c.setMultiAt now values).1 = .ok ∧
      (c.setMultiAt now values).2.contents = c.contents.putAll (values.map Prod.snd) := by
  have fits' : ∀ x ∈ values, x.1 + (c.compact now).ttl < clockBound := c.ttl_compact now ▸ fits
  rw [← contents_compact fresh]
  exact insertAll_eq fits'

lemma contains_eq (c : MemoryCache) (key : String) :
    c.items.contains key = (c.contents key).isSome := by
  rw [contents, Option.isSome_map, Dict.contains]

lemma addAt_eq (fits : written + c.ttl < clockBound) (fresh : c.Unexpired now) (key : String)
    (value : Bytes) :
    (Outcome.written (c.addAt written now key value).1,
        (c.addAt written now key value).2.contents) = c.contents.perform (.add key value) := by
  rw [addAt_of_fits fits, contains_eq, contents_compact fresh, Store.perform]
  split
  · rw [contents_compact fresh]
  · rw [← contents_compact fresh, apply, contents_insert]

/-- A call to a memory cache does what the operation is to do. -/
lemma perform_of_alike (alike : call.Alike op) (distinct : op.keys.Nodup) (fits : call.Fits c.ttl)
    (fresh : ∀ now ∈ call.asks, c.Unexpired now) :
    ((c.perform call).1, (c.perform call).2.contents) = c.contents.perform op := by
  cases alike with
  | get key => rw [perform, get_eq_contents, Store.perform]
  | set written now key value =>
    have fits : written + c.ttl < clockBound := fits _ (List.mem_singleton_self _)
    simp only [perform, setAt, item?_of_fits fits, contents_insert,
      contents_compact (fresh now rfl)]
    rfl
  | @setMulti now values items h =>
    have fits : ∀ x ∈ values, x.1 + c.ttl < clockBound := fits
    obtain ⟨result, contents⟩ := setMultiAt_eq fits (fresh now rfl)
    have distinct' : ((values.map Prod.snd).map Prod.fst).Nodup :=
      (h.map Prod.fst).nodup_iff.mpr distinct
    simp only [perform, result, contents, Store.perform, Store.putAll_of_perm h distinct']
  | add written now key value =>
    have fits : written + c.ttl < clockBound := fits _ (List.mem_singleton_self _)
    exact addAt_eq fits (fresh now rfl) key value
  | delete now key =>
    simp only [perform, delete, contents_erase, contents_compact (fresh now rfl)]
    rfl

lemma ttl_perform (fits : call.Fits c.ttl) : (c.perform call).2.ttl = c.ttl := by
  have kept : ∀ (ds : List Deed) (c : MemoryCache), (ds.foldl apply c).ttl = c.ttl := by
    intro ds
    induction ds with
    | nil => exact fun c => rfl
    | cons d ds ih =>
      intro c
      rw [List.foldl_cons, ih]
      cases d <;> rfl
  rw [perform_eq fits, kept]

/-- Calls to a memory cache do what the operations are to do. -/
lemma run_of_alike {calls : List Call} {ops : List Operation}
    (alike : List.Forall₂ Call.Alike calls ops) (distinct : ∀ op ∈ ops, op.keys.Nodup)
    (fits : ∀ call ∈ calls, call.Fits c.ttl) (fresh : c.NoneExpired calls) :
    ((c.run calls).1.map Prod.snd, (c.run calls).2.contents) = c.contents.run ops := by
  induction alike generalizing c with
  | nil => rfl
  | @cons call op calls ops head _ ih =>
    obtain ⟨distinct, laterDistinct⟩ := List.forall_mem_cons.mp distinct
    obtain ⟨fits, laterFits⟩ := List.forall_mem_cons.mp fits
    obtain ⟨fresh, laterFresh⟩ := fresh
    have step := perform_of_alike head distinct fits fresh
    have rest := ih laterDistinct (ttl_perform fits ▸ laterFits) laterFresh
    simp only [Store.run, ← step, ← rest]
    rfl

end MemoryCache

end Conveyor
