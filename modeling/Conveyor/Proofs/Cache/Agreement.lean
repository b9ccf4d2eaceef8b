import Conveyor.Proofs.Cache.File

/-!
# The two caches agree

A memory cache in which nothing expires before it is removed and a file cache over an empty
directory are to do the same, so that operations have the same outcome with both
(`Cache.outcomes_agree`).
-/

namespace Conveyor.Cache

open MemoryCache (Call Outcome)

deriving instance DecidableEq for Outcome

/-- Whether an operation uses names of files as keys, and none of them twice. -/
structure Operation.Accepted (op : Operation) : Prop where
  names : ∀ key ∈ op.keys, IsFileName key
  distinct : op.keys.Nodup

instance (op : Operation) : Decidable op.Accepted :=
  decidable_of_iff ((∀ key ∈ op.keys, IsFileName key) ∧ op.keys.Nodup)
    ⟨fun ⟨names, distinct⟩ => ⟨names, distinct⟩, fun h => ⟨h.names, h.distinct⟩⟩

/-- The outcomes of operations that neither panic nor meet a failure of the storage. -/
inductive Plain : Outcome → Prop
  | value (value : Bytes) : Plain (.value (.ok value))
  | missing : Plain (.value (.error .keyNotFound))
  | ok : Plain (.written .ok)
  | present : Plain (.written (.failed .keyAlreadyExists))

/-- Whether two caches hold the same, and what holds of operations that come next. -/
structure Agree (c : MemoryCache) (f : FileCache) (fs : FileSystem) : Prop where
  get : ∀ key, IsFileName key → f.get fs key = c.get key
  /-- A value that is not added changes nothing in either of them. -/
  refused : ∀ written now key value, IsFileName key → written + c.ttl < clockBound →
    c.Unexpired now → (c.addAt written now key value).1 ≠ .ok →
    (c.addAt written now key value).1 = .failed .keyAlreadyExists ∧
      (∀ other, (c.addAt written now key value).2.get other = c.get other) ∧
      f.perform fs (.add key value) = (.written (.failed .keyAlreadyExists), fs)
  /-- Several values may be set in any order. -/
  setMulti : ∀ now values values', (values.map Prod.snd).Perm (values'.map Prod.snd) →
    (Operation.setMulti (values.map Prod.snd)).Accepted →
    (∀ x ∈ values ++ values', x.1 + c.ttl < clockBound) → c.Unexpired now →
    (∀ key, (c.setMultiAt now values).2.get key = (c.setMultiAt now values').2.get key) ∧
      f.setAll fs (values.map Prod.snd) = f.setAll fs (values'.map Prod.snd)

variable {c : MemoryCache} {f : FileCache} {fs : FileSystem} {place : Place}
  {entries : Dict FileEntry} {config : MemoryCacheConfig} {made : Instant} {calls : List Call}
  {ops : List Operation}

lemma Store.plain_perform (s : Store) (op : Operation) : Plain (s.perform op).1 := by
  cases op with
  | get key =>
    rw [perform, get]
    cases s key with
    | none => exact .missing
    | some value => exact .value value
  | set => exact .ok
  | setMulti => exact .ok
  | add key value =>
    rw [perform]
    split
    · exact .present
    · exact .ok
  | delete => exact .ok

lemma Store.plain_run (s : Store) (ops : List Operation) : ∀ o ∈ (s.run ops).1, Plain o := by
  induction ops generalizing s with
  | nil => exact nofun
  | cons op ops ih => exact List.forall_mem_cons.mpr ⟨s.plain_perform op, ih _⟩

/-- Two caches that keep the same values agree. -/
lemma agree_of_stores (based : f.Over fs place) (stores : FileCache.Stores entries c.contents) :
    Agree c f (fs.put place entries) where
  get := by
    intro key name
    rw [based.get name stores, MemoryCache.get_eq_contents]
  refused := by
    intro written now key value name fits fresh refused
    have added := MemoryCache.addAt_eq fits fresh key value
    rw [Store.perform] at added
    have present : (c.contents key).isSome := by
      by_contra absent
      rw [if_neg absent] at added
      exact refused (Outcome.written.inj (Prod.mk.inj added).1)
    rw [if_pos present] at added
    obtain ⟨result, contents⟩ := Prod.mk.inj added
    refine ⟨Outcome.written.inj result, fun other => ?_, ?_⟩
    · rw [MemoryCache.get_eq_contents, contents, ← MemoryCache.get_eq_contents]
    · rw [FileCache.perform, based.add name stores, if_pos present]
      rfl
  setMulti := by
    intro now values values' perm accepted fits fresh
    obtain ⟨fits, fits'⟩ := List.forall_mem_append.mp fits
    have same : c.contents.putAll (values.map Prod.snd) =
        c.contents.putAll (values'.map Prod.snd) :=
      Store.putAll_of_perm perm accepted.distinct
    have names : ∀ e ∈ values.map Prod.snd, IsFileName e.1 := by
      intro e he
      exact accepted.names e.1 (List.mem_map_of_mem he)
    constructor
    · intro key
      rw [MemoryCache.get_eq_contents, MemoryCache.get_eq_contents,
        (MemoryCache.setMultiAt_eq fits fresh).2, (MemoryCache.setMultiAt_eq fits' fresh).2, same]
    · obtain ⟨entries₁, result, stores₁⟩ := based.setAll names stores
      obtain ⟨entries₂, result', stores₂⟩ :=
        based.setAll (fun e he => names e (perm.mem_iff.mpr he)) stores
      rw [same] at stores₁
      rw [result, result', stores₁.unique stores₂]

/-- Operations have the same outcome with a memory cache without initial values in which no item has
expired at any compaction and with a file cache over an empty directory, and afterwards the two
caches hold the same. -/
theorem outcomes_agree (bare : config.initValues = .empty) (based : f.Over fs place)
    (alike : List.Forall₂ Call.Alike calls ops) (accepted : ∀ op ∈ ops, op.Accepted)
    (fits : ∀ call ∈ calls, call.Fits config.ttl)
    (fresh : (MemoryCache.new config made).NoneExpired calls) :
    ((MemoryCache.new config made).run calls).1.map Prod.snd = (f.run fs ops).1 ∧
      (∀ o ∈ (f.run fs ops).1, Plain o) ∧
      Agree ((MemoryCache.new config made).run calls).2 f (f.run fs ops).2 := by
  have nothing : (MemoryCache.new config made).contents = fun _ => none := by
    funext key
    simp only [MemoryCache.contents, MemoryCache.new, bare]
    rfl
  have distinct : ∀ op ∈ ops, op.keys.Nodup := fun op hop => (accepted op hop).distinct
  have names : ∀ op ∈ ops, ∀ key ∈ op.keys, IsFileName key := fun op hop => (accepted op hop).names
  have memory := MemoryCache.run_of_alike alike distinct fits fresh
  obtain ⟨entries, file, stores⟩ := based.run names FileCache.stores_empty
  rw [FileSystem.put_self based.empty] at file
  rw [nothing] at memory
  obtain ⟨outcomes, contents⟩ := Prod.mk.inj memory
  rw [file]
  refine ⟨outcomes, Store.plain_run _ ops, agree_of_stores based ?_⟩
  rw [contents]
  exact stores

/-- A cache whose items last for five minutes, which is compacted by every write. -/
def lasting : MemoryCacheConfig where
  ttlSeconds := 300
  compactionIntervalSeconds := 0

/-- Two values are set, one of them in vain once more, and one is erased. -/
def errands : List Operation :=
  [.setMulti [("a", [1]), (".b", [2])], .add "a" [3], .get "a", .delete "a", .get "a"]

/-- The same for a memory cache, which visits the values in another order. -/
def timedErrands : List Call :=
  [.setMulti 6 [(7, ".b", [2]), (8, "a", [1])], .add 9 10 "a" [3], .get "a", .delete 11 "a",
    .get "a"]

theorem outcomes_agree_lasting :
    ((MemoryCache.new lasting 5).run timedErrands).1.map Prod.snd =
        (FileCache.run ⟨"/"⟩ .empty errands).1 ∧
      (FileCache.run ⟨"/"⟩ .empty errands).1 =
        [.written .ok, .written (.failed .keyAlreadyExists), .value (.ok [1]), .written .ok,
          .value (.error .keyNotFound)] := by
  have based : FileCache.Over ⟨"/"⟩ .empty [] := ⟨⟨by decide +kernel, by decide +kernel⟩, rfl⟩
  have alike : List.Forall₂ Call.Alike timedErrands errands :=
    .cons (.setMulti 6 (.swap ..)) (.cons (.add ..) (.cons (.get _) (.cons (.delete ..)
      (.cons (.get _) .nil))))
  have accepted : ∀ op ∈ errands, op.Accepted := by decide +kernel
  have fits : ∀ call ∈ timedErrands, call.Fits lasting.ttl := by
    unfold Call.Fits
    decide +kernel
  have fresh : (MemoryCache.new lasting 5).NoneExpired timedErrands := by
    refine ⟨?_, ?_, ?_, ?_, ?_, trivial⟩ <;> decide +kernel
  obtain ⟨same, -⟩ := outcomes_agree rfl based alike accepted fits fresh
  exact ⟨same, by decide +kernel⟩

/-- A cache whose items would last longer than the clock can tell. -/
def everlasting : MemoryCacheConfig where
  ttlSeconds := 18446744073709551615

/-- Where a value would expire beyond the range of the clock, the outcomes differ: the memory cache
panics. -/
theorem outcomes_differ_everlasting :
    everlasting.initValues = .empty ∧ FileCache.Over ⟨"/"⟩ .empty [] ∧
      List.Forall₂ Call.Alike [.set 5 5 "a" [1]] [.set "a" [1]] ∧
      (∀ op ∈ [Operation.set "a" [1]], op.Accepted) ∧
      (MemoryCache.new everlasting 5).NoneExpired [.set 5 5 "a" [1]] ∧
      ((MemoryCache.new everlasting 5).run [.set 5 5 "a" [1]]).1.map Prod.snd =
        [.written .panicked] ∧
      (FileCache.run ⟨"/"⟩ .empty [.set "a" [1]]).1 = [.written .ok] := by
  refine ⟨rfl, ⟨⟨by decide +kernel, by decide +kernel⟩, rfl⟩, .cons (.set ..) .nil,
    by decide +kernel, ⟨by decide +kernel, trivial⟩, by decide +kernel, by decide +kernel⟩

end Conveyor.Cache
