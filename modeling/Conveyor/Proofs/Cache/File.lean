import Conveyor.Cache.File
import Conveyor.Proofs.Cache.Store
import Conveyor.Proofs.Path

/-!
# What a file cache does to its directory

The path for a key that is a file name leads to this name in the directory of the cache
(`pathSteps_joinPath`). So each operation of a file cache is one operation on the entries of the
directory, and nothing else in the file system matters to it or is changed by it.
-/

namespace Conveyor

/-! ### File names -/

/-- Whether a text can be the name of a file. -/
structure IsFileName (name : String) : Prop where
  nonempty : name ≠ ""
  notHere : name ≠ "."
  notParent : name ≠ ".."
  slash : '/' ∉ name.toList
  null : '\x00' ∉ name.toList
  short : name.utf8ByteSize ≤ FileSystem.longestName

instance (name : String) : Decidable (IsFileName name) :=
  decidable_of_iff (name ≠ "" ∧ name ≠ "." ∧ name ≠ ".." ∧ '/' ∉ name.toList ∧
      '\x00' ∉ name.toList ∧ name.utf8ByteSize ≤ FileSystem.longestName)
    ⟨fun ⟨a, b, c, d, e, f⟩ => ⟨a, b, c, d, e, f⟩, fun ⟨a, b, c, d, e, f⟩ => ⟨a, b, c, d, e, f⟩⟩

variable {name : String}

lemma IsFileName.isName (h : IsFileName name) : IsName name :=
  ⟨h.nonempty, h.notHere, h.notParent, h.slash⟩

/-! ### The directory -/

namespace FileSystem

/-- Whether a path leads to a place. -/
def LeadsTo (fs : FileSystem) (path : String) (place : Place) : Prop :=
  '\x00' ∉ path.toList ∧ (pathSteps path).foldlM fs.stepInto [] = .ok place

variable {fs : FileSystem} {place p q : Place} {path directory : String} {step : PathStep}
  {steps : List PathStep} {entries entries' : Dict FileEntry}

lemma null_mem_joinPath (h : IsName name) : '\x00' ∈ (joinPath directory name).toList ↔
    '\x00' ∈ directory.toList ∨ '\x00' ∈ name.toList := by
  rw [joinPath, h.relative, if_neg (by simp)]
  split
  next ends =>
    simp
  next =>
    simp

lemma locate_joinPath (leads : fs.LeadsTo directory place) (h : IsFileName name) :
    fs.locate (joinPath directory name) = .ok (place, name) := by
  obtain ⟨null, way⟩ := leads
  have null' := mt (null_mem_joinPath h.isName).mp (not_or.mpr ⟨null, h.null⟩)
  rw [locate, pathSteps_joinPath directory h.isName]
  simp [null', way, Bind.bind, Except.bind, pure, Except.pure]

lemma put_put (fs : FileSystem) (place : Place) (entries entries' : Dict FileEntry) :
    (fs.put place entries).put place entries' = fs.put place entries' := by
  simp only [put, FileSystem.mk.injEq]
  funext other
  split <;> rfl

lemma put_self (h : fs.directory? place = some entries) : fs.put place entries = fs := by
  obtain ⟨directory?⟩ := fs
  simp only [put, FileSystem.mk.injEq]
  funext other
  split
  · rename_i same
    exact same ▸ h.symm
  · rfl

lemma directory?_put (fs : FileSystem) (place : Place) (entries : Dict FileEntry) :
    (fs.put place entries).directory? place = some entries := if_pos rfl

/-- A way does not lead on from an empty directory, so it stays the same when this is filled. -/
lemma stepInto_put (empty : fs.directory? place = some .empty) (entries : Dict FileEntry)
    (h : fs.stepInto p step = .ok q) : (fs.put place entries).stepInto p step = .ok q := by
  cases step with
  | root => exact h
  | here => exact h
  | parent => exact h
  | name name =>
    by_cases same : p = place
    · subst same
      have nothing : fs.lookUp p name ≠ .ok (some .directory) := by
        by_cases long : longestName < name.utf8ByteSize
        · simp [lookUp, FileSystem.entries, empty, long, Bind.bind, Except.bind]
        · simp [lookUp, FileSystem.entries, empty, long, Bind.bind, Except.bind, pure, Except.pure]
      cases found : fs.lookUp p name with
      | error e =>
        rw [stepInto, found] at h
        cases h
      | ok entry =>
        rw [stepInto, found] at h
        match entry with
        | some .directory => exact absurd found nothing
        | some (.file _) => cases h
        | none => cases h
    · have elsewhere : (fs.put place entries).lookUp p name = fs.lookUp p name := by
        simp [lookUp, FileSystem.entries, put, same]
      rw [stepInto, elsewhere]
      exact h

lemma LeadsTo.put (h : fs.LeadsTo path q) (empty : fs.directory? place = some .empty)
    (entries : Dict FileEntry) : (fs.put place entries).LeadsTo path q := by
  refine ⟨h.1, ?_⟩
  have way : ∀ (steps : List PathStep) (p : Place), steps.foldlM fs.stepInto p = .ok q →
      steps.foldlM (fs.put place entries).stepInto p = .ok q := by
    intro steps
    induction steps with
    | nil => exact fun p h => h
    | cons step steps ih =>
      intro p h
      rw [List.foldlM_cons] at h ⊢
      cases first : fs.stepInto p step with
      | error e =>
        rw [first] at h
        cases h
      | ok next =>
        rw [first] at h
        rw [stepInto_put empty entries first]
        exact ih next h
  exact way _ _ h.2

lemma lookUp_put (fs : FileSystem) (place : Place) (entries : Dict FileEntry)
    (h : IsFileName name) : (fs.put place entries).lookUp place name = .ok (entries.get? name) := by
  have short := Nat.not_lt.mpr h.short
  simp [lookUp, FileSystem.entries, directory?_put, short, Bind.bind, Except.bind, pure,
    Except.pure]

end FileSystem

/-! ### Operations -/

namespace FileCache

open Cache (Store Operation)
open MemoryCache (Outcome)

/-- What comes of an operation that gives another file system if it succeeds. -/
def written (fs : FileSystem) : Except CacheError FileSystem → Outcome × FileSystem
  | .ok fs   => (.written .ok, fs)
  | .error e => (.written (.failed e), fs)

/-- What comes of an operation, and the file system after it. -/
def perform (c : FileCache) (fs : FileSystem) : Operation → Outcome × FileSystem
  | .get key        => (.value (c.get fs key), fs)
  | .set key value  => written fs (c.set fs key value)
  | .setMulti items =>
    match c.setAll fs items with
    | (.ok _, fs)    => (.written .ok, fs)
    | (.error e, fs) => (.written (.failed e), fs)
  | .add key value => written fs (c.add fs key value)
  | .delete key    => written fs (c.delete fs key)

/-- What comes of operations, and the file system after them. -/
def run (c : FileCache) (fs : FileSystem) : List Operation → List Outcome × FileSystem
  | [] => ([], fs)
  | op :: ops =>
    let (outcome, fs) := c.perform fs op
    let (outcomes, fs) := run c fs ops
    (outcome :: outcomes, fs)

/-- Whether a cache lies over an empty directory at a place. -/
structure Over (c : FileCache) (fs : FileSystem) (place : Place) : Prop where
  leads : fs.LeadsTo c.directory place
  empty : fs.directory? place = some .empty

/-- Whether the entries of a directory are files for the values that are kept. -/
def Stores (entries : Dict FileEntry) (s : Store) : Prop :=
  ∀ key, entries.get? key = (s key).map .file

variable {c : FileCache} {fs : FileSystem} {place : Place} {entries : Dict FileEntry} {s : Store}
  {key : String} {value : Bytes} {op : Operation}

lemma stores_empty : Stores .empty fun _ => none := fun _ => rfl

lemma Stores.insert (h : Stores entries s) (key : String) (value : Bytes) :
    Stores (entries.insert key (.file value)) (s.put key value) := by
  intro k
  by_cases same : k = key <;> simp [Store.put, same, h k]

lemma Stores.erase (h : Stores entries s) (key : String) :
    Stores (entries.erase key) (s.erase key) := by
  intro k
  by_cases same : k = key <;> simp [Store.erase, same, h k]

lemma pathOf_name (c : FileCache) (h : IsName key) :
    c.pathOf key = .ok (joinPath c.directory key) :=
  if_pos (pathSteps_name h)

section

variable (based : c.Over fs place) (h : IsFileName key)

include based h

lemma Over.located (entries : Dict FileEntry) :
    (fs.put place entries).locate (joinPath c.directory key) = .ok (place, key) :=
  FileSystem.locate_joinPath (based.leads.put based.empty entries) h

variable (stores : Stores entries s)

include stores

lemma Over.get : c.get (fs.put place entries) key = s.get key := by
  have found := FileSystem.lookUp_put fs place entries h
  rw [stores] at found
  cases kept : s key <;>
    simp [FileCache.get, pathOf_name c h.isName, FileSystem.read, based.located h, found, kept, Store.get,
      bind, Except.bind, pure, Except.pure, throw, throwThe, MonadExceptOf.throw]

lemma Over.set : c.set (fs.put place entries) key value =
    .ok (fs.put place (entries.insert key (.file value))) := by
  have found := FileSystem.lookUp_put fs place entries h
  rw [stores] at found
  cases kept : s key <;>
    simp [FileCache.set, pathOf_name c h.isName, FileSystem.write, based.located h, found, kept,
      FileSystem.bind, FileSystem.directory?_put, FileSystem.put_put, bind, Except.bind, pure,
      Except.pure]

lemma Over.add : c.add (fs.put place entries) key value =
    if (s key).isSome then .error .keyAlreadyExists
    else .ok (fs.put place (entries.insert key (.file value))) := by
  have found := FileSystem.lookUp_put fs place entries h
  rw [stores] at found
  cases kept : s key <;>
    simp [FileCache.add, pathOf_name c h.isName, FileSystem.create, based.located h, found, kept,
      FileSystem.bind, FileSystem.directory?_put, FileSystem.put_put, bind, Except.bind, pure,
      Except.pure, throw, throwThe, MonadExceptOf.throw]

lemma Over.delete : c.delete (fs.put place entries) key =
    .ok (if (s key).isSome then fs.put place (entries.erase key) else fs.put place entries) := by
  have found := FileSystem.lookUp_put fs place entries h
  rw [stores] at found
  cases kept : s key <;>
    simp [FileCache.delete, pathOf_name c h.isName, FileSystem.remove, based.located h, found, kept,
      FileSystem.unbind, FileSystem.directory?_put, FileSystem.put_put, bind, Except.bind, pure,
      Except.pure, throw, throwThe, MonadExceptOf.throw]

end

lemma Over.setAll {items : List (String × Bytes)} (based : c.Over fs place)
    (h : ∀ e ∈ items, IsFileName e.1) (stores : Stores entries s) :
    ∃ entries', c.setAll (fs.put place entries) items = (.ok (), fs.put place entries') ∧
      Stores entries' (s.putAll items) := by
  induction items generalizing entries s with
  | nil => exact ⟨entries, rfl, stores⟩
  | cons e items ih =>
    obtain ⟨first, later⟩ := List.forall_mem_cons.mp h
    obtain ⟨entries', rest, stores'⟩ := ih later (stores.insert e.1 e.2)
    refine ⟨entries', ?_, stores'⟩
    rw [FileCache.setAll, based.set first stores]
    exact rest

/-- An operation on a file cache does what it is to do, by a change of the directory alone. -/
lemma Over.perform (based : c.Over fs place) (h : ∀ key ∈ op.keys, IsFileName key)
    (stores : Stores entries s) :
    ∃ entries', c.perform (fs.put place entries) op =
        ((s.perform op).1, fs.put place entries') ∧ Stores entries' (s.perform op).2 := by
  cases op with
  | get key =>
    have name := h key (List.mem_singleton_self key)
    refine ⟨entries, ?_, stores⟩
    rw [FileCache.perform, based.get name stores]
    rfl
  | set key value =>
    have name := h key (List.mem_singleton_self key)
    refine ⟨entries.insert key (.file value), ?_, stores.insert key value⟩
    rw [FileCache.perform, based.set name stores]
    rfl
  | setMulti items =>
    have names : ∀ e ∈ items, IsFileName e.1 := fun e he => h e.1 (List.mem_map_of_mem he)
    obtain ⟨entries', result, stores'⟩ := based.setAll names stores
    refine ⟨entries', ?_, stores'⟩
    rw [FileCache.perform, result]
    rfl
  | add key value =>
    have name := h key (List.mem_singleton_self key)
    rw [FileCache.perform, based.add name stores, Store.perform]
    split
    · exact ⟨entries, rfl, stores⟩
    · exact ⟨entries.insert key (.file value), rfl, stores.insert key value⟩
  | delete key =>
    have name := h key (List.mem_singleton_self key)
    rw [FileCache.perform, based.delete name stores, Store.perform]
    split
    · exact ⟨entries.erase key, rfl, stores.erase key⟩
    · rename_i absent
      have same : s.erase key = s := by
        rw [Option.not_isSome_iff_eq_none] at absent
        rw [Store.erase, ← absent, Function.update_eq_self]
      refine ⟨entries, rfl, ?_⟩
      show Stores entries (s.erase key)
      rw [same]
      exact stores

/-- Operations on a file cache do what they are to do. -/
lemma Over.run {ops : List Operation} (based : c.Over fs place)
    (h : ∀ op ∈ ops, ∀ key ∈ op.keys, IsFileName key) (stores : Stores entries s) :
    ∃ entries', c.run (fs.put place entries) ops = ((s.run ops).1, fs.put place entries') ∧
      Stores entries' (s.run ops).2 := by
  induction ops generalizing entries s with
  | nil => exact ⟨entries, rfl, stores⟩
  | cons op ops ih =>
    obtain ⟨first, later⟩ := List.forall_mem_cons.mp h
    obtain ⟨entries₁, step, stores₁⟩ := based.perform first stores
    obtain ⟨entries', rest, stores'⟩ := ih later stores₁
    refine ⟨entries', ?_, stores'⟩
    rw [FileCache.run, step]
    simp only [rest]
    rfl

/-- What is kept tells what is in the directory. -/
lemma Stores.unique {entries' : Dict FileEntry} (h : Stores entries s) (h' : Stores entries' s) :
    entries = entries' :=
  Dict.ext_get? fun key => (h key).trans (h' key).symm

end FileCache

end Conveyor
