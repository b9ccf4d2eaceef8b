import Conveyor.Proofs.Cache.File

/-!
# The file for a key

A file cache takes a key if and only if it is a name, and then uses the entry of this name in its
directory and nothing else (`EntryOperation.onEntry`, `perform_on`). Every other key is refused
before anything is looked up. So no key leads out of the directory, and different keys do not get in
each other's way (`file_for_key`).
-/

namespace Conveyor

open MemoryCache (Outcome)

/-! ### Single entries -/

namespace FileSystem

/-- What a name stands for in the directory at a place, if anything. -/
def entryAt? (fs : FileSystem) (place : Place) (name : String) : Option FileEntry :=
  (fs.directory? place).bind (·.get? name)

/-- Give a name in the directory at a place another meaning, or none. -/
def withEntry (fs : FileSystem) (place : Place) (name : String) : Option FileEntry → FileSystem
  | some entry => fs.bind place name entry
  | none       => fs.unbind place name

/-- Where a path leads to, with what its last step stands for there. -/
def find (fs : FileSystem) (path : String) :
    Except FileError (Place × String × Option FileEntry) := do
  let (place, name) ← fs.locate path
  return (place, name, ← fs.lookUp place name)

variable {fs : FileSystem} {place p q : Place} {name key other directory path : String}
  {entry new : Option FileEntry} {step : PathStep} {steps : List PathStep}

/-- A name that is not too long can be looked up in a directory. -/
lemma lookUp_eq_ok_iff : fs.lookUp place name = .ok entry ↔
    (fs.directory? place).isSome ∧ name.utf8ByteSize ≤ longestName ∧
      entry = fs.entryAt? place name := by
  rw [lookUp, entries, entryAt?]
  cases fs.directory? place with
  | none => simp [Bind.bind, Except.bind]
  | some entries =>
    by_cases long : longestName < name.utf8ByteSize
    · simp [long, Nat.not_le.mpr long, Bind.bind, Except.bind, throw, throwThe, MonadExceptOf.throw]
    · simp [long, Nat.not_lt.mp long, Bind.bind, Except.bind, pure, Except.pure, eq_comm]

lemma entryAt?_of_lookUp (h : fs.lookUp place name = .ok entry) : fs.entryAt? place name = entry :=
  (lookUp_eq_ok_iff.mp h).2.2.symm

lemma withEntry_self (h : fs.entryAt? place name = entry) : fs.withEntry place name entry = fs := by
  subst h
  cases there : fs.directory? place with
  | none => simp [entryAt?, there, withEntry, unbind]
  | some entries =>
    cases found : entries.get? name with
    | none =>
      have same : entries.erase name = entries := Dict.ext_get? fun key => by
        by_cases h : key = name <;> simp [h, found]
      simp [entryAt?, there, found, withEntry, unbind, same, put_self there]
    | some entry =>
      have same : entries.insert name entry = entries := Dict.ext_get? fun key => by
        by_cases h : key = name <;> simp [h, found]
      simp [entryAt?, there, found, withEntry, FileSystem.bind, same, put_self there]

/-- No other entry changes. -/
lemma lookUp_withEntry (apart : p = place → name ≠ key) :
    (fs.withEntry place key new).lookUp p name = fs.lookUp p name := by
  cases there : fs.directory? place with
  | none => cases new <;> simp [withEntry, FileSystem.bind, unbind, there]
  | some entries =>
    by_cases here : p = place
    · subst here
      cases new <;>
        simp [withEntry, FileSystem.bind, unbind, there, lookUp, FileSystem.entries,
          directory?_put, apart rfl, Bind.bind, Except.bind]
    · cases new <;>
        simp [withEntry, FileSystem.bind, unbind, there, lookUp, FileSystem.entries, put, here]

/-- No way leads over what is not a directory. -/
lemma stepInto_withEntry (file : fs.entryAt? place key ≠ some .directory)
    (h : fs.stepInto p step = .ok q) : (fs.withEntry place key new).stepInto p step = .ok q := by
  cases step with
  | root => exact h
  | here => exact h
  | parent => exact h
  | name name =>
    cases found : fs.lookUp p name with
    | error e =>
      rw [stepInto, found] at h
      cases h
    | ok entry =>
      have apart : p = place → name ≠ key := by
        rintro rfl rfl
        rw [entryAt?_of_lookUp found] at file
        rw [stepInto, found] at h
        cases entry with
        | none => cases h
        | some entry =>
          cases entry with
          | file text => cases h
          | directory => exact file rfl
      rw [stepInto, lookUp_withEntry apart]
      exact h

lemma way_withEntry (file : fs.entryAt? place key ≠ some .directory)
    (h : steps.foldlM fs.stepInto p = .ok q) :
    steps.foldlM (fs.withEntry place key new).stepInto p = .ok q := by
  induction steps generalizing p with
  | nil => exact h
  | cons step steps ih =>
    rw [List.foldlM_cons] at h ⊢
    cases first : fs.stepInto p step with
    | error e =>
      rw [first] at h
      cases h
    | ok next =>
      rw [first] at h
      rw [stepInto_withEntry file first]
      exact ih h

lemma entryAt?_of_find (h : fs.find path = .ok (place, name, entry)) :
    fs.entryAt? place name = entry := by
  rw [find] at h
  cases located : fs.locate path with
  | error e =>
    rw [located] at h
    cases h
  | ok way =>
    obtain ⟨p, n⟩ := way
    cases found : fs.lookUp p n with
    | error e => simp [located, found, Bind.bind, Except.bind] at h
    | ok entry =>
      simp only [located, found, Bind.bind, Except.bind, pure, Except.pure] at h
      cases h
      exact entryAt?_of_lookUp found

/-! Each operation on a file first finds the entry. -/

lemma read_eq (fs : FileSystem) (path : String) :
    fs.read path = fs.find path >>= fun (_, _, entry) =>
      match entry with
      | some (.file content) => .ok content
      | some .directory      => .error .other
      | none                 => .error .notFound := by
  rw [read, find]
  rcases fs.locate path with - | ⟨place, name⟩
  · rfl
  · simp only [Bind.bind, Except.bind, pure, Except.pure]
    rcases fs.lookUp place name with - | - | - | - <;> rfl

lemma write_eq (fs : FileSystem) (path : String) (content : Bytes) :
    fs.write path content = fs.find path >>= fun (place, name, entry) =>
      match entry with
      | some .directory => .error .other
      | _               => .ok (fs.withEntry place name (some (.file content))) := by
  rw [write, find]
  rcases fs.locate path with - | ⟨place, name⟩
  · rfl
  · simp only [Bind.bind, Except.bind, pure, Except.pure]
    rcases fs.lookUp place name with - | - | - | - <;> rfl

lemma create_eq (fs : FileSystem) (path : String) (content : Bytes) :
    fs.create path content = fs.find path >>= fun (place, name, entry) =>
      match entry with
      | some _ => .error .alreadyExists
      | none   => .ok (fs.withEntry place name (some (.file content))) := by
  rw [create, find]
  rcases fs.locate path with - | ⟨place, name⟩
  · rfl
  · simp only [Bind.bind, Except.bind, pure, Except.pure]
    rcases fs.lookUp place name with - | - | - | - <;> rfl

lemma remove_eq (fs : FileSystem) (path : String) :
    fs.remove path = fs.find path >>= fun (place, name, entry) =>
      match entry with
      | some (.file _)  => .ok (fs.withEntry place name none)
      | some .directory => .error .other
      | none            => .error .notFound := by
  rw [remove, find]
  rcases fs.locate path with - | ⟨place, name⟩
  · rfl
  · simp only [Bind.bind, Except.bind, pure, Except.pure]
    rcases fs.lookUp place name with - | - | - | - <;> rfl

/-- The path for a name in a directory leads where the path of the directory leads. -/
lemma find_joinPath (fs : FileSystem) (directory : String) (h : IsName name) :
    fs.find (joinPath directory name) =
      if '\x00' ∈ directory.toList ∨ '\x00' ∈ name.toList then .error .other
      else do
        let place ← (pathSteps directory).foldlM fs.stepInto []
        return (place, name, ← fs.lookUp place name) := by
  have null : '\x00' ∈ (joinPath directory name).toList ↔
      '\x00' ∈ directory.toList ∨ '\x00' ∈ name.toList := null_mem_joinPath h
  rw [find, locate, pathSteps_joinPath directory h]
  by_cases hn : '\x00' ∈ directory.toList ∨ '\x00' ∈ name.toList
  · simp [null.mpr hn, hn, Bind.bind, Except.bind, throw, throwThe, MonadExceptOf.throw]
  · have hn' : '\x00' ∉ (joinPath directory name).toList := mt null.mp hn
    cases way : (pathSteps directory).foldlM fs.stepInto [] <;>
      simp [hn', hn, way, Bind.bind, Except.bind, pure, Except.pure]

end FileSystem

/-- An operation of a cache on one key. -/
inductive EntryOperation
  | get
  | set (value : Bytes)
  | add (value : Bytes)
  | delete
deriving DecidableEq

namespace EntryOperation

/-- The operation on this key. -/
def on (key : String) : EntryOperation → Cache.Operation
  | get       => .get key
  | set value => .set key value
  | add value => .add key value
  | delete    => .delete key

/-- How the operation fails. -/
def failed (e : CacheError) : EntryOperation → Outcome
  | get => .value (.error e)
  | _   => .written (.failed e)

/-- What the operation is to do with an entry of a directory: what comes of it, and the entry after
it. -/
def onEntry : EntryOperation → Option FileEntry → Outcome × Option FileEntry
  | get, some (.file content) => (.value (.ok content), some (.file content))
  | get, none                 => (.value (.error .keyNotFound), none)
  | set value, some (.file _) => (.written .ok, some (.file value))
  | set value, none           => (.written .ok, some (.file value))
  | add value, none           => (.written .ok, some (.file value))
  | add _, some entry         => (.written (.failed .keyAlreadyExists), some entry)
  | delete, some (.file _)    => (.written .ok, none)
  | delete, none              => (.written .ok, none)
  | op, some .directory       => (op.failed FileError.other.toCacheError, some .directory)

/-- What comes of the operation if the file system refuses to look for the entry. -/
def refused : EntryOperation → FileError → Outcome
  | get, .notFound        => .value (.error .keyNotFound)
  | delete, .notFound     => .written .ok
  | add _, .alreadyExists => .written (.failed .keyAlreadyExists)
  | op, e                 => op.failed e.toCacheError

variable {op : EntryOperation}

lemma onEntry_directory (op : EntryOperation) : (op.onEntry (some .directory)).2 = some .directory := by
  cases op <;> rfl

lemma refused_ne (op : EntryOperation) (e : FileError) (key : String) :
    op.refused e ≠ op.failed (.invalidKey key) := by
  cases op <;> cases e <;> simp [refused, failed, FileError.toCacheError]

end EntryOperation

/-! ### Keys -/

namespace FileCache

variable {c : FileCache} {fs : FileSystem} {place : Place} {key other : String}
  {entry : Option FileEntry}

/-- A key that is not a name is refused as it is. -/
lemma pathOf_of_not_isName (c : FileCache) (h : ¬IsName key) :
    c.pathOf key = .error (.invalidKey key) :=
  if_neg (mt pathSteps_eq_name_iff.mp h)

/-- Nothing is looked up for a key that is not a name. -/
lemma perform_of_not_isName (c : FileCache) (fs : FileSystem) (op : EntryOperation)
    (h : ¬IsName key) : c.perform fs (op.on key) = (op.failed (.invalidKey key), fs) := by
  have path := c.pathOf_of_not_isName h
  cases op <;>
    simp [EntryOperation.on, EntryOperation.failed, perform, written, FileCache.get, FileCache.set,
      FileCache.add, FileCache.delete, path, bind, Except.bind]

/-- For a name, an operation is one on the entry that its path leads to. -/
lemma perform_on (c : FileCache) (fs : FileSystem) (op : EntryOperation) (h : IsName key) :
    c.perform fs (op.on key) =
      match fs.find (joinPath c.directory key) with
      | .error e => (op.refused e, fs)
      | .ok (place, name, entry) =>
        ((op.onEntry entry).1, fs.withEntry place name (op.onEntry entry).2) := by
  have path := c.pathOf_name h
  cases found : fs.find (joinPath c.directory key) with
  | error e =>
    cases op <;> cases e <;>
      simp [EntryOperation.on, EntryOperation.refused, EntryOperation.failed, perform, written,
        FileCache.get, FileCache.set, FileCache.add, FileCache.delete, path, fs.read_eq, fs.write_eq,
        fs.create_eq, fs.remove_eq, found, FileError.toCacheError, bind, Except.bind, pure,
        Except.pure, throw, throwThe, MonadExceptOf.throw]
  | ok way =>
    obtain ⟨place, name, entry⟩ := way
    have same := FileSystem.withEntry_self (FileSystem.entryAt?_of_find found)
    cases op <;> rcases entry with _ | _ | _ <;>
      simp [EntryOperation.on, EntryOperation.onEntry, EntryOperation.failed, perform, written,
        FileCache.get, FileCache.set, FileCache.add, FileCache.delete, path, fs.read_eq, fs.write_eq,
        fs.create_eq, fs.remove_eq, found, same, FileError.toCacheError, bind, Except.bind, pure,
        Except.pure, throw, throwThe, MonadExceptOf.throw]

/-- Whether the directory of a cache is there, at this place, and can have an entry for a key. -/
structure Within (c : FileCache) (fs : FileSystem) (place : Place) (key : String) : Prop where
  leads : fs.LeadsTo c.directory place
  there : (fs.directory? place).isSome
  null : '\x00' ∉ key.toList
  short : key.utf8ByteSize ≤ FileSystem.longestName

/-- The path for a name leads to the entry of this name in the directory. -/
lemma find_eq_ok_iff (h : IsName key) :
    fs.find (joinPath c.directory key) = .ok (place, other, entry) ↔
      c.Within fs place key ∧ other = key ∧ entry = fs.entryAt? place key := by
  rw [fs.find_joinPath _ h]
  constructor
  · intro found
    split at found
    next => cases found
    next null =>
      obtain ⟨noneBefore, noneHere⟩ := not_or.mp null
      cases way : (pathSteps c.directory).foldlM fs.stepInto [] with
      | error e => simp [way, Bind.bind, Except.bind] at found
      | ok p =>
        cases seen : fs.lookUp p key with
        | error e => simp [way, seen, Bind.bind, Except.bind] at found
        | ok e =>
          simp only [way, seen, Bind.bind, Except.bind, pure, Except.pure] at found
          cases found
          obtain ⟨there, short, same⟩ := FileSystem.lookUp_eq_ok_iff.mp seen
          exact ⟨⟨⟨noneBefore, way⟩, there, noneHere, short⟩, rfl, same⟩
  · rintro ⟨within, rfl, rfl⟩
    have seen := FileSystem.lookUp_eq_ok_iff.mpr ⟨within.there, within.short, rfl⟩
    rw [if_neg (by simp [within.leads.1, within.null]), within.leads.2]
    simp [seen, Bind.bind, Except.bind, pure, Except.pure]

/-- What another name stands for does not change with the entry for a key. -/
lemma find_withEntry (within : c.Within fs place key) (h : IsName other) (apart : other ≠ key)
    (file : fs.entryAt? place key ≠ some .directory) (new : Option FileEntry) :
    (fs.withEntry place key new).find (joinPath c.directory other) =
      fs.find (joinPath c.directory other) := by
  rw [FileSystem.find_joinPath _ _ h, FileSystem.find_joinPath _ _ h, within.leads.2,
    FileSystem.way_withEntry file within.leads.2]
  simp only [Bind.bind, Except.bind, FileSystem.lookUp_withEntry fun _ => apart]

/-- An operation on one name makes no difference to what comes of an operation on another one. -/
lemma perform_apart (c : FileCache) (fs : FileSystem) (op op' : EntryOperation) (h : IsName key)
    (h' : IsName other) (apart : other ≠ key) :
    (c.perform (c.perform fs (op.on key)).2 (op'.on other)).1 =
      (c.perform fs (op'.on other)).1 := by
  rw [c.perform_on fs op h]
  cases found : fs.find (joinPath c.directory key) with
  | error e => rfl
  | ok way =>
    obtain ⟨place, name, entry⟩ := way
    obtain ⟨within, rfl, rfl⟩ := (find_eq_ok_iff h).mp found
    by_cases directory : fs.entryAt? place name = some .directory
    · have same := FileSystem.withEntry_self directory
      simp only [directory, op.onEntry_directory, same]
    · rw [c.perform_on _ op' h', c.perform_on fs op' h', find_withEntry within h' apart directory]
      split <;> rfl

/-- A file cache takes a key if and only if it is not empty, has no slash, and is neither a dot nor
two dots.

* For such a key an operation reads and changes the entry with this very name in the directory of
  the cache and nothing else, if the directory is there and can have such an entry; otherwise the
  file system refuses it, and nothing changes. Operations on different keys use different paths, and
  none shows in what comes of the other.
* For any other key each operation fails, says which key was refused, and nothing changes. -/
theorem file_for_key (c : FileCache) (key : String) :
    ((∃ path, c.pathOf key = .ok path) ↔ key ≠ "" ∧ '/' ∉ key.toList ∧ key ≠ "." ∧ key ≠ "..") ∧
      (IsName key →
        c.pathOf key = .ok (joinPath c.directory key) ∧
        pathSteps (joinPath c.directory key) = pathSteps c.directory ++ [.name key] ∧
        ∀ (fs : FileSystem) (op : EntryOperation),
          (∀ place, c.Within fs place key → c.perform fs (op.on key) =
            ((op.onEntry (fs.entryAt? place key)).1,
              fs.withEntry place key (op.onEntry (fs.entryAt? place key)).2)) ∧
          ((∀ place, ¬c.Within fs place key) →
            (c.perform fs (op.on key)).1 ≠ op.failed (.invalidKey key) ∧
              (c.perform fs (op.on key)).2 = fs) ∧
          ∀ other, IsName other → other ≠ key →
            joinPath c.directory other ≠ joinPath c.directory key ∧
              ∀ op' : EntryOperation, (c.perform (c.perform fs (op.on key)).2 (op'.on other)).1 =
                (c.perform fs (op'.on other)).1) ∧
      (¬IsName key → ∀ (fs : FileSystem) (op : EntryOperation),
        c.perform fs (op.on key) = (op.failed (.invalidKey key), fs)) := by
  refine ⟨⟨?_, ?_⟩, fun h => ⟨c.pathOf_name h, pathSteps_joinPath _ h, fun fs op => ⟨?_, ?_, ?_⟩⟩,
    fun h fs op => c.perform_of_not_isName fs op h⟩
  · rintro ⟨path, accepted⟩
    by_contra refused
    have h : ¬IsName key := fun h => refused ⟨h.nonempty, h.slash, h.notHere, h.notParent⟩
    rw [c.pathOf_of_not_isName h] at accepted
    cases accepted
  · rintro ⟨nonempty, slash, notHere, notParent⟩
    exact ⟨_, c.pathOf_name ⟨nonempty, notHere, notParent, slash⟩⟩
  · intro place within
    rw [c.perform_on fs op h, (find_eq_ok_iff h).mpr ⟨within, rfl, rfl⟩]
  · intro nowhere
    rw [c.perform_on fs op h]
    cases found : fs.find (joinPath c.directory key) with
    | error e => exact ⟨op.refused_ne e key, rfl⟩
    | ok way => exact absurd ((find_eq_ok_iff h).mp found).1 (nowhere _)
  · exact fun other h' apart =>
      ⟨fun same => apart (joinPath_injective h' h same), fun op' => c.perform_apart fs op op' h h' apart⟩

/-- The steps of this key are those of a name, but it is none. -/
example : pathSteps "a/." = [.name "a"] ∧ ¬IsName "a/." := by decide +kernel

end FileCache

end Conveyor
