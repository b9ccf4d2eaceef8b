/-!
# Dictionaries with text keys

A finite map from texts to values, kept as a list in strictly increasing order of its keys. The
order makes the list canonical: two dictionaries that answer every look-up alike are equal, whatever
the order in which their entries were put in.
-/

namespace Conveyor

/-- The entries of a dictionary are in strictly increasing order of their keys. -/
abbrev KeysIncreasing {α : Type} (entries : List (String × α)) : Prop :=
  entries.Pairwise fun a b => a.1 < b.1

/-- A finite map with text keys. -/
structure Dict (α : Type) where
  entries : List (String × α)
  /-- No key comes twice, and the keys are sorted. -/
  increasing : KeysIncreasing entries
deriving DecidableEq

/-! ### Sorted entries -/

/-- Put an entry at its place, over an older one with the same key. -/
def putEntry {α : Type} (key : String) (value : α) : List (String × α) → List (String × α)
  | [] => [(key, value)]
  | entry :: rest =>
    if key < entry.1 then (key, value) :: entry :: rest
    else if key = entry.1 then (key, value) :: rest
    else entry :: putEntry key value rest

/-- Every entry after a `putEntry` is the new one or an old one. -/
theorem mem_putEntry {α : Type} {key : String} {value : α} {entries : List (String × α)}
    {e : String × α} (h : e ∈ putEntry key value entries) : e = (key, value) ∨ e ∈ entries := by
  induction entries with
  | nil => simpa [putEntry] using h
  | cons entry rest ih =>
    simp only [putEntry] at h
    split at h
    · simpa using h
    · split at h <;> simp only [List.mem_cons] at h ⊢ <;> grind

theorem keysIncreasing_putEntry {α : Type} (key : String) (value : α)
    {entries : List (String × α)} (h : KeysIncreasing entries) :
    KeysIncreasing (putEntry key value entries) := by
  induction entries with
  | nil => simp [putEntry]
  | cons entry rest ih =>
    have ⟨above, sorted⟩ := List.pairwise_cons.1 h
    simp only [putEntry]
    split
    · rename_i before
      refine List.pairwise_cons.2 ⟨fun e he => ?_, h⟩
      rcases List.mem_cons.1 he with rfl | he
      · exact before
      · exact String.lt_trans before (above e he)
    · split
      · rename_i same
        exact List.pairwise_cons.2 ⟨fun e he => same ▸ above e he, sorted⟩
      · rename_i notBefore other
        refine List.pairwise_cons.2 ⟨fun e he => ?_, ih sorted⟩
        rcases mem_putEntry he with rfl | he
        · refine Classical.byContradiction fun notAfter => other ?_
          exact String.le_antisymm (String.not_lt.1 notAfter) (String.not_lt.1 notBefore)
        · exact above e he

namespace Dict

variable {α : Type}

/-! ### Operations -/

def empty : Dict α := ⟨[], .nil⟩

instance : Inhabited (Dict α) := ⟨empty⟩

def isEmpty (d : Dict α) : Bool := d.entries.isEmpty

def size (d : Dict α) : Nat := d.entries.length

def get? (d : Dict α) (key : String) : Option α := d.entries.lookup key

def contains (d : Dict α) (key : String) : Bool := (d.get? key).isSome

def insert (d : Dict α) (key : String) (value : α) : Dict α :=
  ⟨putEntry key value d.entries, keysIncreasing_putEntry key value d.increasing⟩

def filter (keep : String → α → Bool) (d : Dict α) : Dict α :=
  ⟨d.entries.filter fun e => keep e.1 e.2, d.increasing.filter _⟩

def erase (d : Dict α) (key : String) : Dict α := d.filter fun k _ => k ≠ key

/-- Change the value under a key, starting from `start` if there is none. -/
def upsert (d : Dict α) (key : String) (start : α) (change : α → α) : Dict α :=
  d.insert key (change ((d.get? key).getD start))

/-- Put entries in, one after the other: of several with one key the last stays. -/
def insertMany (d : Dict α) (entries : List (String × α)) : Dict α :=
  entries.foldl (fun d e => d.insert e.1 e.2) d

/-- The dictionary made of these entries, put in one after the other. -/
def ofList (entries : List (String × α)) : Dict α := empty.insertMany entries

def toList (d : Dict α) : List (String × α) := d.entries

/-! ### Look-ups -/

/-- A look-up in a list looks at the first entry, then at the rest. -/
theorem lookup_cons_ite (k : String) (e : String × α) (rest : List (String × α)) :
    (e :: rest).lookup k = if k = e.1 then some e.2 else rest.lookup k := by
  obtain ⟨key, value⟩ := e
  by_cases h : k = key
  · simp [h]
  · simp [List.lookup_cons, beq_eq_false_iff_ne.2 h, h]

theorem lookup_putEntry (key : String) (value : α) (entries : List (String × α)) (k : String) :
    (putEntry key value entries).lookup k =
      if k = key then some value else entries.lookup k := by
  induction entries with
  | nil => simp [putEntry, lookup_cons_ite]
  | cons entry rest ih =>
    simp only [putEntry]
    split
    · simp [lookup_cons_ite]
    · split
      · simp only [lookup_cons_ite]; grind
      · simp only [lookup_cons_ite, ih]; grind

/-- A look-up after an insertion finds the new value under its key and the old ones elsewhere. -/
@[simp, grind =] theorem get?_insert (d : Dict α) (key : String) (value : α) (k : String) :
    (d.insert key value).get? k = if k = key then some value else d.get? k :=
  lookup_putEntry key value d.entries k

@[simp, grind =] theorem get?_empty (k : String) : (empty : Dict α).get? k = none := rfl

/-- A look-up finds nothing that comes later than the key. -/
theorem lookup_eq_none_of_lt {entries : List (String × α)} {k : String}
    (h : ∀ e ∈ entries, k < e.1) : entries.lookup k = none := by
  refine List.lookup_eq_none_iff.mpr fun e he => ?_
  rw [bne_iff_ne]
  rintro rfl
  exact String.lt_irrefl _ (h e he)

theorem lookup_filter {entries : List (String × α)} (h : KeysIncreasing entries)
    (keep : String → α → Bool) (k : String) :
    (entries.filter fun e => keep e.1 e.2).lookup k = (entries.lookup k).filter (keep k) := by
  induction entries with
  | nil => rfl
  | cons e rest ih =>
    obtain ⟨above, sorted⟩ := List.pairwise_cons.1 h
    rw [lookup_cons_ite, List.filter_cons]
    by_cases hk : k = e.1
    · subst hk
      have absent := lookup_eq_none_of_lt above
      by_cases kept : keep e.1 e.2
      · simp [lookup_cons_ite, kept, Option.filter]
      · rw [if_neg (by simpa using kept), ih sorted, absent]
        simp [Option.filter, kept]
    · rw [if_neg hk, ← ih sorted]
      split
      · rw [lookup_cons_ite, if_neg hk]
      · rfl

/-- A look-up finds the values that were kept. -/
@[simp, grind =] theorem get?_filter (d : Dict α) (keep : String → α → Bool) (k : String) :
    (d.filter keep).get? k = (d.get? k).filter (keep k) :=
  lookup_filter d.increasing keep k

/-- A look-up does not find what was erased. -/
@[simp, grind =] theorem get?_erase (d : Dict α) (key k : String) :
    (d.erase key).get? k = if k = key then none else d.get? k := by
  rw [erase, get?_filter]
  by_cases h : k = key <;> cases d.get? k <;> simp [h, Option.filter]

theorem get?_insertMany (d : Dict α) {entries : List (String × α)} (h : KeysIncreasing entries)
    (k : String) : (d.insertMany entries).get? k = (entries.lookup k).or (d.get? k) := by
  induction entries generalizing d with
  | nil => simp [insertMany]
  | cons e rest ih =>
    obtain ⟨above, sorted⟩ := List.pairwise_cons.1 h
    have next : (d.insertMany (e :: rest)).get? k = ((d.insert e.1 e.2).insertMany rest).get? k := rfl
    rw [next, ih _ sorted, lookup_cons_ite, get?_insert]
    by_cases hk : k = e.1
    · subst hk
      simp [lookup_eq_none_of_lt above]
    · simp [hk]

/-- A dictionary whose values are changed one by one, under the same keys. -/
theorem get?_ofList_map {β : Type} (d : Dict α) (f : α → β) (k : String) :
    (ofList (d.toList.map fun e => (e.1, f e.2))).get? k = (d.get? k).map f := by
  have sorted : KeysIncreasing (d.toList.map fun e => (e.1, f e.2)) :=
    List.pairwise_map.mpr d.increasing
  rw [ofList, get?_insertMany _ sorted, get?_empty, Option.or_none, toList, get?]
  induction d.entries with
  | nil => rfl
  | cons e rest ih =>
    rw [List.map_cons, lookup_cons_ite, lookup_cons_ite, ih]
    split <;> rfl

end Dict

end Conveyor
