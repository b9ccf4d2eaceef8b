import Conveyor.Proofs.Metrics.Timings

/-!
# Keys of different stats

A key is written without escapes, so that different stats can have one key (`shared_keys`). Where this
happens shows in the first text in which they differ, be it the path, a name or a value: one of the two
texts, with the separator that is written behind it, is the beginning of the other one
(`Series.Clash`). Stats that do not clash have different keys, and what is called on one of them leaves
what is read of the other as it is (`apart_unless_clash`). Stats whose paths, names and values do not
contain the separators that may be written behind them never clash.
-/

namespace Conveyor.Metrics

/-! ### Series -/

/-- What a stat stands for: a path and the labels bound to it. -/
structure Series where
  path : String
  labels : List (String × String)
deriving DecidableEq

def Series.key (s : Series) : String := renderKey s.path s.labels

/-- What a stat stands for, if it records anything. -/
def Handle.series? : Handle → Option Series
  | .plain path              => some ⟨path, []⟩
  | .bound path names values => (pairLabels names values).map fun labels => ⟨path, labels⟩
  | .noop                    => none

lemma Handle.stat_of_series {h : Handle} {s : Series} (hs : h.series? = some s) :
    h.stat = .recorded s.key := by
  cases h with
  | plain path =>
    cases hs
    rfl
  | bound path names values =>
    obtain ⟨labels, paired, rfl⟩ := Option.map_eq_some_iff.mp hs
    simp only [stat, Stat.labelled, paired, Series.key]
  | noop => cases hs

/-! ### Clashes -/

/-- Whether a text begins with another one and this separator. -/
def Swallows (separator : Char) (text other : String) : Prop :=
  other.toList ++ [separator] <+: text.toList

instance (separator : Char) (text other : String) : Decidable (Swallows separator text other) :=
  inferInstanceAs (Decidable (_ <+: _))

/-- Whether of the first texts in which two lists of labels differ one swallows the other. A name is
followed by `=`, and a value is followed by `,` unless it is the last one. -/
def LabelsClash : List (String × String) → List (String × String) → Prop
  | l :: labels, l' :: labels' =>
    (Swallows '=' l.1 l'.1 ∨ Swallows '=' l'.1 l.1) ∨
      l.1 = l'.1 ∧
        ((labels' ≠ [] ∧ Swallows ',' l.2 l'.2 ∨ labels ≠ [] ∧ Swallows ',' l'.2 l.2) ∨
          l.2 = l'.2 ∧ LabelsClash labels labels')
  | _, _ => False

instance decidableLabelsClash : (labels labels' : List (String × String)) →
    Decidable (LabelsClash labels labels')
  | _ :: labels, _ :: labels' =>
    have := decidableLabelsClash labels labels'
    inferInstanceAs (Decidable ((_ ∨ _) ∨ _ ∧ ((_ ∧ _ ∨ _ ∧ _) ∨ _ ∧ _)))
  | [], _      => inferInstanceAs (Decidable False)
  | _ :: _, [] => inferInstanceAs (Decidable False)

namespace Series

/-- Whether of the first texts in which two stats differ one swallows the other. A path is followed by
`{` unless there are no labels. -/
def Clash (s s' : Series) : Prop :=
  (s'.labels ≠ [] ∧ Swallows '\x7b' s.path s'.path ∨
      s.labels ≠ [] ∧ Swallows '\x7b' s'.path s.path) ∨
    s.path = s'.path ∧ LabelsClash s.labels s'.labels

instance (s s' : Series) : Decidable (s.Clash s') :=
  inferInstanceAs (Decidable ((_ ∧ _ ∨ _ ∧ _) ∨ _ ∧ _))

/-- Whether no text contains the separator that may be written behind it. -/
structure Legible (s : Series) : Prop where
  path : '\x7b' ∉ s.path.toList
  names : ∀ l ∈ s.labels, '=' ∉ l.1.toList
  values : ∀ l ∈ s.labels, ',' ∉ l.2.toList

end Series

variable {separator : Char} {text other : String} {labels labels' : List (String × String)}
  {s s' : Series}

lemma Swallows.mem (h : Swallows separator text other) : separator ∈ text.toList :=
  h.subset (by simp)

lemma not_labelsClash (names : ∀ l ∈ labels, '=' ∉ l.1.toList)
    (values : ∀ l ∈ labels, ',' ∉ l.2.toList) (names' : ∀ l ∈ labels', '=' ∉ l.1.toList)
    (values' : ∀ l ∈ labels', ',' ∉ l.2.toList) : ¬LabelsClash labels labels' := by
  induction labels generalizing labels' with
  | nil => exact id
  | cons l labels ih =>
    cases labels' with
    | nil => exact id
    | cons l' labels' =>
      obtain ⟨name, names⟩ := List.forall_mem_cons.mp names
      obtain ⟨value, values⟩ := List.forall_mem_cons.mp values
      obtain ⟨name', names'⟩ := List.forall_mem_cons.mp names'
      obtain ⟨value', values'⟩ := List.forall_mem_cons.mp values'
      rintro ((clash | clash) | ⟨-, (⟨-, clash⟩ | ⟨-, clash⟩) | ⟨-, clash⟩⟩)
      · exact name clash.mem
      · exact name' clash.mem
      · exact value clash.mem
      · exact value' clash.mem
      · exact ih names values names' values' clash

lemma Series.Legible.not_clash (h : s.Legible) (h' : s'.Legible) : ¬s.Clash s' := by
  rintro ((⟨-, clash⟩ | ⟨-, clash⟩) | ⟨-, clash⟩)
  · exact h.path clash.mem
  · exact h'.path clash.mem
  · exact not_labelsClash h.names h.values h'.names h'.values clash

/-! ### What a key tells -/

/-- Where two texts are followed by the same separator, or by nothing, and all is the same, the texts are
the same unless one swallows the other. -/
lemma swallows_or_eq {rest rest' : List Char} (ends : ∀ c ∈ rest.head?, c = separator)
    (ends' : ∀ c ∈ rest'.head?, c = separator) (h : text.toList ++ rest = other.toList ++ rest') :
    (rest' ≠ [] ∧ Swallows separator text other ∨ rest ≠ [] ∧ Swallows separator other text) ∨
      text = other ∧ rest = rest' := by
  rcases List.append_eq_append_iff.mp h with ⟨more, longer, rfl⟩ | ⟨more, longer, rfl⟩
  · cases more with
    | nil => exact .inr ⟨String.toList_inj.mp (by simpa using longer.symm), rfl⟩
    | cons c more =>
      obtain rfl : c = separator := ends c rfl
      exact .inl (.inr ⟨by simp, more, by simp [longer]⟩)
  · cases more with
    | nil => exact .inr ⟨String.toList_inj.mp (by simpa using longer), rfl⟩
    | cons c more =>
      obtain rfl : c = separator := ends' c rfl
      exact .inl (.inl ⟨by simp, more, by simp [longer]⟩)

/-- The characters between the braces of a key. -/
def labelChars (labels : List (String × String)) : List Char :=
  (",".intercalate (labels.map fun l => l.1 ++ "=" ++ l.2)).toList

/-- The characters of a key after a value: those of the other labels, if there are any. -/
def moreLabelChars : List (String × String) → List Char
  | []     => []
  | labels => ',' :: labelChars labels

/-- The characters of a key after its path. -/
def braceChars : List (String × String) → List Char
  | []     => []
  | labels => '\x7b' :: (labelChars labels ++ ['\x7d'])

lemma labelChars_cons (l : String × String) (labels : List (String × String)) :
    labelChars (l :: labels) = l.1.toList ++ '=' :: (l.2.toList ++ moreLabelChars labels) := by
  cases labels <;> simp [labelChars, moreLabelChars]

lemma toList_renderKey (path : String) (labels : List (String × String)) :
    (renderKey path labels).toList = path.toList ++ braceChars labels := by
  cases labels <;> simp [renderKey, braceChars, labelChars]

lemma head_moreLabelChars (labels : List (String × String)) :
    ∀ c ∈ (moreLabelChars labels).head?, c = ',' := by
  cases labels <;> simp [moreLabelChars]

lemma head_braceChars (labels : List (String × String)) :
    ∀ c ∈ (braceChars labels).head?, c = '\x7b' := by
  cases labels <;> simp [braceChars]

lemma moreLabelChars_ne_nil : moreLabelChars labels ≠ [] ↔ labels ≠ [] := by
  cases labels <;> simp [moreLabelChars]

lemma braceChars_ne_nil : braceChars labels ≠ [] ↔ labels ≠ [] := by
  cases labels <;> simp [braceChars]

/-- Labels that are written in the same way are the same unless they clash. -/
lemma labelsClash_or_eq (h : moreLabelChars labels = moreLabelChars labels') :
    LabelsClash labels labels' ∨ labels = labels' := by
  induction labels generalizing labels' with
  | nil =>
    cases labels' with
    | nil => exact .inr rfl
    | cons l' labels' => cases h
  | cons l labels ih =>
    cases labels' with
    | nil => cases h
    | cons l' labels' =>
      obtain ⟨name, value⟩ := l
      obtain ⟨name', value'⟩ := l'
      have written := (List.cons.inj h).2
      rw [labelChars_cons, labelChars_cons] at written
      have sign (rest : List Char) : ∀ c ∈ ('=' :: rest).head?, c = '=' := by simp
      rcases swallows_or_eq (sign _) (sign _) written with (clash | clash) | ⟨rfl, values⟩
      · exact .inl (.inl (.inl clash.2))
      · exact .inl (.inl (.inr clash.2))
      have later := swallows_or_eq (head_moreLabelChars labels) (head_moreLabelChars labels')
        (List.cons.inj values).2
      rw [moreLabelChars_ne_nil, moreLabelChars_ne_nil] at later
      rcases later with clash | ⟨rfl, later⟩
      · exact .inl (.inr ⟨rfl, .inl clash⟩)
      rcases ih later with clash | rfl
      · exact .inl (.inr ⟨rfl, .inr ⟨rfl, clash⟩⟩)
      · exact .inr rfl

lemma moreLabelChars_of_braceChars (h : braceChars labels = braceChars labels') :
    moreLabelChars labels = moreLabelChars labels' := by
  cases labels with
  | nil =>
    cases labels' with
    | nil => rfl
    | cons l' labels' => cases h
  | cons l labels =>
    cases labels' with
    | nil => cases h
    | cons l' labels' =>
      exact congrArg (',' :: ·) (List.append_cancel_right (List.cons.inj h).2)

/-- Stats with the same key are the same unless they clash. -/
lemma Series.clash_or_eq (h : s.key = s'.key) : s.Clash s' ∨ s = s' := by
  obtain ⟨path, labels⟩ := s
  obtain ⟨path', labels'⟩ := s'
  have written : path.toList ++ braceChars labels = path'.toList ++ braceChars labels' := by
    rw [← toList_renderKey, ← toList_renderKey]
    exact congrArg String.toList h
  have paths := swallows_or_eq (head_braceChars labels) (head_braceChars labels') written
  rw [braceChars_ne_nil, braceChars_ne_nil] at paths
  rcases paths with clash | ⟨rfl, braces⟩
  · exact .inl (.inl clash)
  rcases labelsClash_or_eq (moreLabelChars_of_braceChars braces) with clash | rfl
  · exact .inl (.inr ⟨rfl, clash⟩)
  · exact .inr rfl

/-! ### What a call changes -/

/-- What is recorded after a call, whether it returns or panics. -/
def Store.leftBy (store : Store) (c : Call) : Store :=
  match c.update with
  | .count n    => store.count c.handle.stat n
  | .set value  => store.setGauge c.handle.stat value
  | .raise n    => store.moveGauge c.handle.stat n
  | .lower n    => store.moveGauge c.handle.stat (-n)
  | .time delta => (store.time c.handle.stat delta).2

/-- What is read under one key, for each kind of stat. -/
structure Held where
  counter : Option Int
  gauge : Option Int
  timing : Option TimingSummary
deriving DecidableEq

def Store.heldUnder (store : Store) (key : String) : Held where
  counter := store.counters.get? key
  gauge := store.gauges.get? key
  timing := store.timings.get? key

/-- A call on a stat leaves what is held under other keys as it is. -/
lemma Store.heldUnder_leftBy {store : Store} {c : Call} {key : String}
    (other : c.handle.stat ≠ .recorded key) :
    (store.leftBy c).heldUnder key = store.heldUnder key := by
  obtain ⟨handle, update⟩ := c
  cases hs : handle.stat with
  | discarded => cases update <;> simp [leftBy, heldUnder, hs, count, setGauge, moveGauge, time]
  | recorded key' =>
    have apart : key ≠ key' := by
      rintro rfl
      exact other hs
    cases update with
    | time delta => simp [leftBy, heldUnder, hs, time_cases, apart]
    | _ => simp [leftBy, heldUnder, hs, count, setGauge, moveGauge, Dict.upsert, apart]

/-! ### Stats apart -/

/-- Two stats that differ in their path or in their labels have different keys unless they clash, and
then no call on one of them, whether it returns or panics, changes what is read of the other. Stats
with legible texts do not clash. -/
theorem apart_unless_clash {h h' : Handle} (hs : h.series? = some s) (hs' : h'.series? = some s')
    (differ : s ≠ s') :
    (s.Legible → s'.Legible → ¬s.Clash s') ∧
      (¬s.Clash s' → h.stat ≠ h'.stat ∧ s.key ≠ s'.key ∧ ∀ (store : Store) (update : Update),
        (store.leftBy ⟨h, update⟩).heldUnder s'.key = store.heldUnder s'.key) := by
  refine ⟨fun legible legible' => legible.not_clash legible', fun apart => ?_⟩
  have keys : s.key ≠ s'.key := fun same => (Series.clash_or_eq same).elim apart differ
  have stat : h.stat ≠ .recorded s'.key := by
    rw [h.stat_of_series hs]
    exact fun same => keys (Stat.recorded.inj same)
  refine ⟨?_, keys, fun store update => Store.heldUnder_leftBy stat⟩
  rwa [h'.stat_of_series hs']

/-- Two stats of a family with separators in their values that are not written behind values, and two
plain ones, of which no path is followed by a separator. -/
theorem apart_unless_clash_brackets :
    (¬Series.Clash ⟨"lane", [("id", "=0"), ("of", "\x7bp\x7d")]⟩
          ⟨"lane", [("id", "="), ("of", "0\x7d")]⟩ ∧
        ∀ store : Store, (store.leftBy ⟨.bound "lane" ["id", "of"] ["=0", "\x7bp\x7d"],
            .count 2⟩).heldUnder "lane\x7bid==,of=0\x7d\x7d" =
          store.heldUnder "lane\x7bid==,of=0\x7d\x7d") ∧
      Handle.stat (.plain "lane") ≠ .plain "lane\x7bid=0\x7d" := by
  have family := apart_unless_clash
    (show Handle.series? (.bound "lane" ["id", "of"] ["=0", "\x7bp\x7d"]) = some _ from rfl)
    (show Handle.series? (.bound "lane" ["id", "of"] ["=", "0\x7d"]) = some _ from rfl) (by decide)
  have apart := family.1 ⟨by decide, by decide, by decide⟩ ⟨by decide, by decide, by decide⟩
  have plain := apart_unless_clash
    (show Handle.series? (.plain "lane") = some _ from rfl)
    (show Handle.series? (.plain "lane\x7bid=0\x7d") = some _ from rfl) (by decide)
  exact ⟨⟨apart, fun store => (family.2 apart).2.2 store (.count 2)⟩, (plain.2 (by decide)).1⟩

/-- For each separator there are different stats with one key, of which one text swallows another one.
What is counted on a stat is then read of the other. -/
theorem shared_keys :
    (Handle.series? (.plain "a\x7bn=1\x7d") = some ⟨"a\x7bn=1\x7d", []⟩ ∧
        Handle.series? (.bound "a" ["n"] ["1"]) = some ⟨"a", [("n", "1")]⟩ ∧
        (⟨"a\x7bn=1\x7d", []⟩ : Series) ≠ ⟨"a", [("n", "1")]⟩ ∧
        Series.key ⟨"a\x7bn=1\x7d", []⟩ = "a\x7bn=1\x7d" ∧
        Series.key ⟨"a", [("n", "1")]⟩ = "a\x7bn=1\x7d" ∧
        (Store.heldUnder {} "a\x7bn=1\x7d").counter = none ∧
        ((Store.leftBy {} ⟨.bound "a" ["n"] ["1"], .count 5⟩).heldUnder
          "a\x7bn=1\x7d").counter = some 5) ∧
      Series.key ⟨"a", [("n", "=1")]⟩ = Series.key ⟨"a", [("n=", "1")]⟩ ∧
      Series.key ⟨"a", [("m", "1,n=2")]⟩ = Series.key ⟨"a", [("m", "1"), ("n", "2")]⟩ := by
  decide +kernel

end Conveyor.Metrics
