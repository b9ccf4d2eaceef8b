import Conveyor.Proofs.Pool.Making

/-!
# The numbers of lanes

Lanes are known by numbers. Before a pool is bound it makes lanes under the numbers that follow each
other, up to the first one that fails (`Pool.growIdle_numbers`), and so does a bound pool
(`Pool.Grows.numbers`), except that it starts each lane before it makes the next one. Retiring
lanes takes them off the end of the list of those that are held (`Dispatcher.roster_shrink`).
-/

namespace Conveyor

variable {σ P : Type}

/-- A list with one entry replaced does not look different if the new entry looks like the old one. -/
lemma map_set_of_eq {α β : Type} {l : List α} {i : Nat} {a a' : α} (h : l[i]? = some a)
    {f : α → β} (same : f a' = f a) : (l.set i a').map f = l.map f := by
  induction l generalizing i with
  | nil => rfl
  | cons first l ih =>
    cases i with
    | zero =>
      cases h
      rw [List.set_cons_zero, List.map_cons, List.map_cons, same]
    | succ i => rw [List.set_cons_succ, List.map_cons, List.map_cons, ih h]

/-! ### Lanes under their numbers -/

lemma Lane.index_relay [Pipeline σ P] {lane lane' : Lane P} {s s' : Surroundings}
    (h : lane.relay s = some (lane', s')) : lane'.index = lane.index := by
  unfold relay at h
  split at h
  next => cases h
  next =>
    repeat' split at h
    all_goals cases h
    all_goals rfl

namespace Dispatcher

variable {d : Dispatcher P}

/-- The lanes in use, under their numbers. -/
def roster (d : Dispatcher P) : List (Nat × P) := d.inUse.map fun l => (l.1.index, l.1.pipeline)

/-- The numbers of all lanes that were started, with the note whether they are retired. -/
def tags (d : Dispatcher P) : List (Nat × Bool) := d.lanes.map fun lane => (lane.index, lane.retired)

lemma numbers_roster (d : Dispatcher P) :
    d.roster.map Prod.fst = (d.tags.filter fun tag => !tag.2).map Prod.fst := by
  have used : (d.lanes.filter fun lane => !lane.retired) = d.inUse.map Prod.fst := by
    conv_lhs => rw [← List.zipIdx_map_fst 0 d.lanes, List.filter_map]
    rfl
  rw [roster, tags, List.filter_map, List.map_map, List.map_map]
  change _ = (d.lanes.filter fun lane => !lane.retired).map _
  rw [used, List.map_map]
  rfl

/-- As long as no lane is retired all lanes that were started are in use. -/
lemma numbers_of_used (used : ∀ lane ∈ d.lanes, lane.retired = false) :
    d.roster.map Prod.fst = d.lanes.map Lane.index := by
  rw [numbers_roster, tags, List.filter_map, List.filter_eq_self.mpr (by simpa using used),
    List.map_map]
  rfl

/-- A change inside one lane leaves the numbers of all lanes as they are. -/
lemma tags_set {i : Nat} {lane lane' : Lane P} (hl : d.lanes[i]? = some lane)
    (index : lane'.index = lane.index) (retired : lane'.retired = lane.retired) :
    ({ d with lanes := d.lanes.set i lane' } : Dispatcher P).tags = d.tags :=
  map_set_of_eq hl (by rw [index, retired])

variable [Pipeline σ P]

/-- Shrinking keeps the first lanes in use, as they are. -/
lemma roster_shrink (d : Dispatcher P) (n : Nat) (metrics : Metrics.Store) :
    (d.shrink n metrics).1.roster = d.roster.take n := by
  rw [roster, inUse_shrink, List.map_take, roster]

/-- A lane that is retired keeps its number. -/
lemma started_shrink (d : Dispatcher P) (n : Nat) (metrics : Metrics.Store) :
    (d.shrink n metrics).1.tags.map Prod.fst = d.tags.map Prod.fst := by
  unfold shrink
  generalize (d.inUse.drop n).reverse = ls
  induction ls generalizing d metrics with
  | nil => rfl
  | cons l ls ih =>
    rw [List.foldl_cons, ih]
    unfold retireAt
    split
    next => rfl
    next lane hl =>
      rw [tags, tags, List.map_map, List.map_map]
      exact map_set_of_eq hl rfl

/-- Lanes that are started join the others at the end. -/
lemma roster_append (d : Dispatcher P) {new : List (Lane P)} {strays : List P}
    (used : ∀ lane ∈ new, lane.retired = false) :
    ({ d with lanes := d.lanes ++ new, strays } : Dispatcher P).roster =
      d.roster ++ new.map fun lane => (lane.index, lane.pipeline) := by
  rw [roster, inUse_append d used, List.map_append, roster]
  congr 1
  conv_rhs => rw [← List.zipIdx_map_fst d.lanes.length new, List.map_map]
  rfl

end Dispatcher

/-! ### Lanes that are made -/

namespace Pool

variable {pool pool' : Pool P} {d d' : Dispatcher P} {metrics metrics' : Metrics.Store}
  {result : Except PipelineError Unit}

/-- The numbers under which lanes can be made in a row from a number on, at which the constructor was
called a number of times in vain, `count` at most, and what comes of it. -/
def makes (construct : Nat → Nat → LaneBuild P) :
    (count attempt next : Nat) → List Nat × Except PipelineError Unit
  | 0, _, _ => ([], .ok ())
  | count + 1, attempt, next =>
    match (construct attempt next).lane with
    | .error e => ([], .error e)
    | .ok _ =>
      let (numbers, result) := makes construct count 0 (next + 1)
      (next :: numbers, result)

lemma makes_numbers (construct : Nat → Nat → LaneBuild P) (count attempt next : Nat) :
    (makes construct count attempt next).1 =
      List.range' next (makes construct count attempt next).1.length := by
  induction count generalizing attempt next with
  | zero => rfl
  | succ count ih =>
    rw [makes]
    split
    next => rfl
    next =>
      dsimp only
      rw [List.length_cons, List.range'_succ, ← ih]

variable [Pipeline σ P]

/-- A pool that is not bound yet grows by the lanes that can be made in a row. -/
lemma growIdle_numbers {lanes : List (Nat × P)} {count : Nat}
    (h : pool.growIdle lanes metrics count = (result, pool', metrics')) :
    ∃ more attempt, pool' = { pool with
        state := .idle (lanes ++ more), nextIndex := pool.nextIndex + more.length, attempt } ∧
      (more.map Prod.fst, result) = makes pool.construct count pool.attempt pool.nextIndex ∧
      (result = .ok () → more.length = count) := by
  induction count generalizing pool lanes metrics with
  | zero =>
    cases h
    exact ⟨[], pool.attempt, by simp, rfl, fun _ => rfl⟩
  | succ count ih =>
    simp only [growIdle] at h
    split at h
    next e he =>
      cases h
      exact ⟨[], pool.attempt + 1, by simp, by simp [makes, he], by simp⟩
    next lane hl =>
      obtain ⟨more, attempt, rfl, same, all⟩ := ih h
      refine ⟨(pool.nextIndex, lane) :: more, attempt, ?_, ?_, fun ok => by simp [all ok]⟩
      · simp [Nat.add_comm, Nat.add_left_comm]
      · simp [makes, hl, ← same]

/-- The numbers of the lanes that a bound pool makes when it grows. A lane that cannot be started was
made all the same. -/
def madeRunning (pool : Pool P) (d : Dispatcher P) : (count : Nat) → List Nat
  | 0 => []
  | count + 1 =>
    match (pool.construct pool.attempt pool.nextIndex).lane with
    | .error _ => []
    | .ok lane =>
      pool.nextIndex ::
        match d.startLane pool.laneBuffer pool.nextIndex lane with
        | (.error _, _) => []
        | (.ok (), d)   =>
          madeRunning { pool with nextIndex := pool.nextIndex + 1, attempt := 0 } d count

/-- A bound pool grows by lanes that it makes, and takes a new number for each. -/
lemma Grows.numbers {count : Nat} (h : Grows pool d metrics count result pool' d' metrics') :
    (∃ new strays, d' = { d with lanes := d.lanes ++ new, strays } ∧
      (∀ lane ∈ new, lane.retired = false) ∧
      new.map Lane.index <+: pool.madeRunning d count ∧
      (result = .ok () → new.length = count)) ∧
    ∃ k attempt made, pool' = { pool with nextIndex := pool.nextIndex + k, attempt } ∧ made ≤ k ∧
      pool.madeRunning d count = List.range' pool.nextIndex made := by
  induction h with
  | enough pool d =>
    exact ⟨⟨[], d.strays, by simp, by simp, List.nil_prefix, fun _ => rfl⟩, 0, _, 0, rfl, le_rfl, rfl⟩
  | failed pool d _ failed =>
    refine ⟨⟨[], d.strays, by simp, by simp, List.nil_prefix, by simp⟩, 1, 0, 0, rfl, Nat.zero_le 1, ?_⟩
    rw [madeRunning, failed]
    rfl
  | refused strays made hl =>
    refine ⟨⟨[], strays, by simp, by simp, List.nil_prefix, by simp⟩, 1, 0, 1, rfl, le_rfl, ?_⟩
    simp only [madeRunning, made, hl]
    rfl
  | joined lane made started _ ih =>
    obtain ⟨⟨new, strays, rfl, used, numbers, all⟩, k, attempt, count, rfl, le, hmade⟩ := ih
    have index : lane.index = _ := started.index
    simp only [madeRunning, made, Dispatcher.startLane_of_startedFrom started]
    refine ⟨⟨lane :: new, strays, by simp, ?_, ?_, fun ok => by simp [all ok]⟩, k + 1, attempt,
      count + 1, by simp [Nat.add_assoc, Nat.add_comm 1], Nat.succ_le_succ le, ?_⟩
    · exact List.forall_mem_cons.mpr ⟨started.used, used⟩
    · rw [List.map_cons, index]
      exact List.cons_prefix_cons.mpr ⟨rfl, numbers⟩
    · rw [hmade, List.range'_succ]

/-- What handling a request does to the lanes. -/
lemma resizeRunning_numbers {n : Nat}
    (h : pool.resizeRunning d n metrics = (result, pool', d', metrics')) :
    ∃ k added, d'.roster = d.roster.take k ++ added ∧
      d'.tags.map Prod.fst = d.tags.map Prod.fst ++ added.map Prod.fst ∧
      added.map Prod.fst <+: pool.madeRunning d (n - d.size) ∧
      (∃ m, pool.madeRunning d (n - d.size) = List.range' pool.nextIndex m ∧
        pool.nextIndex + m ≤ pool'.nextIndex) ∧
      (result = .ok () → k = n ∧ d'.roster.length = n) := by
  have size : d.roster.length = d.size := by rw [Dispatcher.roster, List.length_map, Dispatcher.size]
  have whole {k : Nat} (hk : d.size ≤ k) : d.roster.take k = d.roster :=
    List.take_of_length_le (size.trans_le hk)
  cases Resizes.of_resizeRunning h with
  | invalid hn =>
    refine ⟨d.size, [], by simp [whole le_rfl], by simp, List.nil_prefix, ⟨0, ?_, le_rfl⟩,
      by simp⟩
    rw [hn, Nat.zero_sub, madeRunning]
    rfl
  | grown _ fewer grows =>
    obtain ⟨⟨new, strays, rfl, used, hnew, all⟩, k, attempt, count, rfl, le, hmade⟩ := grows.numbers
    have names : (new.map fun lane => (lane.index, lane.pipeline)).map Prod.fst =
        new.map Lane.index := by
      rw [List.map_map]
      rfl
    have roster : Dispatcher.roster { d with lanes := d.lanes ++ new, strays } = _ :=
      d.roster_append used
    refine ⟨n, _, by rw [roster, whole fewer.le], ?_, names ▸ hnew,
      ⟨count, hmade, Nat.add_le_add_left le _⟩, fun ok => ⟨rfl, ?_⟩⟩
    · rw [names, Dispatcher.tags, Dispatcher.tags, List.map_append, List.map_append,
        List.map_map (l := new)]
      rfl
    · rw [roster, List.length_append, List.length_map, size, all ok]
      omega
  | shrunk _ enough hs =>
    have roster := d.roster_shrink n metrics
    have started := d.started_shrink n metrics
    rw [hs] at roster started
    refine ⟨n, [], by rw [roster, List.append_nil], by rw [started, List.map_nil, List.append_nil],
      List.nil_prefix, ⟨0, ?_, le_rfl⟩, fun _ => ⟨rfl, ?_⟩⟩
    · rw [Nat.sub_eq_zero_of_le enough, madeRunning]
      rfl
    · rw [roster, List.length_take, size]
      exact Nat.min_eq_left enough

/-- Binding starts the lanes that are held, or the first ones of them. -/
lemma startLanes_numbers {laneBuffer : Nat} {lanes : List (Nat × P)}
    (h : startLanes laneBuffer d lanes = (result, d')) :
    ∃ new strays, d' = { d with lanes := d.lanes ++ new, strays } ∧
      (∀ lane ∈ new, lane.retired = false) ∧ new.map Lane.index <+: lanes.map Prod.fst ∧
      (result = .ok () → new.map Lane.index = lanes.map Prod.fst) := by
  induction lanes generalizing d with
  | nil =>
    cases h
    exact ⟨[], d'.strays, by simp, by simp, List.prefix_rfl, fun _ => rfl⟩
  | cons l lanes ih =>
    simp only [startLanes] at h
    split at h
    next hl =>
      cases h
      obtain ⟨e, strays, -, rfl⟩ | ⟨lane, hok, -⟩ := Dispatcher.startLane_cases hl
      · exact ⟨[], strays, by simp, by simp, List.nil_prefix, by simp⟩
      · cases hok
    next hl =>
      obtain ⟨e, strays, herror, -⟩ | ⟨lane, -, started, rfl⟩ := Dispatcher.startLane_cases hl
      · cases herror
      · obtain ⟨new, strays, rfl, used, numbers, all⟩ := ih h
        have index : lane.index = l.1 := started.index
        refine ⟨lane :: new, strays, by simp, List.forall_mem_cons.mpr ⟨started.used, used⟩, ?_, ?_⟩
        · rw [List.map_cons, List.map_cons, index]
          exact List.cons_prefix_cons.mpr ⟨rfl, numbers⟩
        · intro ok
          rw [List.map_cons, List.map_cons, index, all ok]

end Pool

end Conveyor
