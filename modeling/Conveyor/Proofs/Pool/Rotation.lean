import Conveyor.Proofs.Pool.Making
import Conveyor.Proofs.Runs
import Conveyor.Proofs.Stage
import Mathlib.Data.List.Rotate

/-!
# Whose turn it is

A dispatcher tries the lanes in cyclic order, from the one after the lane that it served last. So
while the number of lanes stays as it is, a lane that has room whenever one is chosen is passed over
for less than one round: each time another lane is served, fewer lanes are tried before this one
(`Choice.idxOf_next_lt`). This holds for lanes of any kind, for any way in which they have room or
not, and wherever the search starts, also beyond the last lane (`Rota.bounded_bypass`).
-/

namespace Conveyor

variable {σ P : Type} [Pipeline σ P]

/-! ### The order of the lanes -/

lemma cyclicFrom_eq_rotate (n cursor : Nat) :
    cyclicFrom n cursor = (List.range n).rotate cursor := by
  rw [cyclicFrom, List.rotate_eq_drop_append_take_mod, List.length_range]

/-- The search over positions is one over the list that starts at the cursor. -/
lemma find?_cyclicFrom {α : Type} {l : List α} {p : α → Bool} {cursor position : Nat}
    (h : (cyclicFrom l.length cursor).find? (fun i => (l[i]?).any p) = some position) :
    ∃ x, l[position]? = some x ∧ (l.rotate cursor).find? p = some x := by
  rw [cyclicFrom_eq_rotate] at h
  -- both lists are tried at the same positions
  have same {k : Nat} (hk : k < ((List.range l.length).rotate cursor).length) :
      l[((List.range l.length).rotate cursor)[k]]? = (l.rotate cursor)[k]? := by
    rw [List.length_rotate, List.length_range] at hk
    rw [List.getElem?_rotate hk, List.getElem_rotate, List.getElem_range, List.length_range]
  obtain ⟨found, k, hk, rfl, before⟩ := List.find?_eq_some_iff_getElem.mp h
  rw [same hk] at found ⊢
  have hk' : k < (l.rotate cursor).length := by simpa using hk
  rw [List.getElem?_eq_getElem hk'] at found ⊢
  refine ⟨_, rfl, List.find?_eq_some_iff_getElem.mpr ⟨found, k, hk', rfl, fun j hj => ?_⟩⟩
  have room := before j hj
  rw [same (hj.trans hk), List.getElem?_eq_getElem (hj.trans hk')] at room
  exact room

/-- What the dispatcher sees when it chooses a lane. Lanes are known by their positions among all
lanes that were started. -/
structure Choice where
  /-- The lanes in use, in their order. -/
  lanes : List Nat
  /-- Those of them that have room. -/
  free : List Nat
  cursor : Nat
  distinct : lanes.Nodup
  used : ∀ lane ∈ free, lane ∈ lanes

namespace Choice

instance : Inhabited Choice := ⟨[], [], 0, .nil, fun _ h => h⟩

/-- The lanes in the order in which they are tried. -/
def order (c : Choice) : List Nat := c.lanes.rotate c.cursor

/-- Whether this is the first lane with room. -/
def Picks (c : Choice) (lane : Nat) : Prop := c.order.find? (· ∈ c.free) = some lane

instance (c : Choice) (lane : Nat) : Decidable (c.Picks lane) := inferInstanceAs (Decidable (_ = _))

/-- Whether a choice is the next one after this lane was served: the lanes are the same, and the
search starts after this one. -/
def Precedes (c : Choice) (lane : Nat) (next : Choice) : Prop :=
  next.lanes = c.lanes ∧ ∃ position, c.lanes[position]? = some lane ∧ next.cursor = position + 1

variable {c next : Choice} {lane target : Nat}

lemma mem_order : lane ∈ c.order ↔ lane ∈ c.lanes := List.mem_rotate

lemma Picks.mem_lanes (h : c.Picks lane) : lane ∈ c.lanes :=
  mem_order.mp (List.mem_of_find?_eq_some h)

/-- Before a lane that was served is tried again, all others are. -/
lemma Precedes.order_eq (h : c.Precedes lane next) {before after : List Nat}
    (ho : c.order = before ++ lane :: after) : next.order = after ++ (before ++ [lane]) := by
  obtain ⟨lanes, position, served, cursor⟩ := h
  have length : c.lanes.length = before.length + (after.length + 1) := by
    rw [← List.length_rotate c.lanes c.cursor, ← order, ho, List.length_append, List.length_cons]
  have tried : c.lanes[(before.length + c.cursor) % c.lanes.length]? = some lane := by
    rw [← List.getElem?_rotate (by omega), ← order, ho]
    simp
  have inside : position < c.lanes.length := (List.getElem?_eq_some_iff.mp served).1
  obtain rfl : position = (before.length + c.cursor) % c.lanes.length :=
    (List.getElem?_inj inside c.distinct).mp (served.trans tried.symm)
  calc next.order
    _ = (c.lanes.rotate ((before.length + c.cursor) % c.lanes.length)).rotate 1 := by
      rw [order, lanes, cursor, List.rotate_rotate]
    _ = ((c.order).rotate before.length).rotate 1 := by
      rw [List.rotate_mod, order, List.rotate_rotate _ c.cursor, Nat.add_comm before.length]
    _ = after ++ (before ++ [lane]) := by
      rw [ho, List.rotate_append_length_eq, List.cons_append, List.rotate_cons_succ,
        List.rotate_zero, List.append_assoc]

/-- If another lane was served, then fewer lanes will be tried before a lane that has room. -/
lemma idxOf_next_lt (picks : c.Picks lane) (h : c.Precedes lane next) (room : target ∈ c.free)
    (other : lane ≠ target) : next.order.idxOf target < c.order.idxOf target := by
  obtain ⟨-, before, after, ho, full⟩ := List.find?_eq_some_iff_append.mp picks
  have passed : target ∉ before := fun hmem => by simpa [room] using full target hmem
  have waits : target ∈ after := by
    have tried : target ∈ c.order := mem_order.mpr (c.used target room)
    rw [ho, List.mem_append, List.mem_cons] at tried
    exact (tried.resolve_left passed).resolve_left other.symm
  rw [h.order_eq ho, ho, List.idxOf_append_of_mem waits, List.idxOf_append_of_notMem passed,
    List.idxOf_cons_ne _ other]
  omega

end Choice

/-! ### The record -/

/-- A transaction that was handed to a lane, and the choice of this lane. -/
structure Handing where
  choice : Choice
  lane : Nat
  transaction : Transaction

/-- What is noted of the moves of a dispatcher. -/
inductive Rota.Entry where
  | handed (h : Handing)
  /-- The number of lanes was asked to be changed. -/
  | resized

def Rota.Entry.handing? : Rota.Entry → Option Handing
  | .handed h => some h
  | .resized  => none

lemma Rota.Entry.handing?_eq_some {entry : Rota.Entry} {h : Handing} :
    entry.handing? = some h ↔ entry = .handed h := by
  cases entry <;> simp [handing?]

/-- Between two transactions that are handed over one after the other, nothing but the cursor
changes. -/
def Rota.Entry.Precedes : Rota.Entry → Rota.Entry → Prop
  | .handed h, .handed next => h.choice.Precedes h.lane next.choice
  | _, _                    => True

/-- A lane that has room at each choice is served at the latest when all lanes that are tried before
it at the first choice had their turn. -/
lemma exists_served {first : Handing} {later : List Handing} {target : Nat}
    (chain : ((first :: later).map Rota.Entry.handed).IsChain Rota.Entry.Precedes)
    (picks : ∀ h ∈ first :: later, h.choice.Picks h.lane)
    (room : ∀ h ∈ first :: later, target ∈ h.choice.free)
    (near : first.choice.order.idxOf target ≤ later.length) :
    ∃ h ∈ first :: later, h.lane = target := by
  induction later generalizing first with
  | nil =>
    refine ⟨first, List.mem_singleton_self first, ?_⟩
    by_contra other
    have picked := picks first (List.mem_singleton_self first)
    obtain ⟨position, served⟩ := List.mem_iff_getElem?.mp picked.mem_lanes
    have precedes : first.choice.Precedes first.lane
        { first.choice with cursor := position + 1 } := ⟨rfl, position, served, rfl⟩
    have closer := Choice.idxOf_next_lt picked precedes
      (room first (List.mem_singleton_self first)) other
    exact Nat.not_lt_zero _ (lt_of_lt_of_le closer near)
  | cons next later ih =>
    by_cases same : first.lane = target
    · exact ⟨first, List.mem_cons_self, same⟩
    · obtain ⟨precedes, chain⟩ := List.isChain_cons_cons.mp chain
      have closer := Choice.idxOf_next_lt (picks first List.mem_cons_self) precedes
        (room first List.mem_cons_self) same
      obtain ⟨h, hmem, served⟩ := ih chain (fun h hmem => picks h (List.mem_cons_of_mem _ hmem))
        (fun h hmem => room h (List.mem_cons_of_mem _ hmem)) (by simp at near; omega)
      exact ⟨h, List.mem_cons_of_mem _ hmem, served⟩

lemma lanes_eq {first h : Handing} {later : List Handing}
    (chain : ((first :: later).map Rota.Entry.handed).IsChain Rota.Entry.Precedes)
    (hmem : h ∈ later) : h.choice.lanes = first.choice.lanes := by
  induction later generalizing first with
  | nil => cases hmem
  | cons next later ih =>
    obtain ⟨precedes, chain⟩ := List.isChain_cons_cons.mp chain
    have same : next.choice.lanes = first.choice.lanes := precedes.1
    rcases List.mem_cons.mp hmem with rfl | hmem
    · exact same
    · exact (ih chain hmem).trans same

/-- What the dispatcher sees when it looks for a lane. -/
def Dispatcher.glance (d : Dispatcher P) : Choice where
  lanes := d.places
  free := (d.inUse.filter fun l => l.1.queue.hasRoom).map Prod.snd
  cursor := d.cursor
  distinct := d.nodup_inUse
  used := (List.filter_sublist.map Prod.snd).subset

/-- What the dispatcher saw when it chose a lane last, after it has moved. -/
def Dispatcher.choiceAfter (d : Dispatcher P) (last : Choice) : Choice :=
  match d.slot with
  | .reserved _ _ => last
  | _             => d.glance

/-- What is noted of a move of the dispatcher. A transaction for which a lane was found is in the lane
if the dispatcher does not have it any more. -/
def Dispatcher.noted (d d' : Dispatcher P) (choice : Choice) : List Rota.Entry :=
  if d'.requests ≠ d.requests then [.resized]
  else
    match d.slot, d'.slot with
    | .reserved t position, .empty =>
      (d.places[position]?).toList.map fun lane => .handed ⟨choice, lane, t⟩
    | _, _ => []

/-- A pool in any surroundings, and what is noted of its dispatcher. -/
structure Rota (P : Type) where
  pool : Pool P
  around : Surroundings
  /-- What the dispatcher saw when it chose a lane last. -/
  choice : Choice := default
  record : List Rota.Entry := []

namespace Rota

/-- What can go on at a pool: one of its actors moves, what lies around it changes, something is done
to the pipeline of a lane from outside, or the owner asks for a number of lanes, for a shutdown or for
the output. -/
inductive Event (P : Type) where
  | move (actor : Actor)
  | around (s : Surroundings)
  | inside (lane : Nat) (pipeline : P)
  | setSize (ticket n : Nat)
  | close
  | takeOutput

/-- The state after an event, if the event can take place. -/
def step (process : Behaviour σ) (rota : Rota P) : Event P → Option (Rota P)
  | .move actor =>
    (rota.pool.step process actor rota.around).map fun (pool, around) =>
      match actor, rota.pool.dispatcher?, pool.dispatcher? with
      | .dispatcher, some d, some d' =>
        { pool, around, choice := d.choiceAfter rota.choice
          record := rota.record ++ d.noted d' rota.choice }
      | _, _, _ => { rota with pool, around }
  | .around s => some { rota with around := s }
  | .inside i pipeline =>
    rota.pool.dispatcher?.bind fun d =>
      d.lanes[i]?.map fun lane =>
        let lanes := d.lanes.set i { lane with pipeline }
        { rota with pool := rota.pool.withDispatcher { d with lanes } }
  | .setSize ticket n =>
    let (_, pool, metrics) := rota.pool.setSize ticket n rota.around.metrics
    some { rota with pool, around := { rota.around with metrics } }
  | .close =>
    let (pool, metrics) := rota.pool.close rota.around.metrics
    some { rota with pool, around := { rota.around with metrics } }
  | .takeOutput => some { rota with pool := { rota.pool with outputTaken := true } }

def run (process : Behaviour σ) (rota : Rota P) (events : List (Event P)) : Option (Rota P) :=
  runFrom (step process) rota events

/-- A pool that was bound, with any lanes and any cursor, whose dispatcher is not about to hand a
transaction over. -/
structure Opening (rota : Rota P) : Prop where
  bound : ∃ d, rota.pool.state = .running d ∧ ∀ t position, d.slot ≠ .reserved t position
  record : rota.record = []

end Rota

/-! ### The dispatcher -/

namespace Dispatcher

variable {d d' : Dispatcher P} {t : Transaction} {position : Nat} {choice choice' : Choice}
  {record : List Rota.Entry}

lemma mem_free {l : Lane P × Nat} (hl : l ∈ d.inUse) :
    l.2 ∈ d.glance.free ↔ l.1.queue.hasRoom = true := by
  constructor
  · intro free
    obtain ⟨other, hother, same⟩ := List.mem_map.mp free
    obtain ⟨hmem, room⟩ := List.mem_filter.mp hother
    obtain rfl : other = l := List.inj_on_of_nodup_map d.nodup_inUse hmem hl same
    exact room
  · intro room
    exact List.mem_map_of_mem (List.mem_filter.mpr ⟨hl, room⟩)

/-- The lane that is found is the first one with room. -/
lemma picks_of_found
    (h : reserveLane (d.inUse.map fun l => l.1.queue) d.cursor = .found position) :
    ∃ lane, d.places[position]? = some lane ∧ d.glance.Picks lane := by
  have found : (cyclicFrom d.inUse.length d.cursor).find?
      (fun i => (d.inUse[i]?).any fun l => l.1.queue.hasRoom) = some position := by
    simp only [reserveLane, List.length_map, List.getElem?_map, Option.any_map] at h
    split at h
    next found =>
      cases h
      exact found
    next => split at h <;> cases h
  obtain ⟨l, hl, first⟩ := find?_cyclicFrom found
  obtain ⟨room, before, after, ho, full⟩ := List.find?_eq_some_iff_append.mp first
  have used {other : Lane P × Nat} (h : other ∈ before ++ l :: after) : other ∈ d.inUse :=
    List.mem_rotate.mp (ho ▸ h)
  refine ⟨l.2, by rw [places, List.getElem?_map, hl]; rfl, ?_⟩
  refine List.find?_eq_some_iff_append.mpr ⟨?_, before.map Prod.snd, after.map Prod.snd, ?_, ?_⟩
  · exact decide_eq_true ((mem_free (used (by simp))).mpr room)
  · show (d.inUse.map Prod.snd).rotate d.cursor = _
    rw [← List.map_rotate, ho, List.map_append, List.map_cons]
  · intro i hi
    obtain ⟨other, hother, rfl⟩ := List.mem_map.mp hi
    have noRoom := full other hother
    simpa [mem_free (used (List.mem_append_left _ hother))] using noRoom

/-- What holds of a dispatcher and of what is noted of it. -/
structure Rotates (d : Dispatcher P) (choice : Choice) (record : List Rota.Entry) : Prop where
  /-- Each transaction was handed to the first lane with room. -/
  picks : ∀ h, .handed h ∈ record → h.choice.Picks h.lane
  chain : record.IsChain Rota.Entry.Precedes
  /-- The search for a lane starts after the one that was served last. -/
  last : d.phase = .serving → ∀ h, record.getLast? = some (.handed h) →
    h.choice.Precedes h.lane d.glance
  /-- As long as a lane is reserved, nothing changes for the dispatcher. -/
  reserved : d.phase = .serving → ∀ t position, d.slot = .reserved t position →
    choice.lanes = d.places ∧ choice.cursor = d.cursor ∧
      ∃ lane, d.places[position]? = some lane ∧ choice.Picks lane

/-- What is noted depends only on the phase, the slot, the cursor and the lanes in use. -/
lemma Rotates.congr (h : d.Rotates choice record) (phase : d'.phase = d.phase)
    (slot : d'.slot = d.slot) (cursor : d'.cursor = d.cursor) (places : d'.places = d.places) :
    d'.Rotates choice record := by
  refine ⟨h.picks, h.chain, fun hp last hl => ?_, fun hp t position hs => ?_⟩
  · obtain ⟨lanes, position, served, next⟩ := h.last (phase ▸ hp) last hl
    exact ⟨places.trans lanes, position, served, cursor.trans next⟩
  · rw [places, cursor]
    exact h.reserved (phase ▸ hp) t position (slot ▸ hs)

/-- A dispatcher that has no lane reserved may forget what it saw. -/
lemma Rotates.unreserved (h : d.Rotates choice record) (phase : d'.phase = d.phase)
    (hs : ∀ t position, d'.slot ≠ .reserved t position) (cursor : d'.cursor = d.cursor)
    (places : d'.places = d.places) : d'.Rotates choice' record := by
  refine ⟨h.picks, h.chain, fun hp last hl => ?_, fun _ t position reserved =>
    absurd reserved (hs t position)⟩
  obtain ⟨lanes, position, served, next⟩ := h.last (phase ▸ hp) last hl
  exact ⟨places.trans lanes, position, served, cursor.trans next⟩

lemma Rotates.left (h : d.Rotates choice record) (hp : d'.phase ≠ .serving) :
    d'.Rotates choice' record :=
  ⟨h.picks, h.chain, fun serving => absurd serving hp, fun serving => absurd serving hp⟩

/-- Nothing is noted of a dispatcher that has no lane reserved, unless it is asked for a number of
lanes. -/
lemma noted_of_unreserved (requests : d'.requests = d.requests)
    (hs : ∀ t position, d.slot ≠ .reserved t position) : d.noted d' choice = [] := by
  rw [noted, if_neg (not_not.mpr requests)]
  cases hslot : d.slot with
  | reserved t position => exact absurd hslot (hs t position)
  | _ => rfl

lemma noted_of_same (requests : d'.requests = d.requests) (hs : d'.slot = d.slot) :
    d.noted d' choice = [] := by
  rw [noted, if_neg (not_not.mpr requests), hs]
  cases d.slot <;> rfl

/-- A transaction that is noted as handed over had a lane reserved, and the dispatcher does not have
it any more. -/
lemma of_noted {h : Handing} (noted : d.noted d' choice = [.handed h]) :
    ∃ position, d.slot = .reserved h.transaction position ∧ d'.slot = .empty ∧
      d.places[position]? = some h.lane := by
  rw [Dispatcher.noted] at noted
  split at noted
  next => cases noted
  next =>
    split at noted
    next t position hs hs' =>
      cases here : d.places[position]? with
      | none => simp [here] at noted
      | some lane =>
        obtain rfl : _ = h := by simpa [here] using noted
        exact ⟨position, hs, hs', here⟩
    next => cases noted

lemma choiceAfter_of_unreserved (hs : ∀ t position, d.slot ≠ .reserved t position) :
    d.choiceAfter choice = d.glance := by
  cases hslot : d.slot with
  | reserved t position => exact absurd hslot (hs t position)
  | _ => simp [choiceAfter, hslot]

variable {pool pool' : Pool P} {s s' : Surroundings}

/-- A turn keeps this: a lane is chosen when it is the first one with room, it is served as it was
chosen, and after it the search starts behind it. -/
lemma Rotates.turn (h : d.Rotates choice record) (turn : Pool.Turn pool d s pool' d' s') :
    d'.Rotates (d.choiceAfter choice) (record ++ d.noted d' choice) := by
  cases turn with
  | @hand t position i lane hp hs hl room =>
    obtain ⟨lanes, cursor, chosen, place, picks⟩ := h.reserved hp t position hs
    have here : d.places[position]? = some i := by rw [places, List.getElem?_map, hl]; rfl
    obtain rfl : i = chosen := Option.some.inj (here.symm.trans place)
    have noted : d.noted { d with
          lanes := d.lanes.set i { lane with queue := lane.queue.push t }
          cursor := position + 1
          slot := .empty } choice = [.handed ⟨choice, i, t⟩] := by
      simp [Dispatcher.noted, hs, here]
    have places' : ({ d with
          lanes := d.lanes.set i { lane with queue := lane.queue.push t }
          cursor := position + 1
          slot := .empty } : Dispatcher P).places = d.places :=
      places_set (mem_inUse.mp (List.mem_of_getElem? hl)).1 rfl
    rw [noted]
    refine ⟨fun next hmem => ?_, ?_, fun _ next hl => ?_, fun _ _ _ hs' => by cases hs'⟩
    · rcases List.mem_append.mp hmem with hmem | hmem
      · exact h.picks next hmem
      · obtain rfl := Rota.Entry.handed.inj (List.mem_singleton.mp hmem)
        exact picks
    · refine List.isChain_append.mpr ⟨h.chain, .singleton _, fun last hl next hn => ?_⟩
      obtain rfl : _ = next := Option.some.inj hn
      cases last with
      | resized => trivial
      | handed last =>
        obtain ⟨lanes', position', served, next⟩ := h.last hp last hl
        exact ⟨lanes.trans lanes', position', served, cursor.trans next⟩
    · rw [List.getLast?_concat, Option.some.injEq, Rota.Entry.handed.injEq] at hl
      subst hl
      exact ⟨places'.trans lanes.symm, position, lanes ▸ here, rfl⟩
  | @keep t position hp hs stale =>
    have nothing : d.noted { d with slot := .pending t } choice = [] := by
      simp [noted, hs]
    rw [nothing, List.append_nil]
    exact h.unreserved rfl (by simp) rfl rfl
  | hear hp hs asked hc =>
    rw [noted_of_unreserved (by rfl) hs, List.append_nil]
    exact h.unreserved rfl hs rfl rfl
  | @resize request later result pool' grown metrics hp hs heard hr hresize =>
    obtain ⟨⟨lanes, strays, rfl⟩, -⟩ := Pool.resizeRunning_cases hresize
    have noted : d.noted { d with
          lanes, strays, requests := later
          replies := d.replies ++ [(request.ticket, result)] } choice = [.resized] := by
      simp [Dispatcher.noted, hr]
    refine noted ▸ ⟨fun next hmem => ?_, ?_, fun _ next hl => ?_, fun _ t position hs' =>
      absurd hs' (hs t position)⟩
    · rcases List.mem_append.mp hmem with hmem | hmem
      · exact h.picks next hmem
      · cases List.mem_singleton.mp hmem
    · refine List.isChain_append.mpr ⟨h.chain, .singleton _, fun last _ next hn => ?_⟩
      obtain rfl : _ = next := Option.some.inj hn
      cases last <;> trivial
    · rw [List.getLast?_concat] at hl
      cases hl
  | choose hp hs found =>
    rw [noted_of_unreserved (by rfl) (by simp [hs]), List.append_nil,
      choiceAfter_of_unreserved (by simp [hs])]
    refine ⟨h.picks, h.chain, h.last, fun _ t position hs' => ?_⟩
    cases hs'
    exact ⟨rfl, rfl, picks_of_found found⟩
  | refuse hp hs impossible =>
    rw [noted_of_unreserved (by rfl) (hs ▸ by simp), List.append_nil]
    exact h.unreserved rfl (by simp) rfl rfl
  | read hp hs heard hq =>
    rw [noted_of_unreserved (by rfl) (hs ▸ by simp), List.append_nil]
    exact h.unreserved rfl (by simp) rfl rfl
  | leave hp hs heard hq spent =>
    rw [noted_of_unreserved (by rfl) (hs ▸ by simp), List.append_nil]
    exact h.left (by simp)
  | retire hp =>
    obtain ⟨lanes, frame⟩ := d.shrink_frame 0 s.metrics
    rw [noted_of_same (by rw [frame]) (by rw [frame]), List.append_nil]
    exact h.left (by simp)
  | finish hp all =>
    rw [noted_of_same (by rfl) (by rfl), List.append_nil]
    exact h.left (by simp)

end Dispatcher

/-! ### Runs -/

namespace Rota

variable {process : Behaviour σ} {rota rota' : Rota P} {e : Event P} {events : List (Event P)}

/-- What holds of a pool at any time. -/
def Invariant (rota : Rota P) : Prop :=
  ∃ d, rota.pool.state = .running d ∧ d.Rotates rota.choice rota.record

lemma Opening.invariant (h : rota.Opening) : rota.Invariant := by
  obtain ⟨⟨d, hstate, hs⟩, none⟩ := h
  refine ⟨d, hstate, none ▸ ⟨?_, .nil, ?_, fun _ t position hs' => absurd hs' (hs t position)⟩⟩
  · intro h hmem
    cases hmem
  · intro _ h hl
    cases hl

/-- A move of the dispatcher is a turn, and what is noted of it is noted of the turn. -/
lemma turn_of_step {d : Dispatcher P} (hstate : rota.pool.state = .running d)
    (he : rota.step process (.move .dispatcher) = some rota') :
    ∃ pool d', Pool.Turn rota.pool d rota.around pool d' rota'.around ∧
      rota'.pool.state = .running d' ∧ rota'.choice = d.choiceAfter rota.choice ∧
        rota'.record = rota.record ++ d.noted d' rota.choice := by
  have hd : rota.pool.dispatcher? = some d := by simp [Pool.dispatcher?, hstate]
  obtain ⟨⟨final, around⟩, hm, rfl⟩ := Option.map_eq_some_iff.mp he
  have hm : rota.pool.dispatch d rota.around = some (final, around) := by
    simpa [Pool.step, hd] using hm
  obtain ⟨pool, d', turn, hfinal⟩ := Pool.Turn.of_dispatch hm
  have hstate' : final.state = .running d' := by
    rw [hfinal, Pool.withDispatcher_of_running (turn.state.trans hstate)]
  have hd' : final.dispatcher? = some d' := by simp [Pool.dispatcher?, hstate']
  simp only [hd, hd']
  exact ⟨pool, d', turn, hstate', trivial, rfl⟩

/-- Other moves change neither the cursor nor the lanes in use, and nothing is noted of them. -/
lemma frame_of_step {d : Dispatcher P} (hstate : rota.pool.state = .running d) {actor : Actor}
    (other : actor ≠ .dispatcher) (he : rota.step process (.move actor) = some rota') :
    ∃ lanes strays, rota'.pool.state = .running { d with lanes, strays } ∧
      ({ d with lanes, strays } : Dispatcher P).places = d.places ∧
        rota'.choice = rota.choice ∧ rota'.record = rota.record := by
  obtain ⟨⟨pool, around⟩, hm, rfl⟩ := Option.map_eq_some_iff.mp he
  obtain ⟨rfl, -⟩ | ⟨lanes, strays, rfl, places, -⟩ := Pool.step_cases hstate hm
  · exact absurd rfl other
  · refine ⟨lanes, strays, ?_⟩
    cases actor with
    | dispatcher => exact absurd rfl other
    | _ => exact ⟨rfl, places, rfl, rfl⟩

lemma record_of_step {d : Dispatcher P} (hstate : rota.pool.state = .running d)
    (other : e ≠ .move .dispatcher) (he : rota.step process e = some rota') :
    rota'.record = rota.record := by
  cases e with
  | move actor =>
    obtain ⟨-, -, -, -, -, record⟩ := frame_of_step hstate (fun same => other (same ▸ rfl)) he
    exact record
  | inside i pipeline =>
    obtain ⟨d, -, he⟩ := Option.bind_eq_some_iff.mp he
    obtain ⟨lane, -, rfl⟩ := Option.map_eq_some_iff.mp he
    rfl
  | _ =>
    cases he
    rfl

lemma Invariant.step (h : rota.Invariant) (he : rota.step process e = some rota') :
    rota'.Invariant := by
  obtain ⟨d, hstate, rotates⟩ := h
  cases e with
  | move actor =>
    by_cases turns : actor = .dispatcher
    · subst turns
      obtain ⟨pool, d', turn, hstate', choice, record⟩ := turn_of_step hstate he
      refine ⟨d', hstate', ?_⟩
      rw [choice, record]
      exact rotates.turn turn
    · obtain ⟨lanes, strays, hstate', places, choice, record⟩ := frame_of_step hstate turns he
      refine ⟨_, hstate', ?_⟩
      rw [choice, record]
      exact rotates.congr rfl rfl rfl places
  | around s =>
    cases he
    exact ⟨d, hstate, rotates⟩
  | inside i pipeline =>
    have hd : rota.pool.dispatcher? = some d := by simp [Pool.dispatcher?, hstate]
    simp only [Rota.step, hd, Option.bind_some] at he
    obtain ⟨lane, hl, rfl⟩ := Option.map_eq_some_iff.mp he
    refine ⟨{ d with lanes := d.lanes.set i { lane with pipeline } },
      by simp [Pool.withDispatcher, hstate], rotates.congr rfl rfl rfl ?_⟩
    exact Dispatcher.places_set hl rfl
  | setSize ticket n =>
    obtain ⟨result, requests, hset⟩ := Pool.setSize_of_running hstate ticket n rota.around.metrics
    simp only [Rota.step, hset, Option.some.injEq] at he
    subst he
    exact ⟨_, rfl, rotates.congr rfl rfl rfl rfl⟩
  | close =>
    simp only [Rota.step, Pool.close_of_running hstate, Option.some.injEq] at he
    subst he
    exact ⟨d, hstate, rotates⟩
  | takeOutput =>
    cases he
    exact ⟨d, hstate, rotates⟩

lemma Opening.run (h : rota.Opening) (hr : rota.run process events = some rota') :
    rota'.Invariant :=
  runFrom_induction (fun inv he => Invariant.step inv he) h.invariant hr

/-- Whether a transaction was put into the queue of a lane. -/
def Hands (rota rota' : Rota P) (h : Handing) : Prop :=
  ∃ d d' lane, rota.pool.state = .running d ∧ rota'.pool.state = .running d' ∧
    d.lanes[h.lane]? = some lane ∧
      d'.lanes = d.lanes.set h.lane { lane with queue := lane.queue.push h.transaction }

/-- What is noted as handed over was put into the queue of the lane. -/
lemma Invariant.hands (inv : rota.Invariant) (he : rota.step process e = some rota') {h : Handing}
    (handed : rota'.record = rota.record ++ [.handed h]) : rota.Hands rota' h := by
  obtain ⟨d, hstate, -⟩ := inv
  have moved : e = .move .dispatcher := by
    by_contra other
    have same : rota'.record = rota.record := record_of_step hstate other he
    simp [same] at handed
  subst moved
  obtain ⟨pool, d', turn, hstate', -, record⟩ := turn_of_step hstate he
  obtain ⟨position, hs, hs', here⟩ :=
    Dispatcher.of_noted (List.append_cancel_left (record.symm.trans handed))
  generalize rota'.around = around at turn
  cases turn with
  | @hand t position' i lane hp taken hl room =>
    obtain ⟨rfl, rfl⟩ := Dispatcher.Slot.reserved.inj (hs.symm.trans taken)
    rw [Dispatcher.places, List.getElem?_map, hl] at here
    obtain rfl : i = h.lane := Option.some.inj here
    have inside := Dispatcher.mem_inUse.mp (List.mem_of_getElem? hl)
    exact ⟨d, _, lane, hstate, hstate', inside.1, rfl⟩
  | keep hp taken stale => cases hs'
  | hear hp free asked hc => exact absurd hs (free _ _)
  | resize hp free heard hr hresize => exact absurd hs (free _ _)
  | choose hp free found => cases hs'
  | refuse hp free impossible => cases hs.symm.trans free
  | read hp free heard hq => cases hs'
  | leave hp free heard hq spent => cases hs.symm.trans free
  | retire hp =>
    obtain ⟨lanes, frame⟩ := d.shrink_frame 0 rota.around.metrics
    have same : (d.shrink 0 rota.around.metrics).1.slot = d.slot := by rw [frame]
    cases hs.symm.trans (same.symm.trans hs')
  | finish hp all => cases hs.symm.trans hs'

/-- A lane is chosen if it is the first one with room, in cyclic order from the cursor. So while the
number of lanes is not changed, a lane that has room at each choice gets one of as many transactions
as there are lanes. -/
theorem bounded_bypass (opening : rota.Opening) (hr : rota.run process events = some rota') :
    (∀ d t position, rota'.pool.state = .running d → d.phase = .serving →
        d.slot = .reserved t position →
          ∃ lane, d.places[position]? = some lane ∧ rota'.choice.Picks lane) ∧
      (∀ {e next h}, rota'.step process e = some next →
        next.record = rota'.record ++ [.handed h] → rota'.Hands next h) ∧
      (∀ h, .handed h ∈ rota'.record → h.choice.Picks h.lane) ∧
      ∀ (first : Handing) (later : List Handing),
        (first :: later).map Entry.handed <:+: rota'.record →
          (∀ h ∈ later, h.choice.lanes = first.choice.lanes) ∧
            ((first :: later).length = first.choice.lanes.length →
              ∀ lane, (∀ h ∈ first :: later, lane ∈ h.choice.free) →
                ∃ h ∈ first :: later, h.lane = lane) := by
  have inv := opening.run hr
  have ⟨d, hstate, rotates⟩ := inv
  refine ⟨fun d' t position hstate' hp hs => ?_, fun he handed => inv.hands he handed,
    rotates.picks, fun first later within => ?_⟩
  · obtain rfl := Pool.State.running.inj (hstate.symm.trans hstate')
    exact (rotates.reserved hp t position hs).2.2
  · have chain := rotates.chain.infix within
    have picks (h : Handing) (hmem : h ∈ first :: later) : h.choice.Picks h.lane :=
      rotates.picks h (within.subset (List.mem_map_of_mem hmem))
    refine ⟨fun h hmem => lanes_eq chain hmem, fun length lane room => ?_⟩
    refine exists_served chain picks room ?_
    have tried : lane ∈ first.choice.order :=
      Choice.mem_order.mpr (first.choice.used lane (room first List.mem_cons_self))
    have within := List.idxOf_lt_length_of_mem tried
    rw [Choice.order, List.length_rotate, ← length, List.length_cons] at within
    exact Nat.le_of_lt_succ within

/-- A pool of three lanes of which the second one takes nothing. The search for a lane starts beyond
the last one. -/
def lopsided : Rota (Processor Nat) where
  pool :=
    let lane (index : Nat) (closed : Bool) : Lane (Processor Nat) :=
      { index, queue := { capacity := 2, closed }, output := .new 1
        pipeline := { lane := index, chain := [], phase := .waiting } }
    { construct := fun _ _ => { lane := .error .closed }
      laneBuffer := 2
      outputCapacity := 1
      nextIndex := 3
      state := .running { lanes := [lane 0 false, lane 1 true, lane 2 false], cursor := 5 } }
  around :=
    { input := { capacity := 3, queue := [⟨.empty, 0⟩, ⟨.empty, 1⟩, ⟨.empty, 2⟩] }
      fed := true, output := .new 1, ledger := {}, metrics := {} }

lemma opening_lopsided : lopsided.Opening where
  bound := ⟨_, rfl, fun _ _ reserved => by cases reserved⟩
  record := rfl

/-- The dispatcher hands three transactions over, while a lane is asked to shut down. -/
def lopsidedCourse : List (Event (Processor Nat)) :=
  List.replicate 3 (.move .dispatcher) ++
    .inside 1 { lane := 1, chain := [], stopRequested := true } ::
      List.replicate 6 (.move .dispatcher)

/-- Of the three transactions the last lane gets the first one and the third one, and the first lane
the second one. -/
theorem bounded_bypass_lopsided :
    ∃ rota' first second third, lopsided.run fickle lopsidedCourse = some rota' ∧
      rota'.record = [.handed first, .handed second, .handed third] ∧
      (first.lane, second.lane, third.lane) = (2, 0, 2) ∧
      (∀ h ∈ [first, second, third], h.choice.Picks h.lane) ∧
      (∀ h ∈ [first, second, third], h.choice.lanes = [0, 1, 2] ∧ h.choice.free = [0, 2]) ∧
      ∀ lane ∈ [0, 2], ∃ h ∈ [first, second, third], h.lane = lane := by
  have told : (lopsided.run fickle lopsidedCourse).map (fun rota' =>
      rota'.record.map fun entry => entry.handing?.map fun h =>
        (h.lane, h.choice.lanes, h.choice.free)) =
      some [some (2, [0, 1, 2], [0, 2]), some (0, [0, 1, 2], [0, 2]),
        some (2, [0, 1, 2], [0, 2])] := by
    decide +kernel
  obtain ⟨rota', hr, record⟩ := Option.map_eq_some_iff.mp told
  simp only [List.map_eq_cons_iff, List.map_eq_nil_iff, Option.map_eq_some_iff,
    Entry.handing?_eq_some, Prod.mk.injEq] at record
  obtain ⟨_, _, record, ⟨first, rfl, lane₁, lanes₁, free₁⟩, _, _, rfl,
    ⟨second, rfl, lane₂, lanes₂, free₂⟩, _, _, rfl,
    ⟨third, rfl, lane₃, lanes₃, free₃⟩, rfl⟩ := record
  obtain ⟨-, -, picks, served⟩ := bounded_bypass opening_lopsided hr
  have alike : ∀ h ∈ [first, second, third],
      h.choice.lanes = [0, 1, 2] ∧ h.choice.free = [0, 2] := by
    simp only [List.forall_mem_cons]
    exact ⟨⟨lanes₁, free₁⟩, ⟨lanes₂, free₂⟩, ⟨lanes₃, free₃⟩, by simp⟩
  refine ⟨rota', first, second, third, hr, record, by rw [lane₁, lane₂, lane₃], fun h hmem => ?_,
    alike, fun lane room => ?_⟩
  · apply picks
    rw [record]
    exact List.mem_map_of_mem (f := Entry.handed) hmem
  · obtain ⟨-, bypassed⟩ := served first [second, third] (record ▸ List.infix_rfl)
    refine bypassed (by rw [lanes₁]; rfl) lane fun h hmem => ?_
    rw [(alike h hmem).2]
    exact room

end Rota

end Conveyor
