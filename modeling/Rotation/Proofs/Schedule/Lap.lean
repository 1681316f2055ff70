import Mathlib.Data.List.Nodup
import Rotation.Proofs.Schedule.Coherence

/-!
# Laps of a mode

The slots of a mode track are sorted by their steps.  The sort is stable, so
nodes of one step keep their declared order, and no two slots are alike.

While nothing jumps, a mode is gone through in laps.  A lap visits every node
of every track once, in ascending steps and inside one step in declared order;
the last visit of a lap, and no other, ends it.

The visits of the lap in progress are tied to the cursors by `Follows`: each
cursor has passed exactly the nodes visited in its track, and no pending step
is below a visited one.
-/

namespace Rotation

/-! ## The order of a mode track -/

/-- One slot comes before another: its step is lower, or it is declared earlier
in the same step. -/
def Slot.Before (a b : Slot) : Prop :=
  a.step < b.step ∨ a.step = b.step ∧ a.node < b.node

theorem Slot.Before.step_le {a b : Slot} (before : a.Before b) : a.step ≤ b.step := by
  rcases before with less | ⟨same, _⟩
  · exact Int.le_of_lt less
  · exact Int.le_of_eq same

namespace ModeCursor

/-- The slots of a track in declared order. -/
def declared (track : Track) : List Slot :=
  track.nodes.mapIdx fun i node => ⟨i, node.step⟩

theorem node_of_getElem?_declared {track : Track} {slot : Slot} {i : Nat}
    (found : (declared track)[i]? = some slot) : slot.node = i := by
  rw [declared, List.getElem?_mapIdx] at found
  obtain ⟨node, _, rfl⟩ := Option.map_eq_some_iff.mp found
  rfl

theorem nodup_declared (track : Track) : (declared track).Nodup := by
  rw [List.nodup_iff_pairwise_ne, List.pairwise_iff_getElem]
  intro i j i_lt j_lt less same
  have i_eq := node_of_getElem?_declared (List.getElem?_eq_getElem i_lt)
  have j_eq := node_of_getElem?_declared (List.getElem?_eq_getElem j_lt)
  rw [same] at i_eq
  omega

theorem nodup_slots (track : Track) : (slots track).Nodup :=
  (List.mergeSort_perm _ _).nodup_iff.mpr (nodup_declared track)

/-- Slots of one step stand in declared order, as the sort is stable. -/
theorem pairwise_slots_le (track : Track) :
    (slots track).Pairwise fun a b => a.step < b.step ∨ a.step = b.step ∧ a.node ≤ b.node := by
  let le : Slot → Slot → Bool := fun a b => a.step ≤ b.step
  have le_trans : ∀ a b c, le a b → le b c → le a c := by
    simp only [le, decide_eq_true_eq]
    omega
  have le_total : ∀ a b, le a b || le b a := by
    simp only [le, Bool.or_eq_true, decide_eq_true_eq]
    omega
  -- the same sort of numbered slots breaks ties by the numbers
  have slots_eq : slots track =
      ((declared track).zipIdx.mergeSort (List.zipIdxLE le)).map Prod.fst :=
    List.mergeSort_zipIdx.symm
  have numbered_sorted := List.pairwise_mergeSort (List.zipIdxLE_trans le_trans)
    (List.zipIdxLE_total le_total) (declared track).zipIdx
  rw [slots_eq, List.pairwise_map]
  apply numbered_sorted.imp_of_mem
  rintro ⟨a, i⟩ ⟨b, j⟩ a_mem b_mem a_le
  rw [List.mem_mergeSort, List.mem_zipIdx_iff_getElem?] at a_mem b_mem
  rw [node_of_getElem?_declared a_mem, node_of_getElem?_declared b_mem]
  dsimp only
  simp only [List.zipIdxLE, le, decide_eq_true_eq] at a_le
  split at a_le
  · split at a_le
    · rw [decide_eq_true_eq] at a_le
      omega
    · omega
  · contradiction

/-- The slots of a track are in strictly ascending order. -/
theorem pairwise_slots (track : Track) : (slots track).Pairwise Slot.Before := by
  apply ((pairwise_slots_le track).and (nodup_slots track)).imp
  rintro ⟨i, x⟩ ⟨j, y⟩ ⟨less | ⟨same, node_le⟩, differ⟩
  · exact .inl less
  · right
    refine ⟨same, Nat.lt_of_le_of_ne node_le ?_⟩
    rintro rfl
    exact differ (by rw [show x = y from same])

end ModeCursor

/-! ## Visits -/

/-- The node at a position of a track of a mode. -/
def Mode.node? (mode : Mode) (track node : Nat) : Option Node :=
  mode.tracks[track]?.bind fun t => t.nodes[node]?

/-- A node that has been moved past, and the mode that ended with it. -/
structure Visit where
  track : Nat
  node : Nat
  ended : Option String

namespace Visit

/-- Where the node is. -/
def spot (v : Visit) : Nat × Nat :=
  (v.track, v.node)

/-- The step of the node. -/
def step? (mode : Mode) (v : Visit) : Option Int :=
  (mode.node? v.track v.node).map Node.step

/-- Steps never descend; in one track they ascend, and nodes of one step go in
declared order. -/
def Before (mode : Mode) (a b : Visit) : Prop :=
  ∃ x y, a.step? mode = some x ∧ b.step? mode = some y ∧ x ≤ y ∧
    (a.track = b.track → x < y ∨ x = y ∧ a.node < b.node)

theorem Before.spot_ne {mode : Mode} {a b : Visit} (before : Before mode a b) :
    a.spot ≠ b.spot := by
  obtain ⟨x, y, a_step, b_step, _, ascending⟩ := before
  intro same
  obtain ⟨track_eq, node_eq⟩ := Prod.mk.inj same
  have step_eq : x = y := by
    apply Option.some.inj
    rw [← a_step, ← b_step, step?, step?, track_eq, node_eq]
  rcases ascending track_eq with less | ⟨_, less⟩ <;> omega

end Visit

/-! ## Laps -/

/-- A lap that has come to its end. -/
structure Mode.IsLap (mode : Mode) (lap : List Visit) : Prop where
  ordered : lap.Pairwise (Visit.Before mode)
  once : ∀ t i, (lap.map Visit.spot).count (t, i) = if (mode.node? t i).isSome then 1 else 0
  ended : ∃ earlier last, lap = earlier ++ [last] ∧ (∀ v ∈ earlier, v.ended = none) ∧
    last.ended = some mode.id

/-- A lap in progress: no node twice, and some node still to come. -/
structure Mode.IsPartOfLap (mode : Mode) (lap : List Visit) : Prop where
  ordered : lap.Pairwise (Visit.Before mode)
  once : ∀ t i, (lap.map Visit.spot).count (t, i) ≤ if (mode.node? t i).isSome then 1 else 0
  unfinished : ∃ t i, (mode.node? t i).isSome ∧ (t, i) ∉ lap.map Visit.spot
  ended : ∀ v ∈ lap, v.ended = none

theorem nodup_spots {mode : Mode} {lap : List Visit} (ordered : lap.Pairwise (Visit.Before mode)) :
    (lap.map Visit.spot).Nodup := by
  rw [List.nodup_iff_pairwise_ne, List.pairwise_map]
  exact ordered.imp Visit.Before.spot_ne

namespace ActiveMode

variable {m : ActiveMode} {p : Preset} {mode : Mode} {lap : List Visit}

/-! ## Cursors and nodes -/

theorem RunsOver.pairwise_order (runs : m.RunsOver p mode) {t : Nat} {c : ModeCursor}
    (found : m.tracks[t]? = some c) : c.order.Pairwise Slot.Before := by
  obtain ⟨track, _, _, order_eq⟩ := runs.track found
  rw [order_eq]
  exact ModeCursor.pairwise_slots track

/-- A slot of a cursor is a node of the mode. -/
theorem RunsOver.step_of_mem (runs : m.RunsOver p mode) {t : Nat} {c : ModeCursor}
    (found : m.tracks[t]? = some c) {slot : Slot} (mem : slot ∈ c.order) :
    (mode.node? t slot.node).map Node.step = some slot.step := by
  obtain ⟨track, track_found, _, order_eq⟩ := runs.track found
  obtain ⟨node, node_found, step_eq⟩ := ModeCursor.mem_slots_iff.mp (order_eq ▸ mem)
  rw [Mode.node?, track_found, Option.bind_some, node_found, Option.map_some, step_eq]

/-- A node of the mode is a slot of a cursor. -/
theorem RunsOver.exists_slot (runs : m.RunsOver p mode) {t i : Nat} {node : Node}
    (there : mode.node? t i = some node) :
    ∃ c slot, m.tracks[t]? = some c ∧ slot ∈ c.order ∧ slot.node = i := by
  obtain ⟨track, track_found, node_found⟩ := Option.bind_eq_some_iff.mp there
  have inside : t < m.tracks.length := by
    rw [runs.tracks_length]
    exact (List.getElem?_eq_some_iff.mp track_found).1
  obtain ⟨other, other_found, _, order_eq⟩ := runs.track (List.getElem?_eq_getElem inside)
  obtain rfl := Option.some.inj (track_found.symm.trans other_found)
  refine ⟨m.tracks[t], ⟨i, node.step⟩, List.getElem?_eq_getElem inside, ?_, rfl⟩
  rw [order_eq, ModeCursor.mem_slots_iff]
  exact ⟨node, node_found, rfl⟩

/-! ## The lap in progress -/

/-- What the visits of the lap in progress say about the cursors. -/
structure Follows (mode : Mode) (m : ActiveMode) (lap : List Visit) : Prop where
  passed : ∀ t c, m.tracks[t]? = some c →
    (lap.filter fun v => v.track == t).map Visit.node = (c.order.take c.position).map Slot.node
  bounded : ∀ v ∈ lap, ∃ x, v.step? mode = some x ∧ x ∈ lowerBounds m.pendingSteps
  ordered : lap.Pairwise (Visit.Before mode)

/-- Nothing has been visited while all cursors are at their beginning. -/
theorem follows_nil (beginning : ∀ c ∈ m.tracks, c.position = 0) : Follows mode m [] where
  passed t c found := by simp [beginning c (List.mem_of_getElem? found)]
  bounded := by simp
  ordered := .nil

theorem follows_reset (m : ActiveMode) (time : Nat) : Follows mode (m.reset time) [] := by
  apply follows_nil
  intro c mem
  obtain ⟨d, _, rfl⟩ := List.mem_map.mp mem
  rfl

theorem follows_start? {index time : Nat} (started : start? p index time = some m) :
    Follows mode m [] := by
  obtain ⟨own, _, rfl⟩ := Option.map_eq_some_iff.mp started
  apply follows_nil
  intro c mem
  obtain ⟨track, _, rfl⟩ := List.mem_map.mp mem
  rfl

/-- Cursors that wait longer have passed what they had passed. -/
theorem Follows.hold (follows : Follows mode m lap) (t time : Nat) :
    Follows mode (m.hold t time) lap := by
  have standings_eq : (m.hold t time).tracks.map ModeCursor.standing =
      m.tracks.map ModeCursor.standing :=
    map_modify_eq_map (fun c => c.standing_hold time) m.tracks t
  constructor
  · intro u c found
    obtain ⟨d, d_found, same⟩ := exists_getElem?_of_map_eq standings_eq found
    obtain ⟨order_eq, position_eq⟩ := Prod.mk.inj same
    rw [follows.passed u d d_found, order_eq, position_eq]
  · intro v mem
    obtain ⟨x, step_eq, below⟩ := follows.bounded v mem
    refine ⟨x, step_eq, ?_⟩
    rintro y ⟨c, c_mem, left, y_eq⟩
    have pending := (exists_standing_congr standings_eq fun standing =>
      standing.1[standing.2]?.map Slot.step = some y).mp ⟨c, c_mem, y_eq⟩
    obtain ⟨d, d_mem, d_eq⟩ := pending
    exact below (mem_pendingSteps_iff.mpr (List.mem_filterMap.mpr ⟨d, d_mem, d_eq⟩))
  · exact follows.ordered

/-- A visited node is a node of the mode. -/
theorem Follows.isSome_node? (follows : Follows mode m lap) {v : Visit} (mem : v ∈ lap) :
    (mode.node? v.track v.node).isSome := by
  obtain ⟨x, step_eq, _⟩ := follows.bounded v mem
  obtain ⟨node, there, _⟩ := Option.map_eq_some_iff.mp step_eq
  exact Option.isSome_iff_exists.mpr ⟨node, there⟩

/-- The nodes visited in a track are those its cursor has passed. -/
theorem Follows.mem_spots_iff (follows : Follows mode m lap) {t i : Nat} {c : ModeCursor}
    (found : m.tracks[t]? = some c) :
    (t, i) ∈ lap.map Visit.spot ↔ ∃ slot ∈ c.order.take c.position, slot.node = i := by
  have visited_iff : i ∈ (lap.filter fun v => v.track == t).map Visit.node ↔
      i ∈ (c.order.take c.position).map Slot.node := by
    rw [follows.passed t c found]
  simpa [Visit.spot, and_assoc, -List.map_take] using visited_iff

/-- A slot that has been passed comes before the one under the cursor. -/
theorem RunsOver.before_of_passed (runs : m.RunsOver p mode) {t : Nat} {c : ModeCursor}
    (found : m.tracks[t]? = some c) {slot passed : Slot} (under : c.slot? = some slot)
    (mem : passed ∈ c.order.take c.position) : passed.Before slot := by
  obtain ⟨inside, rfl⟩ := List.getElem?_eq_some_iff.mp under
  obtain ⟨i, i_lt, rfl⟩ := List.mem_take_iff_getElem.mp mem
  exact List.pairwise_iff_getElem.mp (runs.pairwise_order found) i c.position _ inside (by omega)

/-- The node under a cursor has not been visited. -/
theorem Follows.current_notMem (follows : Follows mode m lap) (runs : m.RunsOver p mode) {t : Nat}
    {c : ModeCursor} (found : m.tracks[t]? = some c) {slot : Slot} (under : c.slot? = some slot) :
    (t, slot.node) ∉ lap.map Visit.spot := by
  intro visited
  obtain ⟨passed, passed_mem, node_eq⟩ := (follows.mem_spots_iff found).mp visited
  have passed_step := runs.step_of_mem found (List.mem_of_mem_take passed_mem)
  have own_step := runs.step_of_mem found (List.mem_of_getElem? under)
  rw [node_eq, own_step] at passed_step
  have step_eq := Option.some.inj passed_step
  rcases runs.before_of_passed found under passed_mem with less | ⟨_, less⟩ <;> omega

/-! ## One more visit -/

theorem getElem?_pass (m : ActiveMode) (t time u : Nat) :
    (m.pass t time).tracks[u]? =
      m.tracks[u]?.map fun c => if t = u then c.advance time else c := by
  simp only [pass, refreshFloor, List.getElem?_modify]
  rfl

theorem position_advance {c : ModeCursor} {slot : Slot} (under : c.slot? = some slot) (time : Nat) :
    (c.advance time).position = c.position + 1 := by
  have left := ModeCursor.isDone_eq_false_iff.mpr ⟨slot, under⟩
  simp [ModeCursor.advance, left]

section Pass

variable {t : Nat} {c : ModeCursor} {slot : Slot}

/-- After a node on the floor nothing is pending below it. -/
theorem RunsOver.mem_lowerBounds_pass (runs : m.RunsOver p mode) (found : m.tracks[t]? = some c)
    (under : c.slot? = some slot) (least : IsLeast m.pendingSteps slot.step) (time : Nat) :
    slot.step ∈ lowerBounds (m.pass t time).pendingSteps := by
  rintro y ⟨d, d_mem, _, d_step⟩
  obtain ⟨u, d_found⟩ := List.getElem?_of_mem d_mem
  rw [getElem?_pass] at d_found
  obtain ⟨e, e_found, rfl⟩ := Option.map_eq_some_iff.mp d_found
  by_cases same : t = u
  · subst same
    obtain rfl := Option.some.inj (found.symm.trans e_found)
    rw [if_pos rfl] at d_step
    obtain ⟨next, next_under, rfl⟩ := ModeCursor.step?_eq_some_iff.mp d_step
    rw [ModeCursor.slot?, position_advance under] at next_under
    obtain ⟨next_inside, rfl⟩ := List.getElem?_eq_some_iff.mp next_under
    obtain ⟨inside, rfl⟩ := List.getElem?_eq_some_iff.mp under
    exact (List.pairwise_iff_getElem.mp (runs.pairwise_order found) c.position (c.position + 1)
      inside next_inside (by omega)).step_le
  · rw [if_neg same] at d_step
    apply least.2
    exact mem_pendingSteps_iff.mpr
      (List.mem_filterMap.mpr ⟨e, List.mem_of_getElem? e_found, d_step⟩)

/-- Whatever was visited comes before the node under a cursor. -/
theorem Follows.before (follows : Follows mode m lap) (runs : m.RunsOver p mode)
    (found : m.tracks[t]? = some c) (under : c.slot? = some slot)
    (pending : slot.step ∈ m.pendingSteps) {v next : Visit} (mem : v ∈ lap)
    (next_spot : next.spot = (t, slot.node)) : Visit.Before mode v next := by
  obtain ⟨track_eq, node_eq⟩ := Prod.mk.inj next_spot
  obtain ⟨x, x_eq, below⟩ := follows.bounded v mem
  have own_step := runs.step_of_mem found (List.mem_of_getElem? under)
  refine ⟨x, slot.step, x_eq, ?_, below pending, ?_⟩
  · rw [Visit.step?, track_eq, node_eq, own_step]
  · intro same
    have v_spot : (t, v.node) ∈ lap.map Visit.spot :=
      List.mem_map.mpr ⟨v, mem, by rw [Visit.spot, same, track_eq]⟩
    obtain ⟨passed, passed_mem, passed_node⟩ := (follows.mem_spots_iff found).mp v_spot
    have passed_step := runs.step_of_mem found (List.mem_of_mem_take passed_mem)
    rw [passed_node, ← track_eq, ← same] at passed_step
    have x_step : x = passed.step := Option.some.inj (x_eq.symm.trans passed_step)
    rw [x_step, ← passed_node, node_eq]
    exact runs.before_of_passed found under passed_mem

/-- Moving past a node on the floor adds a visit to the lap. -/
theorem Follows.pass (follows : Follows mode m lap) (runs : m.RunsOver p mode)
    (found : m.tracks[t]? = some c) (under : c.slot? = some slot)
    (least : IsLeast m.pendingSteps slot.step) (time : Nat) {next : Visit}
    (next_spot : next.spot = (t, slot.node)) :
    Follows mode (m.pass t time) (lap ++ [next]) := by
  obtain ⟨track_eq, node_eq⟩ := Prod.mk.inj next_spot
  have lower := runs.mem_lowerBounds_pass found under least time
  constructor
  · intro u d d_found
    rw [getElem?_pass] at d_found
    obtain ⟨e, e_found, rfl⟩ := Option.map_eq_some_iff.mp d_found
    rw [List.filter_append, List.map_append, follows.passed u e e_found]
    by_cases same : t = u
    · subst same
      obtain rfl := Option.some.inj (found.symm.trans e_found)
      rw [if_pos rfl, position_advance under]
      have slot_at : c.order[c.position]? = some slot := under
      change _ = (c.order.take (c.position + 1)).map Slot.node
      rw [List.take_add_one, slot_at, List.map_append]
      simp [track_eq, node_eq]
    · rw [if_neg same]
      simp [track_eq, same]
  · intro v mem
    rcases List.mem_append.mp mem with old | new
    · obtain ⟨x, x_eq, below⟩ := follows.bounded v old
      exact ⟨x, x_eq, fun y pending => (below least.1).trans (lower pending)⟩
    · obtain rfl := List.mem_singleton.mp new
      refine ⟨slot.step, ?_, lower⟩
      rw [Visit.step?, track_eq, node_eq]
      exact runs.step_of_mem found (List.mem_of_getElem? under)
  · rw [List.pairwise_append]
    refine ⟨follows.ordered, List.pairwise_singleton _ _, ?_⟩
    intro v mem new new_mem
    obtain rfl := List.mem_singleton.mp new_mem
    exact follows.before runs found under least.1 mem next_spot

end Pass

/-! ## Complete and incomplete laps -/

theorem Follows.count_spots_le (follows : Follows mode m lap) (t i : Nat) :
    (lap.map Visit.spot).count (t, i) ≤ if (mode.node? t i).isSome then 1 else 0 := by
  by_cases visited : (t, i) ∈ lap.map Visit.spot
  · obtain ⟨v, mem, spot_eq⟩ := List.mem_map.mp visited
    obtain ⟨rfl, rfl⟩ := Prod.mk.inj spot_eq
    rw [if_pos (follows.isSome_node? mem)]
    exact List.nodup_iff_count_le_one.mp (nodup_spots follows.ordered) _
  · rw [List.count_eq_zero.mpr visited]
    exact Nat.zero_le _

/-- When all tracks are done, every node has been visited. -/
theorem Follows.count_spots_of_done (follows : Follows mode m lap) (runs : m.RunsOver p mode)
    (done : ∀ c ∈ m.tracks, c.isDone = true) (t i : Nat) :
    (lap.map Visit.spot).count (t, i) = if (mode.node? t i).isSome then 1 else 0 := by
  cases there : mode.node? t i with
  | none =>
      have at_most := follows.count_spots_le t i
      rw [there] at at_most
      exact Nat.le_zero.mp at_most
  | some node =>
      obtain ⟨c, slot, found, slot_mem, rfl⟩ := runs.exists_slot there
      have all_passed : c.order.take c.position = c.order := by
        apply List.take_of_length_le
        simpa [ModeCursor.isDone] using done c (List.mem_of_getElem? found)
      have visited : (t, slot.node) ∈ lap.map Visit.spot :=
        (follows.mem_spots_iff found).mpr ⟨slot, all_passed.symm ▸ slot_mem, rfl⟩
      exact List.count_eq_one_of_mem (nodup_spots follows.ordered) visited

theorem Follows.isPartOfLap (follows : Follows mode m lap) (runs : m.RunsOver p mode)
    (left : ∃ c ∈ m.tracks, c.isDone = false) (ended : ∀ v ∈ lap, v.ended = none) :
    mode.IsPartOfLap lap where
  ordered := follows.ordered
  once := follows.count_spots_le
  unfinished := by
    obtain ⟨c, mem, c_left⟩ := left
    obtain ⟨slot, under⟩ := ModeCursor.isDone_eq_false_iff.mp c_left
    obtain ⟨t, found⟩ := List.getElem?_of_mem mem
    have own_step := runs.step_of_mem found (List.mem_of_getElem? under)
    obtain ⟨node, there, _⟩ := Option.map_eq_some_iff.mp own_step
    exact ⟨t, slot.node, Option.isSome_iff_exists.mpr ⟨node, there⟩,
      follows.current_notMem runs found under⟩
  ended := ended

end ActiveMode

/-! ## Going through a mode -/

namespace Schedule

/-- What may be done while the mode is only gone through: global tracks advance
and any track waits as it likes, and of the mode the candidates are moved past.
The list has the visits of the mode. -/
inductive Goes (s : Schedule) : List Visit → Schedule → Prop
  | begin : Goes s [] s
  | global {log : List Visit} {moved : Schedule} (so_far : Goes s log moved) (i time : Nat) :
      Goes s log (moved.advance (.global i) time).2
  | hold {log : List Visit} {moved : Schedule} (so_far : Goes s log moved) (place : Place)
      (time : Nat) : Goes s log (moved.hold place time)
  | visit {log : List Visit} {moved : Schedule} (so_far : Goes s log moved) {c : Candidate}
      (mem : c ∈ moved.candidates) {m t : Nat} (at_place : c.place = .mode m t) (time : Nat) :
      Goes s (log ++ [⟨t, c.node, (moved.advance c.place time).1⟩])
        (moved.advance c.place time).2

variable {p : Preset} {mode : Mode}

/-- The mode is active, and its cursors are where the visits so far leave
them. -/
structure InLap (p : Preset) (mode : Mode) (s : Schedule) (lap : List Visit) : Prop where
  active : ∃ m, s.mode = some m ∧ m.RunsOver p mode ∧ m.Coherent ∧ m.Follows mode lap
  ended : ∀ v ∈ lap, v.ended = none

theorem InLap.of_mode_eq {s moved : Schedule} {lap : List Visit} (inside : InLap p mode s lap)
    (same : moved.mode = s.mode) : InLap p mode moved lap where
  active := same ▸ inside.active
  ended := inside.ended

theorem InLap.hold {s : Schedule} {lap : List Visit} (inside : InLap p mode s lap) (place : Place)
    (time : Nat) : InLap p mode (s.hold place time) lap := by
  obtain ⟨⟨m, held, runs, coherent, follows⟩, ended⟩ := inside
  refine ⟨?_, ended⟩
  cases place with
  | global i => exact ⟨m, held, runs, coherent, follows⟩
  | mode n t =>
      simp only [Schedule.hold]
      split
      · exact ⟨m, held, runs, coherent, follows⟩
      · rename_i active found
        obtain ⟨was, _⟩ := activeAt?_eq_some_iff.mp found
        obtain rfl := Option.some.inj (was.symm.trans held)
        exact ⟨active.hold t time, rfl, runs.of_outline_eq (active.outline_hold t time),
          ActiveMode.coherent_hold coherent t time, follows.hold t time⟩

/-- A visit goes on with the lap, or it ends the lap and a new one begins. -/
theorem InLap.visit {s : Schedule} {lap : List Visit} (inside : InLap p mode s lap) {c : Candidate}
    (mem : c ∈ s.candidates) {n t : Nat} (at_place : c.place = .mode n t) (time : Nat) :
    let next : Visit := ⟨t, c.node, (s.advance c.place time).1⟩
    InLap p mode (s.advance c.place time).2 (lap ++ [next]) ∨
      mode.IsLap (lap ++ [next]) ∧ InLap p mode (s.advance c.place time).2 [] := by
  obtain ⟨⟨m, held, runs, coherent, follows⟩, ended⟩ := inside
  obtain ⟨active, cursor, slot, was, rfl, found, under, on_floor, node_eq⟩ :=
    mem_candidates_mode mem at_place
  obtain rfl := Option.some.inj (was.symm.trans held)
  have least : IsLeast active.pendingSteps slot.step :=
    ActiveMode.lowestStep_eq_some_iff.mp (coherent.floor_eq ▸ on_floor)
  have passes : ∀ result, (active.pass t time).Follows mode (lap ++ [⟨t, c.node, result⟩]) :=
    fun result => follows.pass runs found under least time (by rw [Visit.spot, node_eq])
  have runs_on : (active.pass t time).RunsOver p mode :=
    runs.of_outline_eq (active.outline_pass t time)
  have t_lt : t < active.tracks.length := (List.getElem?_eq_some_iff.mp found).1
  have found_active : s.activeAt? active.index = some active :=
    activeAt?_eq_some_iff.mpr ⟨held, rfl⟩
  rw [at_place]
  simp only [Schedule.advance, found_active, ActiveMode.advance, if_pos t_lt]
  split
  · rename_i exhausted
    right
    have done : ∀ d ∈ (active.pass t time).tracks, d.isDone = true := by
      rw [ActiveMode.isExhausted, Bool.and_eq_true, List.all_eq_true] at exhausted
      exact exhausted.2
    constructor
    · exact ⟨(passes _).ordered, (passes _).count_spots_of_done runs_on done, lap, _, rfl, ended,
        congrArg some runs.2.1⟩
    · refine ⟨⟨_, rfl, ?_, ActiveMode.coherent_reset _ time, ActiveMode.follows_reset _ time⟩,
        by simp⟩
      exact runs_on.of_outline_eq (ActiveMode.outline_reset _ time)
  · rename_i left
    left
    refine ⟨⟨_, rfl, runs_on, ActiveMode.coherent_refreshFloor ?_, passes _⟩, ?_⟩
    · exact Bool.eq_false_of_not_eq_true left
    · intro v v_mem
      rcases List.mem_append.mp v_mem with old | new
      · exact ended v old
      · obtain rfl := List.mem_singleton.mp new
        rfl

theorem InLap.begin {index time : Nat} {s : Schedule} (found : p.modes[index]? = some mode)
    (begun : s.mode = ActiveMode.start? p index time) : InLap p mode s [] := by
  obtain ⟨m, started⟩ : ∃ m, ActiveMode.start? p index time = some m := by
    rw [ActiveMode.start?, found]
    exact ⟨_, rfl⟩
  obtain ⟨rfl, own, runs⟩ := ActiveMode.runsOver_start? started
  obtain rfl := Option.some.inj (runs.1.symm.trans found)
  exact ⟨⟨m, begun.trans started, runs, ActiveMode.coherent_start? started,
    ActiveMode.follows_start? started⟩, by simp⟩

/-- In a mode with a node something is left to visit. -/
theorem InLap.isPartOfLap {s : Schedule} {lap : List Visit} (inside : InLap p mode s lap)
    (nonempty : ∃ track ∈ mode.tracks, track.nodes ≠ []) : mode.IsPartOfLap lap := by
  obtain ⟨⟨m, _, runs, coherent, follows⟩, ended⟩ := inside
  obtain ⟨track, track_mem, nodes_ne⟩ := nonempty
  obtain ⟨t, track_found⟩ := List.getElem?_of_mem track_mem
  obtain ⟨node, rest, nodes_eq⟩ := List.exists_cons_of_ne_nil nodes_ne
  have there : mode.node? t 0 = some node := by
    rw [Mode.node?, track_found, Option.bind_some, nodes_eq]
    rfl
  obtain ⟨c, slot, c_found, slot_mem, _⟩ := runs.exists_slot there
  apply follows.isPartOfLap runs (coherent.unfinished ⟨c, List.mem_of_getElem? c_found, ?_⟩) ended
  simpa [ModeCursor.isEmpty] using List.ne_nil_of_mem slot_mem

/-- The visits so far are complete laps and the lap that the cursors are in. -/
theorem Goes.inLap {index time : Nat} {s moved : Schedule} {log : List Visit}
    (goes : Goes s log moved) (found : p.modes[index]? = some mode)
    (begun : s.mode = ActiveMode.start? p index time) :
    ∃ (laps : List (List Visit)) (current : List Visit), log = laps.flatten ++ current ∧
      (∀ lap ∈ laps, mode.IsLap lap) ∧ InLap p mode moved current := by
  induction goes with
  | begin => exact ⟨[], [], rfl, by simp, .begin found begun⟩
  | global so_far i at_time ih =>
      obtain ⟨laps, current, log_eq, complete, inside⟩ := ih
      exact ⟨laps, current, log_eq, complete, inside.of_mode_eq rfl⟩
  | hold so_far place at_time ih =>
      obtain ⟨laps, current, log_eq, complete, inside⟩ := ih
      exact ⟨laps, current, log_eq, complete, inside.hold place at_time⟩
  | @visit log before so_far c mem m t at_place at_time ih =>
      obtain ⟨laps, current, rfl, complete, inside⟩ := ih
      let next : Visit := ⟨t, c.node, (before.advance c.place at_time).1⟩
      rcases inside.visit mem at_place at_time with goes_on | ⟨ends, begins⟩
      · exact ⟨laps, current ++ [next], List.append_assoc _ _ _, complete, goes_on⟩
      · refine ⟨laps ++ [current ++ [next]], [], ?_, ?_, begins⟩
        · simp [next]
        · intro lap lap_mem
          rcases List.mem_append.mp lap_mem with earlier | last
          · exact complete lap earlier
          · rw [List.mem_singleton.mp last]
            exact ends

/-- A mode with a node is gone through in laps: whatever is done from its
activation on without a jump, the visits are complete laps, one after the
other, and a part of the lap in progress.  An advance of a global track ends no
mode. -/
theorem exists_laps_of_goes {index time : Nat} {s moved : Schedule} {log : List Visit}
    (found : p.modes[index]? = some mode) (nonempty : ∃ track ∈ mode.tracks, track.nodes ≠ [])
    (begun : s.mode = ActiveMode.start? p index time) (goes : Goes s log moved) :
    (∃ (laps : List (List Visit)) (current : List Visit), log = laps.flatten ++ current ∧
      (∀ lap ∈ laps, mode.IsLap lap) ∧ mode.IsPartOfLap current) ∧
      ∀ i later, (moved.advance (.global i) later).1 = none := by
  obtain ⟨laps, current, log_eq, complete, inside⟩ := goes.inLap found begun
  exact ⟨⟨laps, current, log_eq, complete, inside.isPartOfLap nonempty⟩, fun _ _ => rfl⟩

/-- A mode in which the steps of two tracks interleave. -/
def song : Mode :=
  let gateway := fun id step => Node.gateway ⟨id, step, none, .const true, .finish, false⟩
  ⟨"song", [⟨"left", [gateway "second" 1, gateway "first" 0]⟩, ⟨"right", [gateway "only" 0]⟩]⟩

/-- A preset with this mode and a global track. -/
def duet : Preset :=
  { id := "duet"
    name := "duet"
    entryMode := some 0
    globalTracks := [⟨"pulse", [.gateway ⟨"beat", 0, none, .const true, .finish, false⟩]⟩]
    modes := [song] }

/-- Its schedule at the beginning: the second node of the left track has the
lower step and comes first. -/
def duetStart : Schedule :=
  { globals := [⟨"pulse", 1, 0, 0⟩]
    mode := some
      ⟨0, "song", [⟨"left", [⟨1, 0⟩, ⟨0, 1⟩], 0, 0⟩, ⟨"right", [⟨0, 0⟩], 0, 0⟩], some 0⟩ }

theorem start_duet : start duet 0 = duetStart := by
  have slots_left : ModeCursor.slots song.tracks[0] = [⟨1, 0⟩, ⟨0, 1⟩] := by
    simp [song, ModeCursor.slots, List.mergeSort, List.MergeSort.Internal.splitInTwo, Node.step]
  have slots_right : ModeCursor.slots song.tracks[1] = [⟨0, 0⟩] := List.mergeSort_singleton _
  change Schedule.mk _ (some (ActiveMode.refreshFloor ⟨0, "song",
    [⟨"left", ModeCursor.slots song.tracks[0], 0, 0⟩,
      ⟨"right", ModeCursor.slots song.tracks[1], 0, 0⟩], none⟩)) = _
  rw [slots_left, slots_right]
  rfl

theorem song_goes_in_laps :
    ∃ log moved, duet.modes[0]? = some song ∧ (∃ track ∈ song.tracks, track.nodes ≠ []) ∧
      (start duet 0).mode = ActiveMode.start? duet 0 0 ∧ Goes (start duet 0) log moved ∧
      log.map Visit.spot = [(0, 1), (1, 0), (0, 0), (1, 0)] ∧
      (∃ (laps : List (List Visit)) (current : List Visit), log = laps.flatten ++ current ∧
        (∀ lap ∈ laps, song.IsLap lap) ∧ song.IsPartOfLap current) ∧
      ∀ i later, (moved.advance (.global i) later).1 = none := by
  have found : duet.modes[0]? = some song := rfl
  have nonempty : ∃ track ∈ song.tracks, track.nodes ≠ [] :=
    ⟨_, List.mem_cons_self, List.cons_ne_nil _ _⟩
  have begun : (start duet 0).mode = ActiveMode.start? duet 0 0 := rfl
  rw [start_duet] at begun ⊢
  have goes := Goes.begin (s := duetStart)
    |>.visit (c := ⟨.mode 0 0, "left", 1, 0⟩)
      (mem_candidates_of_slot? 0 ⟨1, 0⟩ rfl rfl rfl rfl rfl) rfl 10
    |>.hold (.mode 0 1) 5
    |>.visit (c := ⟨.mode 0 1, "right", 0, 5⟩)
      (mem_candidates_of_slot? 1 ⟨0, 0⟩ rfl rfl rfl rfl rfl) rfl 7
    |>.global 0 8
    |>.visit (c := ⟨.mode 0 0, "left", 0, 10⟩)
      (mem_candidates_of_slot? 0 ⟨0, 1⟩ rfl rfl rfl rfl rfl) rfl 12
    |>.visit (c := ⟨.mode 0 1, "right", 0, 12⟩)
      (mem_candidates_of_slot? 1 ⟨0, 0⟩ rfl rfl rfl rfl rfl) rfl 15
  exact ⟨_, _, found, nonempty, begun, goes, rfl, exists_laps_of_goes found nonempty begun goes⟩

end Schedule

end Rotation
