import Rotation.Preset.Basic

/-!
# Cursors over tracks

A cursor stands on the node of a track that runs next and knows when it is
due.  A global track is gone through in declared order, again and again.  The
track of a mode is gone through once, in ascending order of steps; nodes of
one step keep their declared order.
-/

namespace Rotation

/-- The cursor of a global track with `length` nodes. -/
structure GlobalCursor where
  id : String
  length : Nat
  position : Nat
  nextAt : Nat
  deriving DecidableEq, Repr

namespace GlobalCursor

/-- The cursor at the first node. -/
def start (track : Track) (time : Nat) : GlobalCursor :=
  ⟨track.id, track.nodes.length, 0, time⟩

/-- The node under the cursor. -/
def current? (c : GlobalCursor) : Option Nat :=
  if 0 < c.length then some c.position else none

/-- Move to the next node, after the last one to the first. -/
def advance (c : GlobalCursor) (time : Nat) : GlobalCursor :=
  { c with
    position := if 0 < c.length then (c.position + 1) % c.length else c.position
    nextAt := time }

/-- Stay on the current node and try it again later. -/
def hold (c : GlobalCursor) (time : Nat) : GlobalCursor :=
  { c with nextAt := time }

/-- Move to a node, if the track has it. -/
def jump? (c : GlobalCursor) (node time : Nat) : Option GlobalCursor :=
  if node < c.length then some { c with position := node, nextAt := time } else none

end GlobalCursor

/-- A node in the order of a mode track. -/
structure Slot where
  node : Nat
  step : Int
  deriving DecidableEq, Repr

/-- The cursor of a mode track; the nodes before `position` are done. -/
structure ModeCursor where
  id : String
  order : List Slot
  position : Nat
  nextAt : Nat
  deriving DecidableEq, Repr

namespace ModeCursor

/-- The nodes of a track in the order of their steps. -/
def slots (track : Track) : List Slot :=
  (track.nodes.mapIdx fun i node => ⟨i, node.step⟩).mergeSort fun a b => a.step ≤ b.step

theorem mem_slots_iff {track : Track} {slot : Slot} :
    slot ∈ slots track ↔ ∃ node, track.nodes[slot.node]? = some node ∧ slot.step = node.step := by
  simp only [slots, List.mem_mergeSort, List.mem_mapIdx]
  constructor
  · rintro ⟨i, inside, rfl⟩
    exact ⟨track.nodes[i], List.getElem?_eq_getElem inside, rfl⟩
  · rintro ⟨node, found, step_eq⟩
    obtain ⟨inside, rfl⟩ := List.getElem?_eq_some_iff.mp found
    exact ⟨slot.node, inside, by rw [← step_eq]⟩

/-- The cursor at the first node. -/
def start (track : Track) (time : Nat) : ModeCursor :=
  ⟨track.id, slots track, 0, time⟩

/-- Whether the track has no nodes. -/
def isEmpty (c : ModeCursor) : Bool :=
  c.order.isEmpty

/-- Whether all nodes are done. -/
def isDone (c : ModeCursor) : Bool :=
  c.order.length ≤ c.position

/-- The slot under the cursor. -/
def slot? (c : ModeCursor) : Option Slot :=
  c.order[c.position]?

/-- The node under the cursor. -/
def current? (c : ModeCursor) : Option Nat :=
  c.slot?.map Slot.node

/-- The step of the node under the cursor. -/
def step? (c : ModeCursor) : Option Int :=
  c.slot?.map Slot.step

theorem slot?_eq_none_iff {c : ModeCursor} : c.slot? = none ↔ c.isDone = true := by
  simp [slot?, isDone]

theorem isDone_eq_false_iff {c : ModeCursor} : c.isDone = false ↔ ∃ slot, c.slot? = some slot := by
  rw [← Option.ne_none_iff_exists', Ne, slot?_eq_none_iff, Bool.not_eq_true]

theorem step?_eq_some_iff {c : ModeCursor} {x : Int} :
    c.step? = some x ↔ ∃ slot, c.slot? = some slot ∧ slot.step = x := by
  simp [step?]

theorem step?_eq_none_iff {c : ModeCursor} : c.step? = none ↔ c.isDone = true := by
  simp [step?, slot?_eq_none_iff]

/-- Move past the current node, if there is one. -/
def advance (c : ModeCursor) (time : Nat) : ModeCursor :=
  { c with position := if c.isDone then c.position else c.position + 1, nextAt := time }

/-- Stay on the current node and try it again later. -/
def hold (c : ModeCursor) (time : Nat) : ModeCursor :=
  { c with nextAt := time }

/-- Go back to the first node. -/
def reset (c : ModeCursor) (time : Nat) : ModeCursor :=
  { c with position := 0, nextAt := time }

/-- Move to a node, if the track has it. -/
def jump? (c : ModeCursor) (node time : Nat) : Option ModeCursor :=
  (c.order.findIdx? fun s => s.node == node).map fun i =>
    { c with position := i, nextAt := time }

end ModeCursor

end Rotation
