import Rotation.Schedule.Cursor

/-!
# Schedules

A schedule knows which node runs next: it has a cursor for each global track
and for each track of the active mode.  The floor is the lowest step under an
unfinished cursor of the mode; only nodes on the floor may run.  It is kept
beside the cursors and worked out anew whenever one of them may have moved.
When all tracks of the mode are done, the mode begins again.
-/

namespace Rotation

/-- A node that may run, and when it is due. -/
structure Candidate where
  place : Place
  track : String
  node : Nat
  dueAt : Nat
  deriving DecidableEq, Repr

namespace Candidate

/-- Rank of the kind of place: global tracks come first. -/
def scope (c : Candidate) : Nat :=
  match c.place with
  | .global _ => 0
  | .mode _ _ => 1

/-- Whether one candidate does not run after another: the earlier due one comes
first, then the global one, then the one whose track has the smaller name. -/
def le (a b : Candidate) : Bool :=
  if a.dueAt = b.dueAt then
    if a.scope = b.scope then a.track ≤ b.track else a.scope < b.scope
  else a.dueAt < b.dueAt

end Candidate

/-- A mode, the cursors of its tracks, and the step that is due. -/
structure ActiveMode where
  index : Nat
  id : String
  tracks : List ModeCursor
  floor : Option Int
  deriving DecidableEq, Repr

namespace ActiveMode

/-- The lowest step under an unfinished cursor. -/
def lowestStep (tracks : List ModeCursor) : Option Int :=
  (tracks.filterMap ModeCursor.step?).min?

/-- Work out the floor anew. -/
def refreshFloor (m : ActiveMode) : ActiveMode :=
  { m with floor := lowestStep m.tracks }

/-- A mode at its beginning. -/
def start? (preset : Preset) (index time : Nat) : Option ActiveMode :=
  preset.modes[index]?.map fun mode =>
    refreshFloor ⟨index, mode.id, mode.tracks.map fun t => ModeCursor.start t time, none⟩

/-- Whether there was something to do and all of it is done. -/
def isExhausted (m : ActiveMode) : Bool :=
  m.tracks.any (fun t => !t.isEmpty) && m.tracks.all ModeCursor.isDone

/-- All cursors back at the first nodes. -/
def reset (m : ActiveMode) (time : Nat) : ActiveMode :=
  refreshFloor { m with tracks := m.tracks.map fun t => t.reset time }

/-- Move past the current node of a track, and stop there. -/
def pass (m : ActiveMode) (t time : Nat) : ActiveMode :=
  refreshFloor { m with tracks := m.tracks.modify t fun c => c.advance time }

/-- Move past the current node of a track.  When this ends the last track, the
mode begins again and its identifier is returned. -/
def advance (m : ActiveMode) (t time : Nat) : Option String × ActiveMode :=
  if t < m.tracks.length then
    let moved := m.pass t time
    if moved.isExhausted then (some m.id, moved.reset time) else (none, moved)
  else (none, m)

/-- Stay on the current node of a track and try it again later. -/
def hold (m : ActiveMode) (t time : Nat) : ActiveMode :=
  { m with tracks := m.tracks.modify t fun c => c.hold time }

/-- Put the cursor of a track on a node, if there is such a track and node. -/
def jump? (m : ActiveMode) (t node time : Nat) : Option ActiveMode := do
  let moved ← (← m.tracks[t]?).jump? node time
  return refreshFloor { m with tracks := m.tracks.set t moved }

/-- The node of a track that may run: the one under the cursor, if it is on
the floor. -/
def candidate? (m : ActiveMode) (t : ModeCursor) (i : Nat) : Option Candidate :=
  if t.step? = m.floor then
    t.current?.map fun node => ⟨.mode m.index i, t.id, node, t.nextAt⟩
  else none

/-- The nodes that may run, in the order of the tracks. -/
def candidates (m : ActiveMode) : List Candidate :=
  (m.tracks.mapIdx fun i t => m.candidate? t i).filterMap fun c => c

end ActiveMode

/-- The cursors of a preset. -/
structure Schedule where
  globals : List GlobalCursor
  mode : Option ActiveMode
  deriving DecidableEq, Repr

namespace Schedule

/-- All cursors at their first nodes, in the entry mode. -/
def start (preset : Preset) (time : Nat) : Schedule :=
  { globals := preset.globalTracks.map fun t => GlobalCursor.start t time
    mode := preset.entryMode.bind fun m => ActiveMode.start? preset m time }

/-- The position of the active mode. -/
def modeIndex (s : Schedule) : Option Nat :=
  s.mode.map ActiveMode.index

/-- The identifier of the active mode. -/
def modeId (s : Schedule) : Option String :=
  s.mode.map ActiveMode.id

/-- The step at which the active mode is. -/
def step (s : Schedule) : Option Int :=
  s.mode.bind ActiveMode.floor

/-- Begin a mode, if the preset has it. -/
def switchMode? (s : Schedule) (preset : Preset) (mode time : Nat) : Option Schedule :=
  (ActiveMode.start? preset mode time).map fun m => { s with mode := some m }

/-- The nodes of global tracks that may run, in the order of the tracks. -/
def globalCandidates (s : Schedule) : List Candidate :=
  (s.globals.mapIdx fun i g =>
    g.current?.map fun node => (⟨.global i, g.id, node, g.nextAt⟩ : Candidate)).filterMap fun c => c

/-- The nodes that may run, in the order in which they do. -/
def candidates (s : Schedule) : List Candidate :=
  (s.globalCandidates ++ ((s.mode.map ActiveMode.candidates).getD [])).mergeSort Candidate.le

/-- The node that runs at `now`, if one is due. -/
def pick (s : Schedule) (now : Nat) : Option Candidate :=
  s.candidates.find? fun c => c.dueAt ≤ now

/-- The earliest time at which a node is due. -/
def nextWakeup (s : Schedule) : Option Nat :=
  s.candidates.head?.map Candidate.dueAt

/-- The active mode, if it is the one at the given position. -/
def activeAt? (s : Schedule) (m : Nat) : Option ActiveMode :=
  s.mode.filter fun a => a.index == m

/-- Move past the current node of a track.  When this ends the last track of
the mode, the mode begins again and its identifier is returned. -/
def advance (s : Schedule) (place : Place) (time : Nat) : Option String × Schedule :=
  match place with
  | .global i => (none, { s with globals := s.globals.modify i fun g => g.advance time })
  | .mode m t =>
    match s.activeAt? m with
    | none => (none, s)
    | some active =>
      let moved := active.advance t time
      (moved.1, { s with mode := some moved.2 })

/-- Stay on the current node of a track and try it again later. -/
def hold (s : Schedule) (place : Place) (time : Nat) : Schedule :=
  match place with
  | .global i => { s with globals := s.globals.modify i fun g => g.hold time }
  | .mode m t =>
    match s.activeAt? m with
    | none => s
    | some active => { s with mode := some (active.hold t time) }

/-- Put the cursor of a track on a node; the track has to be active and to have
the node. -/
def relocate? (s : Schedule) (place : Place) (node time : Nat) : Option Schedule :=
  match place with
  | .global i => do
    let moved ← (← s.globals[i]?).jump? node time
    return { s with globals := s.globals.set i moved }
  | .mode m t => do
    let moved ← (← s.activeAt? m).jump? t node time
    return { s with mode := some moved }

/-- Work out the floor of the mode of a place anew, if it is active. -/
def refreshFloor (s : Schedule) (place : Place) : Schedule :=
  match place with
  | .global _ => s
  | .mode m _ =>
    match s.activeAt? m with
    | none => s
    | some active => { s with mode := some active.refreshFloor }

/-- Put the cursor of a track on a node, if that can be done. -/
def relocate (s : Schedule) (place : Place) (node time : Nat) : Schedule :=
  (s.relocate? place node time).getD (s.refreshFloor place)

/-- Whether a track has a cursor. -/
def isActive (s : Schedule) (place : Place) : Bool :=
  match place with
  | .global i => i < s.globals.length
  | .mode m t => (s.activeAt? m).any fun a => t < a.tracks.length

end Schedule

end Rotation
