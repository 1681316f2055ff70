import Rotation.Condition.Requirements
import Rotation.Preset.Action
import Rotation.Preset.Policy

/-!
# Presets

A preset is a draft whose references have been checked and whose conditions
have been decoded.  Global tracks are always active; the tracks of a mode are
active while the mode is.  A place says where in a preset a track is.
-/

namespace Rotation

/-- How the start of an action is recognised; without a condition the key press
is the start. -/
structure StartRule where
  mode : StartMode
  condition : Option Condition
  timeoutMs : Nat
  retries : Nat
  deriving Inhabited

/-- How the completion of an action is recognised. -/
structure CompletionRule where
  policy : CompletionPolicy
  condition : Option Condition
  factor : Float
  deriving Inhabited

/-- A node that casts a skill. -/
structure SkillNode where
  id : String
  skill : String
  step : Int
  gapMs : Nat
  ready : Condition
  start : StartRule
  completion : CompletionRule
  lock : LockOptions
  deriving Inhabited

/-- A node that acts when a condition is true. -/
structure Gateway where
  id : String
  step : Int
  gapMs : Option Nat
  condition : Condition
  action : Action
  resetsMetrics : Bool
  deriving Inhabited

/-- A node of a track. -/
inductive Node where
  | skill (node : SkillNode)
  | gateway (node : Gateway)
  deriving Inhabited

namespace Node

/-- The identifier of a node. -/
def id : Node → String
  | .skill node => node.id
  | .gateway node => node.id

/-- The step of a node. -/
def step : Node → Int
  | .skill node => node.step
  | .gateway node => node.step

/-- The conditions that are evaluated for a node, the indicator of a skill that
a gateway casts among them. -/
def conditions (catalogue : Catalogue) : Node → List Condition
  | .skill node =>
    node.ready :: (node.start.condition.toList ++ node.completion.condition.toList)
  | .gateway node =>
    node.condition ::
      match node.action with
      | .castSkill cast =>
        if ((catalogue.skill? cast).bind Skill.indicator).isSome then [.skillShows cast none]
        else []
      | _ => []

end Node

/-- A sequence of nodes. -/
structure Track where
  id : String
  nodes : List Node
  deriving Inhabited

/-- The position of the first node with an identifier. -/
def Track.position? (t : Track) (node : String) : Option Nat :=
  t.nodes.findIdx? fun n => n.id == node

/-- Tracks that are active together. -/
structure Mode where
  id : String
  tracks : List Track
  deriving Inhabited

/-- Where in a preset a track is. -/
inductive Place where
  | global (track : Nat)
  | mode (mode track : Nat)
  deriving DecidableEq, Repr, Inhabited

/-- A place in diagnostic messages. -/
def Place.text : Place → String
  | .global i => "Global(" ++ toString i ++ ")"
  | .mode m i => "Mode(" ++ toString m ++ ", " ++ toString i ++ ")"

/-- A checked preset. -/
structure Preset where
  id : String
  name : String
  entryMode : Option Nat
  globalTracks : List Track
  modes : List Mode
  deriving Inhabited

namespace Preset

/-- The position of the first mode with an identifier. -/
def modeIndex? (p : Preset) (id : String) : Option Nat :=
  p.modes.findIdx? fun m => m.id == id

/-- The first track with an identifier in a list of modes, numbered from
`m` on. -/
def locateInModes (id : String) : List Mode → Nat → Option Place
  | [], _ => none
  | mode :: rest, m =>
    match mode.tracks.findIdx? fun t => t.id == id with
    | some t => some (.mode m t)
    | none => locateInModes id rest (m + 1)

/-- The place of the first track with an identifier, global tracks first. -/
def locate? (p : Preset) (id : String) : Option Place :=
  match p.globalTracks.findIdx? fun t => t.id == id with
  | some i => some (.global i)
  | none => locateInModes id p.modes 0

/-- The track at a place. -/
def track? (p : Preset) : Place → Option Track
  | .global i => p.globalTracks[i]?
  | .mode m t => p.modes[m]?.bind fun mode => mode.tracks[t]?

/-- The tracks of a mode; none of them without a mode. -/
def modeTracks (p : Preset) (mode : Option Nat) : List Track :=
  match mode.bind fun m => p.modes[m]? with
  | some found => found.tracks
  | none => []

/-- What the nodes look at that can run while a mode is active. -/
def requirements (p : Preset) (catalogue : Catalogue) (mode : Option Nat) : Requirements :=
  (p.globalTracks ++ p.modeTracks mode).foldl (fun r track =>
    track.nodes.foldl (fun r node => (node.conditions catalogue).foldl Requirements.add r) r) .empty

/-- Number of nodes of all tracks. -/
def nodeCount (p : Preset) : Nat :=
  (p.globalTracks ++ p.modes.flatMap Mode.tracks).foldl (fun n t => n + t.nodes.length) 0

end Preset

end Rotation
