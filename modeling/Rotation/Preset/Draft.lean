import Rotation.Document.Basic
import Rotation.Preset.Action
import Rotation.Preset.Policy

/-!
# Drafts

A draft is a preset as its author wrote it: conditions are still documents,
and references are names that nobody has looked up.  Nothing is run from a
draft; validation turns it into a preset.
-/

namespace Rotation

namespace Draft

/-- How the start of the action is recognised. -/
structure Start where
  mode : StartMode
  condition : Option Document
  timeoutMs : UInt64
  retries : UInt32
  deriving Inhabited

/-- The start of a node that does not describe it. -/
def Start.standard : Start :=
  ⟨.none, none, 600, 1⟩

/-- How the completion of the action is recognised. -/
structure Completion where
  policy : CompletionPolicy
  condition : Option Document
  factor : Float
  deriving Inhabited

/-- The completion of a node that does not describe it. -/
def Completion.standard : Completion :=
  ⟨.assumeSuccess, none, 1.5⟩

/-- A node that casts a skill. -/
structure SkillNode where
  id : String
  skill : String
  step : Int32
  gapMs : Option UInt64
  ready : Option Document
  start : Start
  completion : Completion
  lock : LockOptions
  deriving Inhabited

/-- A node that acts when a condition is true. -/
structure Gateway where
  id : String
  step : Int32
  gapMs : Option UInt64
  condition : Document
  action : Action
  resetsMetrics : Bool
  deriving Inhabited

/-- A node of a track. -/
inductive Node where
  | skill (node : SkillNode)
  | gateway (node : Gateway)
  deriving Inhabited

/-- The identifier of a node. -/
def Node.id : Node → String
  | .skill node => node.id
  | .gateway node => node.id

/-- A sequence of nodes. -/
structure Track where
  id : String
  nodes : List Node
  deriving Inhabited

/-- Whether a track has a node with an identifier. -/
def Track.hasNode (t : Track) (id : String) : Bool :=
  t.nodes.any fun n => n.id == id

/-- Tracks that are active together. -/
structure Mode where
  id : String
  tracks : List Track
  deriving Inhabited

end Draft

/-- A preset as written. -/
structure Draft where
  id : String
  name : String
  entryMode : Option String
  defaultGapMs : UInt64
  globalTracks : List Draft.Track
  modes : List Draft.Mode
  deriving Inhabited

end Rotation
