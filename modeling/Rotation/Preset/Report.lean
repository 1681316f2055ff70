import Rotation.Condition.Wire
import Rotation.Diagnostic.Wire
import Rotation.Preset.Validation
import Rotation.Preset.Wire

/-!
# Validation reports

The written form of what a validation yields: the findings, what has to be
observed, and the preset with its places and scopes.
-/

namespace Rotation

/-- The written form of requirements. -/
def Requirements.toDocument (r : Requirements) : Document :=
  .record [("points", .texts r.points), ("skill_pixels", .texts r.indicators),
    ("skill_metrics", .texts r.metrics)]

/-- The written form of a condition that may be missing. -/
def Condition.toDocument : Option Condition → Document :=
  .option Condition.encode

/-- The written form of a node. -/
def Node.toDocument (real : Float → Document) : Node → Document
  | .skill n =>
    .record [("kind", .text "skill"), ("id", .text n.id), ("step", .integer n.step),
      ("skill_id", .text n.skill), ("gap_ms", .nat n.gapMs), ("ready", n.ready.encode),
      ("start", .record [("mode", .text n.start.mode.name),
        ("expr", Condition.toDocument n.start.condition), ("timeout_ms", .nat n.start.timeoutMs),
        ("retries", .nat n.start.retries)]),
      ("completion", .record [("policy", .text n.completion.policy.name),
        ("expr", Condition.toDocument n.completion.condition),
        ("factor", real n.completion.factor)]),
      ("lock", n.lock.toDocument)]
  | .gateway n =>
    .record [("kind", .text "gateway"), ("id", .text n.id), ("step", .integer n.step),
      ("gap_ms", .option .nat n.gapMs), ("condition", n.condition.encode),
      ("action", n.action.toDocument), ("action_name", .text n.action.name),
      ("reset_metrics", .bool n.resetsMetrics)]

/-- The written form of a track. -/
def Track.toDocument (real : Float → Document) (t : Track) : Document :=
  .record [("id", .text t.id), ("nodes", .list (t.nodes.map (Node.toDocument real)))]

/-- The written form of a place. -/
def Place.toDocument : Place → Document
  | .global i => .record [("global", .nat i)]
  | .mode m i => .record [("mode", .nat m), ("track", .nat i)]

namespace Preset

/-- The written form of a preset: its tracks, where each track is found by its
name, and what each scope looks at, from no mode to one past the last. -/
def toDocument (real : Float → Document) (catalogue : Catalogue) (p : Preset) : Document :=
  let tracks := fun (ts : List Track) => Document.list (ts.map (Track.toDocument real))
  let scopes := none :: (List.range (p.modes.length + 1)).map some
  .record [("id", .text p.id), ("name", .text p.name), ("entry_mode", .option .nat p.entryMode),
    ("global_tracks", tracks p.globalTracks),
    ("modes", .list (p.modes.map fun m => .record [("id", .text m.id),
      ("index", .option .nat (p.modeIndex? m.id)), ("tracks", tracks m.tracks)])),
    ("node_count", .nat p.nodeCount),
    ("located", .list ((p.globalTracks ++ p.modes.flatMap Mode.tracks).map fun t =>
      .option Place.toDocument (p.locate? t.id))),
    ("scope_probes", .list (scopes.map fun m => (p.requirements catalogue m).toDocument))]

end Preset

/-- The written form of a validation. -/
def Validation.toDocument (real : Float → Document) (catalogue : Catalogue) (v : Validation) :
    Document :=
  .record [("ok", .bool v.preset.isSome), ("diagnostics", v.diagnostics.toDocument),
    ("probes", v.requirements.toDocument),
    ("preset", .option (Preset.toDocument real catalogue) v.preset)]

end Rotation
