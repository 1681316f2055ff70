import Rotation.Preset.Draft

/-!
# Drafts in documents

The written form of a draft and its reading, with the defaults of absent
fields.  All of a node has to be readable, also the parts that are passed
over.
-/

namespace Rotation

namespace Source

/-- Whether every part of a value is readable. -/
def isReadable (s : Source) : Bool :=
  (toDocument? s).isSome

/-- Read how a start is recognised. -/
def start? (tagged : Bool) (s : Source) : Option Draft.Start := do
  let fields ← fields? ["mode", "expr", "timeout_ms", "retries"] s
  return {
    mode := ← withDefault fields "mode" Draft.Start.standard.mode
      (choice? tagged StartMode.ofName?)
    condition := ← optional fields "expr" toDocument?
    timeoutMs := ← withDefault fields "timeout_ms" Draft.Start.standard.timeoutMs word64?
    retries := ← withDefault fields "retries" Draft.Start.standard.retries word32? }

/-- Read how a completion is recognised. -/
def completion? (tagged : Bool) (s : Source) : Option Draft.Completion := do
  let fields ← fields? ["policy", "expr", "factor"] s
  return {
    policy := ← withDefault fields "policy" Draft.Completion.standard.policy
      (choice? tagged CompletionPolicy.ofName?)
    condition := ← optional fields "expr" toDocument?
    factor := ← withDefault fields "factor" Draft.Completion.standard.factor real? }

/-- Read lock options. -/
def lock? (tagged : Bool) (s : Source) : Option LockOptions := do
  let fields ← fields? ["policy", "timeout_ms"] s
  return {
    policy := ← withDefault fields "policy" LockOptions.standard.policy
      (choice? tagged LockPolicy.ofName?)
    timeoutMs := ← withDefault fields "timeout_ms" LockOptions.standard.timeoutMs word64? }

/-- Read a skill node from its fields, which may be those of a tagged node. -/
def skillNode? (tagged : Bool) (s : Source) : Option Draft.SkillNode := do
  let fields ← fields?
    ["id", "skill_id", "step", "gap_ms", "ready", "start", "completion", "lock"] s
  return {
    id := ← required fields "id" text?
    skill := ← required fields "skill_id" text?
    step := ← withDefault fields "step" 0 signed32?
    gapMs := ← optional fields "gap_ms" word64?
    ready := ← optional fields "ready" toDocument?
    start := ← withDefault fields "start" .standard (start? tagged)
    completion := ← withDefault fields "completion" .standard (completion? tagged)
    lock := ← withDefault fields "lock" .standard (lock? tagged) }

/-- Read a gateway from its fields. -/
def gateway? (s : Source) : Option Draft.Gateway := do
  let fields ← fields? ["id", "step", "gap_ms", "condition", "action", "reset_metrics"] s
  return {
    id := ← required fields "id" text?
    step := ← withDefault fields "step" 0 signed32?
    gapMs := ← optional fields "gap_ms" word64?
    condition := ← required fields "condition" toDocument?
    action := ← required fields "action" nestedAction?
    resetsMetrics := ← withDefault fields "reset_metrics" false bool? }

/-- Read a node. -/
def node? (s : Source) : Option Draft.Node := do
  if !s.isReadable then
    none
  let (tag, rest) ← tagged? "kind" s
  match tag with
  | .text "skill" => (skillNode? true rest).map .skill
  | .text "gateway" => (gateway? rest).map .gateway
  | _ => none

/-- Read a track. -/
def track? (s : Source) : Option Draft.Track := do
  let fields ← fields? ["id", "nodes"] s
  return {
    id := ← required fields "id" text?
    nodes := ← withDefault fields "nodes" [] (list? node?) }

/-- Read a mode. -/
def mode? (s : Source) : Option Draft.Mode := do
  let fields ← fields? ["id", "tracks"] s
  return {
    id := ← required fields "id" text?
    tracks := ← withDefault fields "tracks" [] (list? track?) }

/-- Read a draft. -/
def draft? (s : Source) : Option Draft := do
  let fields ← fields? ["id", "name", "entry_mode", "default_gap_ms", "global_tracks", "modes"] s
  return {
    id := ← required fields "id" text?
    name := ← withDefault fields "name" "" text?
    entryMode := ← optional fields "entry_mode" text?
    defaultGapMs := ← withDefault fields "default_gap_ms" 0 word64?
    globalTracks := ← withDefault fields "global_tracks" [] (list? track?)
    modes := ← withDefault fields "modes" [] (list? mode?) }

end Source

/-! ## Writing

The form of the one number that is not an integer is left to the caller. -/

/-- A 64-bit word as a number. -/
def Document.word64 (n : UInt64) : Document :=
  .nat n.toNat

/-- The written form of lock options. -/
def LockOptions.toDocument (l : LockOptions) : Document :=
  .record [("policy", .text l.policy.name), ("timeout_ms", .word64 l.timeoutMs)]

namespace Draft

/-- A document that may be missing. -/
def raw (d : Option Document) : Document :=
  d.getD .null

/-- The written form of a start. -/
def Start.toDocument (s : Start) : Document :=
  .record [("mode", .text s.mode.name), ("expr", raw s.condition),
    ("timeout_ms", .word64 s.timeoutMs), ("retries", .nat s.retries.toNat)]

/-- The written form of a completion. -/
def Completion.toDocument (real : Float → Document) (c : Completion) : Document :=
  .record [("policy", .text c.policy.name), ("expr", raw c.condition), ("factor", real c.factor)]

/-- The written form of a node. -/
def Node.toDocument (real : Float → Document) : Node → Document
  | .skill n =>
    .record [("kind", .text "skill"), ("id", .text n.id), ("skill_id", .text n.skill),
      ("step", .integer n.step.toInt), ("gap_ms", .option .word64 n.gapMs),
      ("ready", raw n.ready), ("start", n.start.toDocument),
      ("completion", n.completion.toDocument real), ("lock", n.lock.toDocument)]
  | .gateway n =>
    .record [("kind", .text "gateway"), ("id", .text n.id), ("step", .integer n.step.toInt),
      ("gap_ms", .option .word64 n.gapMs), ("condition", n.condition),
      ("action", n.action.toDocument), ("reset_metrics", .bool n.resetsMetrics)]

/-- The written form of a track. -/
def Track.toDocument (real : Float → Document) (t : Track) : Document :=
  .record [("id", .text t.id), ("nodes", .list (t.nodes.map (Node.toDocument real)))]

/-- The written form of a mode. -/
def Mode.toDocument (real : Float → Document) (m : Mode) : Document :=
  .record [("id", .text m.id), ("tracks", .list (m.tracks.map (Track.toDocument real)))]

/-- The written form of a draft. -/
def toDocument (real : Float → Document) (d : Draft) : Document :=
  .record [("id", .text d.id), ("name", .text d.name), ("entry_mode", .option .text d.entryMode),
    ("default_gap_ms", .word64 d.defaultGapMs),
    ("global_tracks", .list (d.globalTracks.map (Track.toDocument real))),
    ("modes", .list (d.modes.map (Mode.toDocument real)))]

end Draft

end Rotation
