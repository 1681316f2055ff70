import Rotation.Condition.Check
import Rotation.Condition.Wire
import Rotation.Key.Chord
import Rotation.Preset.Basic
import Rotation.Preset.Draft

/-!
# Validation of drafts

Validation goes through a whole draft, decodes every condition, looks up every
reference and reports all it finds.  It yields a preset when none of the
findings is an error.
-/

namespace Rotation

/-- A result together with what was found on the way to it. -/
structure Finding (α : Type) where
  value : α
  diagnostics : Diagnostics

namespace Draft

/-! ## Identifiers -/

/-- Check the identifiers of nodes from position `i` on; `seen` holds those
met before. -/
def checkNodeIds (track path : String) (seen : List String) : List Node → Nat → Diagnostics
  | [], _ => []
  | node :: rest, i =>
    let place := Pointer.push (Pointer.pushIndex (Pointer.push path "nodes") i) "id"
    if Text.allBlank node.id then
      Diagnostics.error "preset.missing_id" place "node id must not be empty" ++
        checkNodeIds track path seen rest (i + 1)
    else if seen.contains node.id then
      Diagnostics.error "preset.duplicate_node" place
        ("node `" ++ node.id ++ "` declared twice in track `" ++ track ++ "`") ++
        checkNodeIds track path seen rest (i + 1)
    else checkNodeIds track path (node.id :: seen) rest (i + 1)

/-- Check the identifiers of a track; the value is the list of track
identifiers met so far. -/
def checkTrackIds (seen : List String) (track : Track) (path : String) : Finding (List String) :=
  let blank := Text.allBlank track.id
  let repeated := seen.contains track.id
  let own :=
    if blank then
      Diagnostics.error "preset.missing_id" (Pointer.push path "id") "track id must not be empty"
    else if repeated then
      Diagnostics.error "preset.duplicate_track" (Pointer.push path "id")
        ("track `" ++ track.id ++ "` declared twice")
    else []
  let empty :=
    if track.nodes.isEmpty then
      Diagnostics.warning "preset.empty_track" path ("track `" ++ track.id ++ "` has no nodes")
    else []
  { value := if blank || repeated then seen else track.id :: seen
    diagnostics := own ++ empty ++ checkNodeIds track.id path [] track.nodes 0 }

/-- Check the identifiers of tracks from position `i` on. -/
def checkTracks (base : String) (seen : List String) : List Track → Nat → Finding (List String)
  | [], _ => ⟨seen, []⟩
  | track :: rest, i =>
    let first := checkTrackIds seen track (Pointer.pushIndex base i)
    let others := checkTracks base first.value rest (i + 1)
    ⟨others.value, first.diagnostics ++ others.diagnostics⟩

/-- Check the identifiers of modes from position `m` on; the value is the list
of track identifiers met so far. -/
def checkModes (seenModes seen : List String) : List Mode → Nat → Diagnostics
  | [], _ => []
  | mode :: rest, m =>
    let path := Pointer.pushIndex "/modes" m
    let own :=
      if seenModes.contains mode.id then
        Diagnostics.error "preset.duplicate_mode" (Pointer.push path "id")
          ("mode `" ++ mode.id ++ "` declared twice")
      else []
    let empty :=
      if mode.tracks.isEmpty then
        Diagnostics.warning "preset.empty_mode" path ("mode `" ++ mode.id ++ "` has no tracks")
      else []
    let inner := checkTracks (Pointer.push path "tracks") seen mode.tracks 0
    own ++ empty ++ inner.diagnostics ++ checkModes (mode.id :: seenModes) inner.value rest (m + 1)

/-- Check the identifiers of a draft and that it has a track. -/
def checkIds (d : Draft) : Diagnostics :=
  let missing :=
    if Text.allBlank d.id then
      Diagnostics.error "preset.missing_id" "/id" "preset id must not be empty"
    else []
  let empty :=
    if d.globalTracks.isEmpty && d.modes.all fun m => m.tracks.isEmpty then
      Diagnostics.error "preset.empty" "" "preset has no tracks"
    else []
  let globals := checkTracks "/global_tracks" [] d.globalTracks 0
  missing ++ empty ++ globals.diagnostics ++ checkModes [] globals.value d.modes 0

/-- The mode in which a preset starts: the named one, or else the first. -/
def entry (d : Draft) : Finding (Option Nat) :=
  match d.entryMode with
  | some id =>
    match d.modes.findIdx? fun m => m.id == id with
    | some i => ⟨some i, []⟩
    | none =>
      ⟨none, Diagnostics.error "preset.unknown_entry_mode" "/entry_mode"
        ("entry mode `" ++ id ++ "` is not declared")⟩
  | none =>
    match d.modes with
    | [] => ⟨none, []⟩
    | first :: _ =>
      ⟨some 0, Diagnostics.info "preset.implicit_entry_mode" "/entry_mode"
        ("starting in first mode `" ++ first.id ++ "`")⟩

/-! ## Conditions and skills -/

/-- Decode a condition and check what was decoded. -/
def condition (catalogue : Catalogue) (value : Document) (path : String) :
    Finding (Option Condition) :=
  let decoded := Condition.decodeAt value path
  match decoded.1 with
  | none => ⟨none, decoded.2⟩
  | some c => ⟨some c, decoded.2 ++ c.check catalogue path⟩

/-- Look up a skill that is to be cast; it needs a valid key. -/
def skill (catalogue : Catalogue) (id path : String) : Finding (Option Skill) :=
  match catalogue.skill? id with
  | none =>
    ⟨none, Diagnostics.error "ref.unknown_skill" path ("skill `" ++ id ++ "` is not defined")⟩
  | some found =>
    let disabled :=
      if found.enabled then []
      else
        Diagnostics.warning "skill.disabled" path
          ("skill `" ++ id ++ "` is disabled and will be skipped")
    let missing :=
      Diagnostics.error "skill.key_missing" path ("skill `" ++ id ++ "` has no key")
    let key :=
      match found.key with
      | none => missing
      | some text =>
        if text.isEmpty then missing
        else
          match Chord.parse text with
          | .ok _ => []
          | .error e =>
            Diagnostics.error "skill.key_invalid" path ("skill `" ++ id ++ "`: " ++ e.message)
    ⟨some found, disabled ++ key⟩

/-- The point that shows a skill being cast. -/
def castBar (catalogue : Catalogue) (skill : Option Skill) (path : String) :
    Finding (Option String) :=
  match skill with
  | none => ⟨none, []⟩
  | some found =>
    match found.castBar with
    | some point =>
      if (catalogue.point? point).isSome then ⟨some point, []⟩
      else
        ⟨none, Diagnostics.error "ref.unknown_point" path
          ("cast bar point `" ++ point ++ "` of skill `" ++ found.id ++ "` is not defined")⟩
    | none =>
      ⟨none, Diagnostics.error "skill.cast_bar_point_missing" path
        ("cast-bar start needs `cast_bar_point` on skill `" ++ found.id ++ "`")⟩

/-! ## Skill nodes -/

/-- When a node is ready: as it says, or when the indicator of its skill shows;
a skill without an indicator is always ready. -/
def ready (catalogue : Catalogue) (node : SkillNode) (found : Option Skill) (path : String) :
    Finding Condition :=
  match node.ready with
  | some value =>
    let given := condition catalogue value (Pointer.push path "ready")
    ⟨given.value.getD (.const false), given.diagnostics⟩
  | none =>
    if found.any fun s => s.indicator.isNone then
      ⟨.const true, Diagnostics.info "skill.ready_assumed" path
        ("skill `" ++ node.skill ++
          "` has no pixel and no `ready` expression; it is always treated as ready")⟩
    else ⟨.skillShows node.skill none, []⟩

/-- The warning of a start that can never be seen. -/
def unobservable (node : SkillNode) (ready : Condition) (path : String) : Diagnostics :=
  if node.ready.isNone && node.start.condition.isNone && node.start.mode == .pixel &&
      ready.isConst true then
    Diagnostics.warning "start.pixel_unobservable" (Pointer.push path "start")
      ("skill `" ++ node.skill ++ "` has no pixel to go dark; pixel start can only time out")
  else []

/-- The condition that shows the start of the action. -/
def startCondition (catalogue : Catalogue) (node : SkillNode) (found : Option Skill)
    (ready : Condition) (path : String) : Finding (Option Condition) :=
  match node.start.condition with
  | some value => condition catalogue value (Pointer.push path "expr")
  | none =>
    match node.start.mode with
    | .none => ⟨none, []⟩
    | .pixel => ⟨some (.not ready), []⟩
    | .castBar =>
      let point := castBar catalogue found path
      ⟨point.value.map fun p => .barChanged p none, point.diagnostics⟩

/-- The error of a start that may take no time. -/
def startTimeout (node : SkillNode) (path : String) : Diagnostics :=
  if node.start.mode ≠ .none && node.start.timeoutMs == 0 then
    Diagnostics.error "start.timeout_range" (Pointer.push path "timeout_ms")
      "start timeout must be positive"
  else []

/-- The condition that shows the completion of the action; a cast bar that
showed the start shows the completion by its return. -/
def completionCondition (catalogue : Catalogue) (node : SkillNode) (found : Option Skill)
    (startPath path : String) : Finding (Option Condition) :=
  match node.completion.condition with
  | some value => condition catalogue value (Pointer.push path "expr")
  | none =>
    if node.completion.policy = .assumeSuccess then ⟨none, []⟩
    else if node.start.mode = .castBar then
      ⟨(castBar catalogue found startPath).value.map fun p => .not (.barChanged p none), []⟩
    else if node.completion.policy = .requireSignal then
      ⟨none, Diagnostics.error "completion.signal_missing" path
        "`require_signal` needs `expr` (or a cast-bar start to derive one)"⟩
    else
      ⟨none, Diagnostics.warning "completion.signal_missing" path
        "no completion signal; this node always falls back to assume-success"⟩

/-- Check the factor by which a completion may exceed the cast time. -/
def factor (node : SkillNode) (path : String) : Diagnostics :=
  let place := Pointer.push path "factor"
  if node.completion.factor.isNaN || node.completion.factor ≤ 0 then
    Diagnostics.error "completion.factor_range" place "factor must be positive"
  else if node.completion.factor < 1 && node.completion.policy ≠ .assumeSuccess then
    Diagnostics.warning "completion.factor_short" place
      "factor below 1 waits less than the declared cast time"
  else []

/-- The warning of a wait that may take no time. -/
def zeroWait (node : SkillNode) (path : String) : Diagnostics :=
  if node.lock.policy = .wait && node.lock.timeoutMs == 0 then
    Diagnostics.warning "lock.zero_wait" (Pointer.push path "lock")
      "`wait` with timeout 0 behaves like skip_and_advance"
  else []

/-- A node that casts a skill. -/
def skillNode (d : Draft) (catalogue : Catalogue) (node : SkillNode) (path : String) :
    Finding Rotation.SkillNode :=
  let found := skill catalogue node.skill (Pointer.push path "skill_id")
  let ready := ready catalogue node found.value path
  let startPath := Pointer.push path "start"
  let completionPath := Pointer.push path "completion"
  let start := startCondition catalogue node found.value ready.value startPath
  let completion := completionCondition catalogue node found.value startPath completionPath
  { value := {
      id := node.id
      skill := node.skill
      step := node.step.toInt
      gapMs := (node.gapMs.getD d.defaultGapMs).toNat
      ready := ready.value
      start := {
        mode := node.start.mode
        condition := start.value
        timeoutMs := node.start.timeoutMs.toNat
        retries := node.start.retries.toNat }
      completion := {
        policy := node.completion.policy
        condition := completion.value
        factor := node.completion.factor }
      lock := node.lock }
    diagnostics := found.diagnostics ++ ready.diagnostics ++ unobservable node ready.value path ++
      start.diagnostics ++ startTimeout node startPath ++ completion.diagnostics ++
      factor node completionPath ++ zeroWait node path }

/-! ## Gateways -/

/-- Check a reference to a node of a track. -/
def nodeOf (track : Track) (id path : String) : Diagnostics :=
  if track.hasNode id then []
  else
    Diagnostics.error "gateway.unknown_node" path
      ("node `" ++ id ++ "` is not part of track `" ++ track.id ++ "`")

/-- Check the track and node at which a switch enters its mode. -/
def switchEntry (target : Mode) (track node : Option String) (path : String) : Diagnostics :=
  match track, node with
  | some t, n =>
    match target.tracks.find? fun tr => tr.id == t with
    | none =>
      Diagnostics.error "gateway.unknown_track" (Pointer.push path "track_id")
        ("track `" ++ t ++ "` is not part of mode `" ++ target.id ++ "`")
    | some tr =>
      match n with
      | none => []
      | some id => nodeOf tr id (Pointer.push path "node_id")
  | none, some _ =>
    Diagnostics.error "gateway.node_without_track" (Pointer.push path "node_id")
      "`node_id` requires `track_id`"
  | none, none => []

/-- Check a switch to a mode. -/
def switchMode (d : Draft) (own : Option Mode) (mode : String) (track node : Option String)
    (path : String) : Diagnostics :=
  let target :=
    match d.modes.find? fun m => m.id == mode with
    | none =>
      Diagnostics.error "gateway.unknown_mode" (Pointer.push path "mode_id")
        ("mode `" ++ mode ++ "` is not declared")
    | some found => switchEntry found track node path
  let toSelf :=
    if own.any fun m => m.id == mode then
      Diagnostics.info "gateway.switch_to_self" path "switching to the active mode restarts it"
    else []
  target ++ toSelf

/-- Check a jump inside a track. -/
def jumpNode (gateway : Gateway) (ownTrack : Track) (node path : String) : Diagnostics :=
  let place := Pointer.push path "node_id"
  let toSelf :=
    if node = gateway.id then
      Diagnostics.warning "gateway.self_jump" place
        "jumping to itself re-evaluates this gateway every gap until its condition turns false"
    else []
  nodeOf ownTrack node place ++ toSelf

/-- The track that a jump can reach: a global one, or one of its own mode. -/
def reachable (d : Draft) (own : Option Mode) (track : String) : Option Track :=
  (d.globalTracks.find? fun t => t.id == track).or
    (own.bind fun m => m.tracks.find? fun t => t.id == track)

/-- Check a jump to a track. -/
def jumpTrack (d : Draft) (own : Option Mode) (track : String) (node : Option String)
    (path : String) : Diagnostics :=
  match reachable d own track with
  | some found =>
    match node with
    | none => []
    | some id => nodeOf found id (Pointer.push path "node_id")
  | none =>
    let place := Pointer.push path "track_id"
    if d.modes.any fun m => m.tracks.any fun t => t.id == track then
      Diagnostics.error "gateway.unreachable_track" place
        ("track `" ++ track ++
          "` belongs to another mode and is never active alongside this one")
    else
      Diagnostics.error "gateway.unknown_track" place ("track `" ++ track ++ "` is not declared")

/-- Check the action of a gateway. -/
def action (d : Draft) (catalogue : Catalogue) (own : Option Mode) (ownTrack : Track)
    (gateway : Gateway) (path : String) : Diagnostics :=
  match gateway.action with
  | .finish => []
  | .switchMode mode track node => switchMode d own mode track node path
  | .jumpNode node => jumpNode gateway ownTrack node path
  | .jumpTrack track node => jumpTrack d own track node path
  | .castSkill id => (skill catalogue id (Pointer.push path "skill_id")).diagnostics

/-- A gateway. -/
def gateway (d : Draft) (catalogue : Catalogue) (own : Option Mode) (ownTrack : Track)
    (node : Gateway) (path : String) : Finding Rotation.Gateway :=
  let given := condition catalogue node.condition (Pointer.push path "condition")
  let held := given.value.getD (.const false)
  let reset :=
    if node.resetsMetrics && held.metricAtoms.isEmpty then
      Diagnostics.warning "gateway.reset_nothing" (Pointer.push path "reset_metrics")
        "`reset_metrics` is set but the condition has no metric atoms"
    else []
  { value := {
      id := node.id
      step := node.step.toInt
      gapMs := node.gapMs.map UInt64.toNat
      condition := held
      action := node.action
      resetsMetrics := node.resetsMetrics }
    diagnostics := given.diagnostics ++
      action d catalogue own ownTrack node (Pointer.push path "action") ++ reset }

/-! ## Tracks and modes -/

/-- The results of a list of findings and all that was found. -/
def gather {α : Type} (findings : List (Finding α)) : Finding (List α) :=
  ⟨findings.map Finding.value, findings.flatMap Finding.diagnostics⟩

/-- A node at position `i` of a track. -/
def node (d : Draft) (catalogue : Catalogue) (own : Option Mode) (ownTrack : Track) (path : String)
    (n : Node) (i : Nat) : Finding Rotation.Node :=
  let place := Pointer.pushIndex (Pointer.push path "nodes") i
  match n with
  | .skill s =>
    let done := skillNode d catalogue s place
    ⟨.skill done.value, done.diagnostics⟩
  | .gateway g =>
    let done := gateway d catalogue own ownTrack g place
    ⟨.gateway done.value, done.diagnostics⟩

/-- A track of a mode, or a global one. -/
def track (d : Draft) (catalogue : Catalogue) (own : Option Mode) (t : Track) (path : String) :
    Finding Rotation.Track :=
  let nodes := gather (t.nodes.mapIdx fun i n => node d catalogue own t path n i)
  ⟨⟨t.id, nodes.value⟩, nodes.diagnostics⟩

/-- The mode at position `i`. -/
def mode (d : Draft) (catalogue : Catalogue) (m : Mode) (i : Nat) : Finding Rotation.Mode :=
  let base := Pointer.push (Pointer.pushIndex "/modes" i) "tracks"
  let tracks := gather (m.tracks.mapIdx fun j t =>
    track d catalogue (some m) t (Pointer.pushIndex base j))
  ⟨⟨m.id, tracks.value⟩, tracks.diagnostics⟩

end Draft

/-- The outcome of a validation. -/
structure Validation where
  diagnostics : Diagnostics
  requirements : Requirements
  preset : Option Preset

namespace Preset

/-- What the nodes of all modes and of the global tracks look at. -/
def allRequirements (p : Preset) (catalogue : Catalogue) : Requirements :=
  (((List.range p.modes.length).map some) ++ [none]).foldl
    (fun r mode => r.merge (p.requirements catalogue mode)) .empty

end Preset

/-- Validate a draft against a catalogue. -/
def Draft.validate (d : Draft) (catalogue : Catalogue) : Validation :=
  let entry := d.entry
  let globals := Draft.gather (d.globalTracks.mapIdx fun i t =>
    Draft.track d catalogue none t (Pointer.pushIndex "/global_tracks" i))
  let modes := Draft.gather (d.modes.mapIdx fun i m => Draft.mode d catalogue m i)
  let diagnostics := d.checkIds ++ entry.diagnostics ++ globals.diagnostics ++ modes.diagnostics
  let compiled : Preset := {
    id := d.id
    name := if d.name.isEmpty then d.id else d.name
    entryMode := entry.value
    globalTracks := globals.value
    modes := modes.value }
  { diagnostics
    requirements := compiled.allRequirements catalogue
    preset := if diagnostics.hasErrors then none else some compiled }

end Rotation
