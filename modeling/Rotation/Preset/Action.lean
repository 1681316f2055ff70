import Rotation.Document.Record

/-!
# Gateway actions

What a gateway does when its condition is true, and the written form of it.
An action is written as a record with its name in the field `type`, or as a
list that begins with the name.
-/

namespace Rotation

/-- What a gateway does when it fires. -/
inductive Action where
  | finish
  | switchMode (mode : String) (track node : Option String)
  | jumpNode (node : String)
  | jumpTrack (track : String) (node : Option String)
  | castSkill (skill : String)
  deriving DecidableEq, Repr, Inhabited

/-- The kinds of actions. -/
inductive ActionKind where
  | finish
  | switchMode
  | jumpNode
  | jumpTrack
  | castSkill
  deriving DecidableEq, Repr

namespace ActionKind

/-- All kinds in declared order. -/
def all : List ActionKind :=
  [.finish, .switchMode, .jumpNode, .jumpTrack, .castSkill]

/-- The name of a kind in documents. -/
def name : ActionKind → String
  | .finish => "end"
  | .switchMode => "switch_mode"
  | .jumpNode => "jump_node"
  | .jumpTrack => "jump_track"
  | .castSkill => "exec_skill"

/-- The kind with a name. -/
def ofName? (s : String) : Option ActionKind :=
  all.find? fun k => k.name == s

/-- The field names of a kind, in declared order. -/
def fields : ActionKind → List String
  | .finish => []
  | .switchMode => ["mode_id", "track_id", "node_id"]
  | .jumpNode => ["node_id"]
  | .jumpTrack => ["track_id", "node_id"]
  | .castSkill => ["skill_id"]

end ActionKind

namespace Action

/-- The kind of an action. -/
def kind : Action → ActionKind
  | .finish => .finish
  | .switchMode _ _ _ => .switchMode
  | .jumpNode _ => .jumpNode
  | .jumpTrack _ _ => .jumpTrack
  | .castSkill _ => .castSkill

/-- The name of an action. -/
def name (a : Action) : String :=
  a.kind.name

/-- The written form of an action. -/
def toDocument (a : Action) : Document :=
  .record (("type", .text a.name) ::
    match a with
    | .finish => []
    | .switchMode mode track node =>
      [("mode_id", .text mode), ("track_id", .option .text track), ("node_id", .option .text node)]
    | .jumpNode node => [("node_id", .text node)]
    | .jumpTrack track node => [("track_id", .text track), ("node_id", .option .text node)]
    | .castSkill skill => [("skill_id", .text skill)])

end Action

namespace Source

/-- The tag of a tagged value and the rest of it: the field with the given
name, which must not repeat, or the first item of a list. -/
def tagged? (tag : String) : Source → Option (Source × Source)
  | .record entries =>
    match entries.filter fun entry => entry.1 == tag with
    | [(_, value)] => some (value, .record (entries.filter fun entry => entry.1 != tag))
    | _ => none
  | .list (first :: rest) => some (first, .list rest)
  | _ => none

/-- Read an action of a known kind from its fields. -/
def actionOf (kind : ActionKind) (s : Source) : Option Action :=
  match kind with
  | .finish =>
    match s with
    | .record _ | .list [] => some .finish
    | _ => none
  | _ => do
    let fields ← fields? kind.fields s
    let optionalText := fun name => optional fields name text?
    match kind with
    | .finish => none
    | .switchMode =>
      return .switchMode (← required fields "mode_id" text?) (← optionalText "track_id")
        (← optionalText "node_id")
    | .jumpNode => return .jumpNode (← required fields "node_id" text?)
    | .jumpTrack =>
      return .jumpTrack (← required fields "track_id" text?) (← optionalText "node_id")
    | .castSkill => return .castSkill (← required fields "skill_id" text?)

/-- Read an action that stands by itself. -/
def action? (s : Source) : Option Action := do
  let (tag, rest) ← tagged? "type" s
  let kind ← (text? tag).bind ActionKind.ofName?
  actionOf kind rest

/-- Read an action inside a node, where the kind may also be given by its
position among all kinds. -/
def nestedAction? (s : Source) : Option Action := do
  let (tag, rest) ← tagged? "type" s
  let kind ← match tag with
    | .text name => ActionKind.ofName? name
    | .integer (.ofNat i) => ActionKind.all[i]?
    | _ => none
  actionOf kind rest

end Source

end Rotation
