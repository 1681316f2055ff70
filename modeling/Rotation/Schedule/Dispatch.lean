import Rotation.Schedule.Basic
import Rotation.Word.Checked

/-!
# Fired gateways

What a fired gateway does to the schedule.  Casting a skill and resetting
metrics are left to the caller, who also advances the gateway's own track
after a cast.  A jump that lands on the gateway itself waits out the gateway's
delay, so that it does not fire again at once.
-/

namespace Rotation

/-- Why an action of a preset cannot be carried out. -/
inductive DispatchFault where
  | noTrackAt (place : Place)
  | noNode (node track : String)
  | noMode (mode : String)
  | noTrack (track : String)
  | trackOutsideMode (track mode : String)
  | trackInactive (track : String)
  deriving DecidableEq, Repr

/-- The fault on one line. -/
def DispatchFault.message : DispatchFault → String
  | .noTrackAt place => "track " ++ place.text ++ " not in preset"
  | .noNode node track => "node `" ++ node ++ "` not in track `" ++ track ++ "`"
  | .noMode mode => "mode `" ++ mode ++ "` not in preset"
  | .noTrack track => "track `" ++ track ++ "` not in preset"
  | .trackOutsideMode track mode => "track `" ++ track ++ "` not in mode `" ++ mode ++ "`"
  | .trackInactive track => "track `" ++ track ++ "` is not active"

/-- What a fired gateway has done, or asks to be done. -/
inductive Effect where
  | ended
  | switched (source : Option String) (target : String)
  | jumped (target : Place) (node : Nat)
  | cast (skill : String)
  deriving DecidableEq, Repr

/-- An effect, and the mode that began again because of it. -/
structure Dispatched where
  effect : Effect
  looped : Option String
  deriving DecidableEq, Repr

namespace Schedule

/-- Position of the node that a jump names, or of the first one. -/
def landingNode (preset : Preset) (place : Place) (node : Option String) :
    Except DispatchFault Nat :=
  match preset.track? place with
  | none => .error (.noTrackAt place)
  | some track =>
    match node with
    | none => .ok 0
    | some id =>
      match track.position? id with
      | some i => .ok i
      | none => .error (.noNode id track.id)

/-- When the node that a jump lands on is due. -/
def landingTime (preset : Preset) (target : Place) (node : Nat) (gateway : Gateway)
    (now delay : Nat) : Checked Nat :=
  if ((preset.track? target).bind fun t => t.position? gateway.id) = some node then
    Unsigned.add 64 now delay
  else .ok now

/-- The outcome of a dispatch and the schedule after it; a dispatch that fails
keeps what it has changed before. -/
abbrev Outcome :=
  Except DispatchFault Dispatched × Schedule

/-- Enter the track and node that a switch of mode names. -/
def enter (s : Schedule) (preset : Preset) (mode : Nat) (modeId track : String)
    (node : Option String) (now : Nat) : Except DispatchFault Schedule :=
  match preset.locate? track with
  | some (.mode m t) =>
    if m = mode then do
      let i ← landingNode preset (.mode m t) node
      return s.relocate (.mode m t) i now
    else .error (.trackOutsideMode track modeId)
  | _ => .error (.trackOutsideMode track modeId)

/-- Begin a mode, at the track and node that a switch names. -/
def beginMode (s : Schedule) (preset : Preset) (mode : Nat) (modeId : String)
    (track node : Option String) (now : Nat) (done : Dispatched) : Outcome :=
  let switched := (s.switchMode? preset mode now).getD s
  match track with
  | none => (.ok done, switched)
  | some t =>
    match switched.enter preset mode modeId t node now with
    | .ok entered => (.ok done, entered)
    | .error e => (.error e, switched)

/-- Switch to a mode; a global track moves on first. -/
def dispatchSwitch (s : Schedule) (preset : Preset) (place : Place) (modeId : String)
    (track node : Option String) (now delay : Nat) : Checked Outcome :=
  match preset.modeIndex? modeId with
  | none => .ok (.error (.noMode modeId), s)
  | some mode => do
    let (looped, moved) ← match place with
      | .global _ => do
        let later ← Unsigned.add 64 now delay
        pure (s.advance place later)
      | .mode _ _ => pure (none, s)
    return moved.beginMode preset mode modeId track node now ⟨.switched s.modeId modeId, looped⟩

/-- Jump inside the own track. -/
def dispatchJumpNode (s : Schedule) (preset : Preset) (place : Place) (gateway : Gateway)
    (node : String) (now delay : Nat) : Checked Outcome :=
  match landingNode preset place (some node) with
  | .error e => .ok (.error e, s)
  | .ok i => do
    let time ← landingTime preset place i gateway now delay
    return (.ok ⟨.jumped place i, none⟩, s.relocate place i time)

/-- Jump to a track; the own track moves on first, unless it is the target. -/
def dispatchJumpTrack (s : Schedule) (preset : Preset) (place : Place) (gateway : Gateway)
    (track : String) (node : Option String) (now delay : Nat) : Checked Outcome :=
  match preset.locate? track with
  | none => .ok (.error (.noTrack track), s)
  | some target =>
    if !s.isActive target then .ok (.error (.trackInactive track), s)
    else
      match landingNode preset target node with
      | .error e => .ok (.error e, s)
      | .ok i => do
        let (looped, moved) ←
          if target = place then pure (none, s)
          else do
            let later ← Unsigned.add 64 now delay
            pure (s.advance place later)
        let time ← landingTime preset target i gateway now delay
        return (.ok ⟨.jumped target i, looped⟩, moved.relocate target i time)

/-- Apply a fired gateway at a place.  The gateway's own track waits `delay`
before its next node. -/
def dispatch (s : Schedule) (preset : Preset) (place : Place) (gateway : Gateway)
    (now delay : Nat) : Checked Outcome :=
  match gateway.action with
  | .finish => .ok (.ok ⟨.ended, none⟩, s)
  | .switchMode mode track node => s.dispatchSwitch preset place mode track node now delay
  | .jumpNode node => s.dispatchJumpNode preset place gateway node now delay
  | .jumpTrack track node => s.dispatchJumpTrack preset place gateway track node now delay
  | .castSkill skill => .ok (.ok ⟨.cast skill, none⟩, s)

end Schedule

end Rotation
