/-!
# Stages of an attempt

An attempt to cast a skill goes through stages; the last three end it.
-/

namespace Rotation

/-- How far an attempt has come. -/
inductive Stage where
  | preparing
  | startWait
  | casting
  | completeWait
  | success
  | failed
  | stopped
  deriving DecidableEq, Repr, Inhabited

namespace Stage

/-- All stages in the order in which they are passed. -/
def all : List Stage :=
  [.preparing, .startWait, .casting, .completeWait, .success, .failed, .stopped]

/-- Whether a stage ends the attempt. -/
def isTerminal : Stage → Bool
  | .success | .failed | .stopped => true
  | _ => false

/-- The name of a stage. -/
def name : Stage → String
  | .preparing => "PREPARING"
  | .startWait => "START_WAIT"
  | .casting => "CASTING"
  | .completeWait => "COMPLETE_WAIT"
  | .success => "SUCCESS"
  | .failed => "FAILED"
  | .stopped => "STOPPED"

/-- The stage with a name. -/
def ofName? (s : String) : Option Stage :=
  all.find? fun stage => stage.name == s

end Stage

end Rotation
