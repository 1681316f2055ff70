import Rotation.Attempt.Store

/-!
# Settings

The numbers that a user can choose, and the defaults of those not chosen.
-/

namespace Rotation

/-- How the screen is captured: how long a snapshot may be reused, which part
of a screen is captured whole, and how failures are spaced. -/
structure CaptureSettings where
  ttlMs : UInt64
  roiThreshold : Float
  backoffBaseMs : UInt64
  backoffCapMs : UInt64
  deriving Inhabited, BEq

/-- The standard way to capture. -/
def CaptureSettings.standard : CaptureSettings :=
  ⟨30, 0.4, 50, 2000⟩

/-- How a preset is run: the interval of polling, the delays after skipped
nodes and gateways, the longest idle wait, and the bounds of histories. -/
structure EngineSettings where
  pollMs : UInt64
  skipRetryMs : UInt64
  gatewayDelayMs : UInt64
  idleWaitMs : UInt64
  recentAttempts : UInt64
  attemptNotes : UInt64
  deriving Inhabited, BEq

namespace EngineSettings

/-- The standard way to run. -/
def standard : EngineSettings :=
  ⟨15, 100, 20, 250, 20, 64⟩

/-- The bounds of histories. -/
def limits (s : EngineSettings) : StoreLimits :=
  ⟨s.recentAttempts.toNat, s.attemptNotes.toNat⟩

end EngineSettings

/-- How keys are pressed: the pause after a press and its random part. -/
structure InputSettings where
  keySettleMs : UInt64
  keyJitter : Float
  deriving Inhabited, BEq

/-- The standard way to press keys. -/
def InputSettings.standard : InputSettings :=
  ⟨40, 0.25⟩

/-- How far a simulation goes. -/
structure SimulationSettings where
  maxMs : UInt64
  maxNodes : UInt64
  deriving Inhabited, BEq

/-- The standard length of a simulation. -/
def SimulationSettings.standard : SimulationSettings :=
  ⟨600000, 2000⟩

/-- All settings, and the preset that was started last. -/
structure Settings where
  lastPreset : Option String
  capture : CaptureSettings
  engine : EngineSettings
  input : InputSettings
  simulation : SimulationSettings
  deriving Inhabited, BEq

/-- The settings of a user who has chosen nothing. -/
def Settings.standard : Settings :=
  ⟨none, .standard, .standard, .standard, .standard⟩

end Rotation
