import Rotation.Document.Printer
import Rotation.Document.Record
import Rotation.Preset.Wire
import Rotation.Settings.Basic

/-!
# Settings in documents

The written form of settings and its reading.  A text that cannot be read
stands for the standard settings.
-/

namespace Rotation

namespace Source

/-- Read capture settings. -/
def captureSettings? (s : Source) : Option CaptureSettings := do
  let fields ← fields? ["ttl_ms", "roi_threshold", "backoff_base_ms", "backoff_cap_ms"] s
  let standard := CaptureSettings.standard
  return {
    ttlMs := ← withDefault fields "ttl_ms" standard.ttlMs word64?
    roiThreshold := ← withDefault fields "roi_threshold" standard.roiThreshold real?
    backoffBaseMs := ← withDefault fields "backoff_base_ms" standard.backoffBaseMs word64?
    backoffCapMs := ← withDefault fields "backoff_cap_ms" standard.backoffCapMs word64? }

/-- Read engine settings. -/
def engineSettings? (s : Source) : Option EngineSettings := do
  let fields ← fields? ["poll_ms", "skip_retry_ms", "gateway_delay_ms", "idle_wait_ms",
    "recent_attempts", "attempt_events"] s
  let standard := EngineSettings.standard
  return {
    pollMs := ← withDefault fields "poll_ms" standard.pollMs word64?
    skipRetryMs := ← withDefault fields "skip_retry_ms" standard.skipRetryMs word64?
    gatewayDelayMs := ← withDefault fields "gateway_delay_ms" standard.gatewayDelayMs word64?
    idleWaitMs := ← withDefault fields "idle_wait_ms" standard.idleWaitMs word64?
    recentAttempts := ← withDefault fields "recent_attempts" standard.recentAttempts word64?
    attemptNotes := ← withDefault fields "attempt_events" standard.attemptNotes word64? }

/-- Read input settings. -/
def inputSettings? (s : Source) : Option InputSettings := do
  let fields ← fields? ["key_settle_ms", "key_jitter"] s
  let standard := InputSettings.standard
  return {
    keySettleMs := ← withDefault fields "key_settle_ms" standard.keySettleMs word64?
    keyJitter := ← withDefault fields "key_jitter" standard.keyJitter real? }

/-- Read simulation settings. -/
def simulationSettings? (s : Source) : Option SimulationSettings := do
  let fields ← fields? ["max_ms", "max_nodes"] s
  let standard := SimulationSettings.standard
  return {
    maxMs := ← withDefault fields "max_ms" standard.maxMs word64?
    maxNodes := ← withDefault fields "max_nodes" standard.maxNodes word64? }

/-- Read settings. -/
def settings? (s : Source) : Option Settings := do
  let fields ← fields? ["last_preset", "capture", "engine", "input", "sim"] s
  return {
    lastPreset := ← optional fields "last_preset" text?
    capture := ← withDefault fields "capture" .standard captureSettings?
    engine := ← withDefault fields "engine" .standard engineSettings?
    input := ← withDefault fields "input" .standard inputSettings?
    simulation := ← withDefault fields "sim" .standard simulationSettings? }

end Source

namespace Settings

/-- The settings that a text holds, or the standard ones. -/
def ofText (text : Option String) : Settings :=
  ((text.bind Source.read?).bind Source.settings?).getD .standard

/-- The written form of settings; how a real number is written is left to the
caller. -/
def toDocument (real : Float → Document) (s : Settings) : Document :=
  .record [
    ("last_preset", .option .text s.lastPreset),
    ("capture", .record [("ttl_ms", .word64 s.capture.ttlMs),
      ("roi_threshold", real s.capture.roiThreshold),
      ("backoff_base_ms", .word64 s.capture.backoffBaseMs),
      ("backoff_cap_ms", .word64 s.capture.backoffCapMs)]),
    ("engine", .record [("poll_ms", .word64 s.engine.pollMs),
      ("skip_retry_ms", .word64 s.engine.skipRetryMs),
      ("gateway_delay_ms", .word64 s.engine.gatewayDelayMs),
      ("idle_wait_ms", .word64 s.engine.idleWaitMs),
      ("recent_attempts", .word64 s.engine.recentAttempts),
      ("attempt_events", .word64 s.engine.attemptNotes)]),
    ("input", .record [("key_settle_ms", .word64 s.input.keySettleMs),
      ("key_jitter", real s.input.keyJitter)]),
    ("sim", .record [("max_ms", .word64 s.simulation.maxMs),
      ("max_nodes", .word64 s.simulation.maxNodes)])]

/-- The text in which settings are kept. -/
def toText (s : Settings) : String :=
  (s.toDocument .real).pretty

end Settings

end Rotation
