import Rotation.Attempt.Store
import Rotation.Capture.Baselines
import Rotation.Cast.Lock
import Rotation.Catalogue.Basic
import Rotation.Condition.Eval
import Rotation.Event.Bus
import Rotation.Journal.Basic
import Rotation.Key.Chord
import Rotation.Settings.Basic
import Rotation.Word.Checked

/-!
# Live sessions

A session is all that changes while presets are run: the clock, the stop flag,
the cast lock, the attempts, the baselines, the bus, the journal and the
equipment.  A live computation works on a session; when it crashes, the session
stays as it was left.

Equipment is anything with a way to sample the screen and to press keys.  Each
failure of a press ends the attempt, and its code is the reason of the attempt.
-/

namespace Rotation

/-- Why a key was not pressed. -/
inductive PressError where
  | unbound
  | badChord (error : ChordError)
  | backend (message : String)
  deriving DecidableEq, Repr

namespace PressError

/-- The code of a failure. -/
def code : PressError → String
  | .unbound | .badChord _ => "key_unresolved"
  | .backend _ => "dispatch_failed"

/-- The failure on one line. -/
def message : PressError → String
  | .unbound => "skill has no key bound"
  | .badChord e => e.message
  | .backend message => "input backend failed: " ++ message

end PressError

/-- Why a live computation has broken down. -/
inductive Crash where
  | fault (fault : Fault)
  | raised (message : String)
  | unnamed
  deriving DecidableEq, Repr

/-- The crash on one line. -/
def Crash.message : Crash → String
  | .fault f => f.message
  | .raised message => message
  | .unnamed => "panic"

/-- How equipment is used: a sample is taken at a time and may tell of events,
and a press may fail. -/
structure Rig (σ : Type) where
  sample : Spot → Nat → σ → Except Crash (Observed Color) × List Event × σ
  press : Chord → σ → Except Crash (Except PressError Unit) × σ

/-- All that changes during a run. -/
structure Session (σ : Type) where
  now : Nat
  cancelled : Bool
  lock : CastLock
  store : Store
  baselines : Baselines
  bus : Bus
  journal : Journal
  equipment : σ

/-- A computation on a session that may crash. -/
abbrev Live (σ α : Type) := ExceptT Crash (StateM (Session σ)) α

namespace Live

variable {σ α : Type}

/-- The session as it is. -/
def session : Live σ (Session σ) :=
  get

/-- Publish events. -/
def publish (events : List Event) : Live σ Unit :=
  modify fun s => { s with bus := s.bus.publishAll events }

/-- Add to the journal. -/
def remark (f : Journal → Journal) : Live σ Unit :=
  modify fun s => { s with journal := f s.journal }

/-- Operate on the store at the present time and publish what happened. -/
def change (f : Store → Nat → Store.Change α) : Live σ α := do
  let s ← session
  let c := f s.store s.now
  modify fun s => { s with store := c.store }
  publish c.events
  return c.result

/-- Sample the screen. -/
def sample (rig : Rig σ) (spot : Spot) : Live σ (Observed Color) := do
  let s ← session
  let (result, events, equipment) := rig.sample spot s.now s.equipment
  modify fun s => { s with equipment }
  publish events
  match result with
  | .ok found => return found
  | .error crash => throw crash

/-- Press a key. -/
def press (rig : Rig σ) (chord : Chord) : Live σ (Except PressError Unit) := do
  let s ← session
  let (result, equipment) := rig.press chord s.equipment
  modify fun s => { s with equipment }
  match result with
  | .ok sent => return sent
  | .error crash => throw crash

/-- Evaluate a condition against the screen, the attempts so far and the
recorded baselines. -/
def eval (rig : Rig σ) (catalogue : Catalogue) (condition : Condition) : Live σ Evaluation := do
  let s ← session
  condition.eval catalogue (sample rig) ⟨some s.store.lookup, some s.baselines.lookup⟩

/-- Let go of the cast lock. -/
def release : Live σ Unit :=
  modify fun s => { s with lock := s.lock.release }

/-- Run a computation that holds the cast lock; a crash releases it. -/
def holding (x : Live σ α) : Live σ α :=
  tryCatch x fun crash => do
    release
    throw crash

end Live

end Rotation
