import Rotation.Attempt.Stage
import Rotation.Attempt.Store
import Rotation.Attempt.Wire
import Rotation.Capture.Baselines
import Rotation.Capture.Manager
import Rotation.Capture.Plan
import Rotation.Capture.Wire
import Rotation.Cast.Attempt
import Rotation.Cast.Lock
import Rotation.Cast.Session
import Rotation.Cast.Wire
import Rotation.Catalogue.Basic
import Rotation.Catalogue.Wire
import Rotation.CommandLine.Arguments
import Rotation.CommandLine.Grammar
import Rotation.CommandLine.Options
import Rotation.CommandLine.Refusal
import Rotation.CommandLine.Run
import Rotation.CommandLine.Session
import Rotation.Condition.Basic
import Rotation.Condition.Check
import Rotation.Condition.Eval
import Rotation.Condition.Requirements
import Rotation.Condition.Wire
import Rotation.Console.Basic
import Rotation.Console.Control
import Rotation.Console.Dialog
import Rotation.Console.Feed
import Rotation.Console.Input
import Rotation.Console.Keys
import Rotation.Console.View
import Rotation.Decimal.Literal
import Rotation.Decimal.Shortest
import Rotation.Diagnostic.Basic
import Rotation.Diagnostic.Wire
import Rotation.Document.Basic
import Rotation.Document.Printer
import Rotation.Document.Record
import Rotation.Document.Source
import Rotation.Document.Token
import Rotation.Engine.Basic
import Rotation.Engine.Control
import Rotation.Engine.Run
import Rotation.Engine.Wire
import Rotation.Event.Basic
import Rotation.Event.Bus
import Rotation.Files.Folder
import Rotation.Files.Path
import Rotation.Files.Tree
import Rotation.Journal.Basic
import Rotation.Key.Chord
import Rotation.Key.Settle
import Rotation.Library.Load
import Rotation.Main
import Rotation.Order.Keyed
import Rotation.Preset.Action
import Rotation.Preset.Basic
import Rotation.Preset.Draft
import Rotation.Preset.Policy
import Rotation.Preset.Report
import Rotation.Preset.Validation
import Rotation.Preset.Wire
import Rotation.Rehearsal.AttemptScript
import Rotation.Rehearsal.CaptureScript
import Rotation.Rehearsal.ConsoleScript
import Rotation.Rehearsal.Equipment
import Rotation.Rehearsal.FileScript
import Rotation.Rehearsal.Report
import Rotation.Rehearsal.RunScript
import Rotation.Rehearsal.Scene
import Rotation.Rehearsal.Script
import Rotation.Rehearsal.SessionScript
import Rotation.Schedule.Basic
import Rotation.Schedule.Cursor
import Rotation.Schedule.Dispatch
import Rotation.Schedule.Wire
import Rotation.Screen.Color
import Rotation.Screen.Frame
import Rotation.Screen.Grab
import Rotation.Screen.Observation
import Rotation.Screen.Rect
import Rotation.Screen.Wire
import Rotation.Settings.Basic
import Rotation.Settings.Wire
import Rotation.Simulation.Run
import Rotation.Simulation.Timeline
import Rotation.Terminal.Canvas
import Rotation.Terminal.EmojiTable
import Rotation.Terminal.Escapes
import Rotation.Terminal.Glyph
import Rotation.Terminal.Style
import Rotation.Terminal.Width
import Rotation.Terminal.WidthTable
import Rotation.Terminal.Wrap
import Rotation.Text.CaseTable
import Rotation.Text.Character
import Rotation.Text.Cluster
import Rotation.Text.ClusterTable
import Rotation.Text.Line
import Rotation.Text.LowerCase
import Rotation.Text.Number
import Rotation.Text.Quoted
import Rotation.Text.Similarity
import Rotation.Text.UnseenTable
import Rotation.Word.Checked
import Rotation.Proofs.Schedule.Call
import Rotation.Proofs.Schedule.Candidates
import Rotation.Proofs.Schedule.Coherence
import Rotation.Proofs.Preset.References
import Rotation.Proofs.Preset.Validation
import Rotation.Proofs.Schedule.Dispatch
import Rotation.Proofs.Schedule.Run
import Rotation.Proofs.Simulation.Soundness
import Rotation.Proofs.Attempt.Linked
import Rotation.Proofs.Attempt.Replay
import Rotation.Proofs.Schedule.Lap
import Rotation.Proofs.Condition.Evaluation
import Rotation.Proofs.Condition.Information
import Rotation.Proofs.Condition.Footprint
import Rotation.Proofs.Condition.Decoding
import Rotation.Proofs.Cast.Course
import Rotation.Proofs.Cast.Completion
import Rotation.Proofs.Condition.Grounding
import Rotation.Proofs.Preset.Grounding
import Rotation.Proofs.Cast.Grounding
import Rotation.Proofs.Simulation.Course
import Rotation.Proofs.Simulation.Grounding
import Rotation.Proofs.Simulation.Cooldown
import Rotation.Proofs.Simulation.Metrics
import Rotation.Proofs.Capture.Rounds
import Rotation.Proofs.Capture.Backoff
import Rotation.Proofs.Diagnostic.Pointer
import Rotation.Proofs.Condition.Nodes
import Rotation.Proofs.Condition.Grammar
import Rotation.Proofs.Condition.RoundTrip
import Rotation.Proofs.Condition.Places
import Rotation.Proofs.Screen.Rect
import Rotation.Proofs.Screen.Frame
import Rotation.Proofs.Capture.Regions
import Rotation.Proofs.Attempt.UnderWay
import Rotation.Proofs.Cast.Acts
import Rotation.Proofs.Cast.Strides
import Rotation.Proofs.Cast.LifeCycle
import Rotation.Proofs.Engine.Acts
import Rotation.Proofs.Engine.Strides
import Rotation.Proofs.Engine.Course
import Rotation.Proofs.Engine.End
import Rotation.Proofs.Engine.Pausing
import Rotation.Proofs.Engine.Stopping
import Rotation.Proofs.Preset.Scope
import Rotation.Proofs.Cast.Baselines
import Rotation.Proofs.Engine.Toggling
import Rotation.Proofs.Engine.Watching
import Rotation.Proofs.Preset.Reordering
import Rotation.Proofs.Schedule.Reordering
import Rotation.Proofs.Simulation.Reordering
import Rotation.Proofs.Simulation.Turns
import Rotation.Proofs.Simulation.Overflow
import Rotation.Proofs.Schedule.Due
import Rotation.Proofs.Simulation.Refiring
import Rotation.Proofs.Cast.Pace
import Rotation.Proofs.Engine.Agreement
import Rotation.Proofs.Cast.Exclusion
import Rotation.Proofs.Event.Delivery
import Rotation.Proofs.Event.Traffic
import Rotation.Proofs.Capture.Charting
import Rotation.Proofs.Capture.Freshness
import Rotation.Proofs.Screen.Addressing
import Rotation.Proofs.Capture.Faults
import Rotation.Proofs.Schedule.Standing
import Rotation.Proofs.Schedule.Jumping
import Rotation.Proofs.Schedule.Switching
import Rotation.Proofs.Engine.Refusals
import Rotation.Proofs.Schedule.DueOrder
import Rotation.Proofs.Simulation.Tour
import Rotation.Proofs.Condition.Denotation
import Rotation.Proofs.Condition.Consulting
import Rotation.Proofs.Condition.Faults
import Rotation.Proofs.Attempt.Finality
import Rotation.Proofs.Attempt.Retention
import Rotation.Proofs.Condition.Pointing
import Rotation.Proofs.Preset.Dangling
import Rotation.Proofs.Cast.Recording
import Rotation.Proofs.Cast.Pressing
import Rotation.Proofs.Screen.Averaging
import Rotation.Proofs.Capture.Reporting
import Rotation.Proofs.Key.NormalForm
import Rotation.Proofs.Cast.Polling
import Rotation.Proofs.Screen.Painting
import Rotation.Proofs.Text.Spelling
import Rotation.Proofs.Catalogue.Entries
import Rotation.Proofs.Files.Names
import Rotation.Proofs.Library.Discovery
import Rotation.Proofs.Console.Scrolling
import Rotation.Proofs.Screen.Lattice
