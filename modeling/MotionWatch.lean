import MotionWatch.Text.Blank
import MotionWatch.Text.KeyValue
import MotionWatch.Text.Utf8
import MotionWatch.Decimal.Integer
import MotionWatch.Decimal.Binary
import MotionWatch.Decimal.Number
import MotionWatch.Decimal.Shortest
import MotionWatch.Decimal.Layout
import MotionWatch.Count
import MotionWatch.Table
import MotionWatch.Log
import MotionWatch.Parameter.Value
import MotionWatch.Parameter.Set
import MotionWatch.Parameter.Presets
import MotionWatch.Fault
import MotionWatch.Frame.Pixel
import MotionWatch.Frame.Basic
import MotionWatch.Image.Picture
import MotionWatch.Frame.Convert
import MotionWatch.Image.Jpeg
import MotionWatch.Image.Netpbm
import MotionWatch.Image.Png
import MotionWatch.Image.File
import MotionWatch.Raster
import MotionWatch.Despeckle
import MotionWatch.Mask.Basic
import MotionWatch.Mask.File
import MotionWatch.Block.Area
import MotionWatch.Block.Detector
import MotionWatch.Plugin.TerminatedText
import MotionWatch.Plugin.Elf
import MotionWatch.Plugin.ElfFile
import MotionWatch.Plugin.Border
import MotionWatch.Plugin.External
import MotionWatch.Detection.Position
import MotionWatch.Detection.Statistics
import MotionWatch.Detection.Detector
import MotionWatch.Record.MetaBoard
import MotionWatch.Record.EventLog
import MotionWatch.Record.PreRecord
import MotionWatch.Notify.Exchange
import MotionWatch.Script.Slot
import MotionWatch.Script.Shell
import MotionWatch.Script.Hook
import MotionWatch.Worker.Control
import MotionWatch.Worker.Pace
import MotionWatch.Trigger.Counters
import MotionWatch.Trigger.Action
import MotionWatch.Trigger.Motion
import MotionWatch.Trigger.Host
import MotionWatch.Trigger.MotionRun
import MotionWatch.Trigger.Cascade
import MotionWatch.Trigger.Audio
import MotionWatch.Json.Number
import MotionWatch.Json.Basic
import MotionWatch.Json.Decode
import MotionWatch.Config.Trigger
import MotionWatch.Site.Operations
import MotionWatch.Decimal.Remainder
import MotionWatch.Simulation.Scene
import MotionWatch.Simulation.Noise
import MotionWatch.Simulation.Camera
import MotionWatch.Simulation.Microphone
import MotionWatch.Simulation.Recorder
import MotionWatch.Simulation.Config
import MotionWatch.Simulation.Studio
import MotionWatch.Simulation.Schedule
import MotionWatch.Simulation.Report
import MotionWatch.Simulation.CommandLine
import MotionWatch.Main
import MotionWatch.Proofs.Notify.Exchange
import MotionWatch.Proofs.Trigger.Advance
import MotionWatch.Proofs.Trigger.Concern
import MotionWatch.Proofs.Trigger.Reaction
import MotionWatch.Proofs.Trigger.History
import MotionWatch.Proofs.Trigger.Recordings
import MotionWatch.Proofs.Notify.Perform
import MotionWatch.Proofs.Trigger.Cascade
import MotionWatch.Proofs.Trigger.Follower
import MotionWatch.Proofs.Trigger.Convoy
import MotionWatch.Proofs.Trigger.Episodes
import MotionWatch.Proofs.Trigger.MotionRun
import MotionWatch.Proofs.Detection.Comparison
import MotionWatch.Proofs.Despeckle.Basic
import MotionWatch.Proofs.Trigger.Deliveries
import MotionWatch.Proofs.Trigger.Ending
import MotionWatch.Proofs.Trigger.Futile
import MotionWatch.Proofs.Frame.Grey
import MotionWatch.Proofs.Detection.Counting
import MotionWatch.Proofs.Detection.Session
import MotionWatch.Proofs.Detection.Workbench
import MotionWatch.Proofs.Mask.Full
import MotionWatch.Proofs.Parameter.Set
import MotionWatch.Proofs.Detection.Paths
import MotionWatch.Proofs.Despeckle.Reach
import MotionWatch.Proofs.Detection.Influence
import MotionWatch.Proofs.Trigger.HandOver
import MotionWatch.Proofs.Record.EventLog
import MotionWatch.Proofs.Trigger.Team
import MotionWatch.Proofs.Notify.Chronicle
import MotionWatch.Proofs.Trigger.Earshot
import MotionWatch.Proofs.Trigger.Outline
import MotionWatch.Proofs.Trigger.Gimbal
import MotionWatch.Proofs.Trigger.Rounds
import MotionWatch.Proofs.Trigger.Launches
import MotionWatch.Proofs.Trigger.CascadeRun
import MotionWatch.Proofs.Parameter.Administration
import MotionWatch.Proofs.Worker.Rate
import MotionWatch.Proofs.Trigger.Crash
import MotionWatch.Proofs.Trigger.Instances
import MotionWatch.Proofs.Despeckle.Window
import MotionWatch.Proofs.Despeckle.Threshold
import MotionWatch.Proofs.Block.Area
import MotionWatch.Proofs.Block.Component
import MotionWatch.Proofs.Block.Grid
import MotionWatch.Proofs.Block.Safety
import MotionWatch.Proofs.Block.Influence
import MotionWatch.Proofs.Trigger.Obedience
import MotionWatch.Proofs.Despeckle.Closing
import MotionWatch.Proofs.Despeckle.Letters
import MotionWatch.Proofs.Parameter.Overrides
import MotionWatch.Proofs.Record.PreRecord
import MotionWatch.Proofs.Decimal.Integer
import MotionWatch.Proofs.Parameter.Text
import MotionWatch.Proofs.Config.Parameters
import MotionWatch.Proofs.Frame.Laws
import MotionWatch.Proofs.Detection.Consultation
import MotionWatch.Proofs.Text.KeyValue
import MotionWatch.Proofs.Plugin.Exports
import MotionWatch.Proofs.Plugin.External
import MotionWatch.Proofs.Plugin.Crossing
import MotionWatch.Proofs.Parameter.WriteBack
import MotionWatch.Proofs.Despeckle.Duality
import MotionWatch.Proofs.Despeckle.Symmetry
import MotionWatch.Proofs.Parameter.Coercion
import MotionWatch.Proofs.Trigger.Aim
