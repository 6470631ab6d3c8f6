import XBloom.Py.Number
import XBloom.Py.Value
import XBloom.Ble.Commands
import XBloom.Ble.Models
import XBloom.Ble.Framing
import XBloom.Brewing.Payload
import XBloom.Brewing.DoseRatio
import XBloom.Codec.Groups
import XBloom.Brewing.Decode
import XBloom.Recipe.Schema
import XBloom.Brewing.Returns
import XBloom.Recipe.Build
import XBloom.Py.Dict
import XBloom.Logic.Runs
import XBloom.Recipe.Find
import XBloom.Recipe.Store
import XBloom.Logic.Keyed
import XBloom.Recipe.Refine
import XBloom.Recipe.Flow
import XBloom.Recipe.Tombstones
import XBloom.Recipe.Frame
import XBloom.Async.Coroutine
import XBloom.Async.Logic
import XBloom.Async.Rules
import XBloom.Async.Pools
import XBloom.Coordinator.State
import XBloom.Coordinator.Prepare
import XBloom.Coordinator.Connection
import XBloom.Coordinator.Chains
import XBloom.Coordinator.Operations
import XBloom.Coordinator.RecipeCalls
import XBloom.Coordinator.Calls
import XBloom.Coordinator.Footprints
import XBloom.Coordinator.Cancel
import XBloom.Coordinator.Finality
import XBloom.Coordinator.Standing
import XBloom.Ble.Writes
import XBloom.Cloud.Translate
import XBloom.Async.Segments
import XBloom.Async.Locks
import XBloom.Cloud.Export
import XBloom.Cloud.ExportSpec
import XBloom.Cloud.InFlight
import XBloom.Cloud.Duplicates
import XBloom.Units.Values
import XBloom.Units.Settings
import XBloom.Units.Push
import XBloom.Units.PushSpec
import XBloom.Units.Delivery
import XBloom.Link.Manager
import XBloom.Link.Spec
import XBloom.Link.Passes
import XBloom.Link.Runs
import XBloom.Link.Reconnect
import XBloom.Link.Ownership
import XBloom.Link.SwitchOff
import XBloom.Link.Standby
import XBloom.Codec.Scans
import XBloom.Ble.Scanner
import XBloom.Telemetry.Status
import XBloom.Telemetry.Responses
import XBloom.Telemetry.Notification
import XBloom.Telemetry.Mirror
import XBloom.Telemetry.Setpoints
import XBloom.Ble.Acks
import XBloom.Ble.AckRuns
import XBloom.Py.Url
import XBloom.Cloud.ShareId
import XBloom.Cloud.Reimport
import XBloom.Cloud.Seeds
import XBloom.Async.Solo
import XBloom.Slots.State
import XBloom.Slots.Write
import XBloom.Slots.Course
import XBloom.Slots.Record
import XBloom.Slots.Tea
import XBloom.Slots.Restore
import XBloom.Telemetry.ModeAck
import XBloom.Slots.Confirm
import XBloom.Logic.Apportion
import XBloom.Coordinator.Budget
import XBloom.Coordinator.Overrides
import XBloom.Slots.CupTypes
import XBloom.Telemetry.BackOut
import XBloom.Telemetry.Ranges
import XBloom.Coordinator.Newest
import XBloom.Coordinator.Failures
import XBloom.Async.Marks
import XBloom.Coordinator.Maintenance
import XBloom.Slots.Attempts
import XBloom.Slots.Calibration
import XBloom.Codec.ShiftRegister
import XBloom.Ble.Checksum
import XBloom.Logic.Outliers
import XBloom.Telemetry.Weight
import XBloom.Telemetry.StatusCodes
import XBloom.Brewing.TeaDecode
import XBloom.Telemetry.Resync
import XBloom.Telemetry.AdvancedSettings
import XBloom.Telemetry.MachineInfo
import XBloom.Link.Backoff
import XBloom.Cloud.PodSave
import XBloom.Async.Observers
import XBloom.Coordinator.Manual
import XBloom.Coordinator.ManualRuns
import XBloom.Coordinator.Queued
import XBloom.Coordinator.QueuedRuns
import XBloom.Logic.Search
import XBloom.Recipe.FreeNames
import XBloom.Async.Protocols
import XBloom.Async.Parts
import XBloom.Coordinator.LiveAdjust
import XBloom.Llm.Tools
import XBloom.Llm.Stages
import XBloom.Llm.TwoPhase
import XBloom.Llm.Armings
import XBloom.Recipe.Canonical
import XBloom.Recipe.Edits
import XBloom.Advanced.Settings
import XBloom.Advanced.Plan
import XBloom.Advanced.Outcomes
import XBloom.Py.IsoTime
import XBloom.Pods.Library
import XBloom.Pods.History
import XBloom.Pods.Passes
import XBloom.Pods.Runs
import XBloom.Setup.Machines
import XBloom.Setup.Services
import XBloom.Setup.UniqueIds
import XBloom.Setup.OldRecipes
import XBloom.Setup.Migration
import XBloom.Info.Retries
import XBloom.Info.Attempts
import XBloom.Info.Loops
