import K11CHaos.Gui.WriteControl
import K11CHaos.Gui.WindowClose
import K11CHaos.Board.MaxioPhy
import K11CHaos.Npu.Adjust
import K11CHaos.Npu.Otp
import K11CHaos.Npu.SetRate
import K11CHaos.Scripts.Console
import K11CHaos.Npu.TableSwitch
import K11CHaos.Engine.LateChecks
import K11CHaos.Engine.Reading
import K11CHaos.Engine.DirectRestore
import K11CHaos.Engine.WriteLoop
import K11CHaos.Frigate.Stopped
import K11CHaos.Frigate.Ownership
import K11CHaos.Scripts.Agreement
import K11CHaos.Scripts.Install
import K11CHaos.Native.Agreement
import K11CHaos.Engine.Installed
import K11CHaos.Engine.ExecuteOrder
import K11CHaos.Engine.RepairPlan
import K11CHaos.Engine.Relocate
import K11CHaos.Engine.FactoryResize
import K11CHaos.Engine.Composed
import K11CHaos.Engine.ArchiveRanges
import K11CHaos.Engine.WriteRanges
import K11CHaos.Engine.Overlay
import K11CHaos.Engine.PartitionView
import K11CHaos.Engine.Preparation
import K11CHaos.Engine.Maintenance
import K11CHaos.Engine.SparseImage
import K11CHaos.Engine.ImageHashes
import K11CHaos.Engine.Firmware
import K11CHaos.Inference.LeaseSafety
import K11CHaos.Inference.ServerSafety
import K11CHaos.Engine.PlanFiles
import K11CHaos.Engine.PlanHistory
