import QCamx.Lib.Guarded
import QCamx.Lib.KeyedVector
import QCamx.Define
import QCamx.Case
import QCamx.CameraMetadata
import QCamx.Lib.BlockingQueue
import QCamx.PostProcess
import QCamx.BufferManager
import QCamx.Device.State
import QCamx.Device.Cases
import QCamx.Device.Frame
import QCamx.Device.Limit
import QCamx.Device.Numbering
import QCamx.Device.Record
import QCamx.Ledger
import QCamx.Device.Pending
import QCamx.Device.Stages
import QCamx.Device.Teardown
import QCamx.Device.Queue
import QCamx.Device.Delivery
import QCamx.Device.Custody
import QCamx.Device.Places
import QCamx.Device.Schedule
import QCamx.Dump
import QCamx.Encoder.Cases
import QCamx.Encoder.HandOver
import QCamx.Encoder.Headers
import QCamx.Lib.CString
import QCamx.Config
import QCamx.Streams
import QCamx.Device.Settings
import QCamx.Device.Snapshots
import QCamx.Console.State
import QCamx.Console.Step
import QCamx.Console.Cases
import QCamx.Console.Slots
import QCamx.Console.Starts
import QCamx.Console.LifeCycle
import QCamx.Console.Switch
import QCamx.Console.Addressing
import QCamx.Lib.RunningMinimum
import QCamx.SensorMode
import QCamx.Lib.Align
import QCamx.Buffer.Allocation
import QCamx.Buffer.Ubwc
import QCamx.Buffer.DumpFrame
import QCamx.Buffer.DumpBounds
import QCamx.Buffer.Pool
import QCamx.Buffer.Gbm
import QCamx.Buffer.Managers
import QCamx.Device.Submission
import QCamx.Encoder.Shutdown
import QCamx.Device.Counts
import QCamx.Device.Throttle
import QCamx.Config.Options
import QCamx.Config.Order
import QCamx.Config.Formats
import QCamx.Config.Modes
import QCamx.Config.Sizes
import QCamx.Config.MetaUpdate
import QCamx.Config.Rounds
import QCamx.Config.Crop
import QCamx.Config.Defined
import QCamx.Encoder.Rates
import QCamx.Buffer.Jpeg
import QCamx.Config.Log
import QCamx.Metadata.Handle
import QCamx.Metadata.Changes
import QCamx.Metadata.Sat
import QCamx.Encoder.SetConfig
import QCamx.Encoder.Messages
import QCamx.Encoder.Consumed
import QCamx.Device.Drain
import QCamx.Console.CommandFile
import QCamx.Encoder.Frames
import QCamx.Encoder.Output
import QCamx.Device.Stopping
import QCamx.Video.Arrival
import QCamx.Video.Frames
import QCamx.Console.Safety
import QCamx.Buffer.DumpName
import QCamx.Buffer.GbmDump
import QCamx.Device.DumpFiles
