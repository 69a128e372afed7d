import NexusN3.Admin.Archives
import NexusN3.Bridge.MethodReplies
import NexusN3.Bridge.Methods
import NexusN3.Bridge.Uploads
import NexusN3.Bridge.Waiting
import NexusN3.Compute.AlgorithmHost
import NexusN3.Compute.Executors
import NexusN3.Compute.RemoteCompute
import NexusN3.Compute.SampleQueue
import NexusN3.Compute.Serde
import NexusN3.Compute.SessionReset
import NexusN3.Config.SubjectGraph
import NexusN3.Connection.Completion
import NexusN3.Connection.Identities
import NexusN3.Connection.Nodes
import NexusN3.Connection.Sequence
import NexusN3.Connection.SingleFlight
import NexusN3.Connection.Turns
import NexusN3.Core.Acquiring
import NexusN3.Core.Attempts
import NexusN3.Core.Commit
import NexusN3.Core.Configure
import NexusN3.Core.IdealStream
import NexusN3.Core.Official
import NexusN3.Core.OneOutcome
import NexusN3.Core.Outcomes
import NexusN3.Core.Reconfigure
import NexusN3.Core.Rollback
import NexusN3.Core.ScopedStart
import NexusN3.Core.SessionArchive
import NexusN3.Core.Settle
import NexusN3.Core.Start
import NexusN3.Core.StartupGate
import NexusN3.Core.State
import NexusN3.Core.Stop
import NexusN3.Core.StopOverlap
import NexusN3.Core.StopWins
import NexusN3.Core.SubjectStop
import NexusN3.Core.Sustain
import NexusN3.Core.World
import NexusN3.Distributed.Cluster
import NexusN3.Distributed.Finalization
import NexusN3.Distributed.OfficialBarrier
import NexusN3.Distributed.WorkerLink
import NexusN3.Gateway.Attribution
import NexusN3.Gateway.Chunking
import NexusN3.Gateway.Conservation
import NexusN3.Gateway.Corruption
import NexusN3.Gateway.LinkState
import NexusN3.Gateway.Parser
import NexusN3.Gateway.Requests
import NexusN3.Gateway.ResetAdmission
import NexusN3.Gateway.RoundTrip
import NexusN3.Gateway.Scan
import NexusN3.Gateway.Transports
import NexusN3.Lib.Base64
import NexusN3.Lib.Compare
import NexusN3.Lib.Csv
import NexusN3.Lib.Dict
import NexusN3.Lib.Fence
import NexusN3.Lib.FileRuns
import NexusN3.Lib.FileSystem
import NexusN3.Lib.FirstFit
import NexusN3.Lib.Jobs
import NexusN3.Lib.Json
import NexusN3.Lib.Keeps
import NexusN3.Lib.Machine
import NexusN3.Lib.Mealy
import NexusN3.Lib.Merging
import NexusN3.Lib.Ndjson
import NexusN3.Lib.OneShot
import NexusN3.Lib.Path
import NexusN3.Lib.Scanner
import NexusN3.Lib.SerialChoice
import NexusN3.Lib.Success
import NexusN3.Lib.TaskQueue
import NexusN3.Lib.Text
import NexusN3.Lib.Transcript
import NexusN3.Lib.Triple
import NexusN3.Lib.Unwinding
import NexusN3.Lib.Value
import NexusN3.Master.ActiveStreams
import NexusN3.Master.Drain
import NexusN3.Master.DrainBarrier
import NexusN3.Master.DrainOutcome
import NexusN3.Master.Initialization
import NexusN3.Master.Node
import NexusN3.Master.OfficialStart
import NexusN3.Master.Planning
import NexusN3.Master.Registry
import NexusN3.Master.StopGenerations
import NexusN3.Master.Streams
import NexusN3.Messaging.CommandLoop
import NexusN3.Messaging.EventBus
import NexusN3.Messaging.MessageHandler
import NexusN3.Messaging.Messages
import NexusN3.Messaging.Recovery
import NexusN3.Messaging.Survival
import NexusN3.Offload.UsbDisk
import NexusN3.Pipeline.Diagnostics
import NexusN3.Plugins.Bundle
import NexusN3.Plugins.Callbacks
import NexusN3.Plugins.Catalog
import NexusN3.Plugins.Changes
import NexusN3.Plugins.History
import NexusN3.Plugins.HostRequest
import NexusN3.Plugins.Install
import NexusN3.Plugins.JsonRpc
import NexusN3.Plugins.LateWrites
import NexusN3.Plugins.Operations
import NexusN3.Plugins.Preserved
import NexusN3.Plugins.ReaderLoop
import NexusN3.Plugins.ReaderRuns
import NexusN3.Plugins.RecoveryBarrier
import NexusN3.Plugins.StopProof
import NexusN3.Plugins.Verified
import NexusN3.Plugins.VersionOrder
import NexusN3.Plugins.Versions
import NexusN3.Robot.DeadMan
import NexusN3.Sensors.AdapterPool
import NexusN3.Sensors.Cleanup
import NexusN3.Sensors.Discovery
import NexusN3.Sensors.DiscoveryOrder
import NexusN3.Sensors.Fence
import NexusN3.Sensors.Handle
import NexusN3.Sensors.Manager
import NexusN3.Sensors.Matching
import NexusN3.Sensors.Polling
import NexusN3.Sensors.PoolOwnership
import NexusN3.Sensors.Reconcile
import NexusN3.Sensors.Routing
import NexusN3.Sensors.Stopping
import NexusN3.Storage.ArchiveDirectory
import NexusN3.Storage.DataPath
import NexusN3.Storage.Inside
import NexusN3.Storage.IntermediateResults
import NexusN3.Storage.Naming
import NexusN3.Storage.Paths
import NexusN3.Storage.RawFile
import NexusN3.Storage.Samples
import NexusN3.Storage.SessionDiagnostics
import NexusN3.Storage.WriterLedger
import NexusN3.Wifi.Assignment
import NexusN3.Wifi.Identities
import NexusN3.Wifi.Progress
import NexusN3.Wifi.Provisioning
import NexusN3.Wifi.Session
