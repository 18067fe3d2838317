import Bsrs.Library.Table
import Bsrs.Library.Action
import Bsrs.Library.Triple
import Bsrs.Library.Journal
import Bsrs.Library.Run
import Bsrs.Library.Delivery
import Bsrs.EventModel.Documents
import Bsrs.EventModel.Compose
import Bsrs.Core.Error
import Bsrs.Core.Msg
import Bsrs.Engine.Bundler
import Bsrs.Engine.Control
import Bsrs.Engine.State
import Bsrs.Engine.Environment
import Bsrs.Engine.Assets
import Bsrs.Engine.Handle
import Bsrs.Engine.RunLoop
import Bsrs.Engine.Idle
import Bsrs.Engine.Effect
import Bsrs.Engine.HandlerEffect
import Bsrs.Engine.Quiet
import Bsrs.Engine.EngineStep
import Bsrs.Engine.LoopMove
import Bsrs.Engine.RegionStep
import Bsrs.Engine.RewindInvariant
import Bsrs.Engine.CutInvariant
import Bsrs.Engine.PauseInvariant
import Bsrs.Engine.SequenceInvariant
import Bsrs.Engine.Relay
import Bsrs.Engine.Described
import Bsrs.Engine.DescriptorInvariant
import Bsrs.Engine.Registers
import Bsrs.Engine.ControlPlane
import Bsrs.Engine.PrecedenceInvariant
import Bsrs.Engine.Session
import Bsrs.Engine.Catalog
import Bsrs.Engine.Declaring
import Bsrs.Engine.Sending
import Bsrs.Engine.CatalogInvariant
import Bsrs.Engine.OnceInvariant
import Bsrs.Engine.SchemaInvariant
import Bsrs.Engine.Isolation
import Bsrs.Engine.IsolationInvariant
import Bsrs.Engine.Flyers
import Bsrs.Engine.FlyerInvariant
import Bsrs.Engine.HandedOut
import Bsrs.Engine.Envelope
import Bsrs.Engine.Enclosing
import Bsrs.Engine.EnvelopeInvariant
import Bsrs.Qs.Crew
import Bsrs.Core.Json
import Bsrs.Qs.Queue
import Bsrs.Qs.Permissions
import Bsrs.Qs.State
import Bsrs.Qs.Tasks
import Bsrs.Qs.Edit
import Bsrs.Qs.Dispatch
import Bsrs.Qs.Serve
import Bsrs.Qs.Orderly
import Bsrs.Qs.Agreement
import Bsrs.Qs.EditFacts
import Bsrs.Qs.Autostart
import Bsrs.Library.Record
import Bsrs.Qs.Ledger
import Bsrs.Qs.Conservation
import Bsrs.Qs.StopScope
import Bsrs.Qs.Answering
import Bsrs.Qs.LockGate
import Bsrs.Qs.Brought
import Bsrs.Qs.Access
import Bsrs.Engine.ScanId
import Bsrs.Serde.Shape
import Bsrs.Zmq.Documents
import Bsrs.Zmq.Envelope
import Bsrs.Suspender.Coverage
import Bsrs.Library.Splice
import Bsrs.Qs.Moves
import Bsrs.Qs.QueueOps
import Bsrs.Qs.BatchMoves
import Bsrs.Qs.Batches
import Bsrs.Host.CheckpointStore
import Bsrs.Host.Journal
import Bsrs.Host.JournalInvariant
import Bsrs.Devices.Detector
import Bsrs.Devices.Lifecycle
import Bsrs.Engine.Groups
import Bsrs.Plans.Preprocessors
import Bsrs.Plans.Driving
import Bsrs.Plans.Simulation
import Bsrs.Plans.Routing
import Bsrs.Plans.Staging
import Bsrs.Plans.Restoring
import Bsrs.Plans.Patterns
import Bsrs.Plans.Spiral
import Bsrs.Library.Columns
import Bsrs.Zmq.Pages
import Bsrs.Qs.Polling
import Bsrs.Qs.Updating
import Bsrs.Devices.StageSigs
import Bsrs.Library.Framing
import Bsrs.Stream.BinarySink
import Bsrs.Devices.SignalCache
import Bsrs.Devices.SoftHearing
import Bsrs.Core.Watching
import Bsrs.Core.Status
import Bsrs.Core.StatusInvariant
import Bsrs.Core.StatusRun
import Bsrs.Blop.Routing
import Bsrs.Plans.Adaptive
import Bsrs.Plans.Tuning
import Bsrs.Devices.Kickoff
import Bsrs.Host.MotorMove
import Bsrs.Stream.Hdf5Sink
import Bsrs.Host.AreaDetector
import Bsrs.Host.AreaAssets
import Bsrs.Blop.Optimizing
import Bsrs.Plans.StepScan
import Bsrs.Plans.Relative
import Bsrs.Plans.Adapting
import Bsrs.Devices.Observe
import Bsrs.Plans.Counting
import Bsrs.Qs.CountArgs
import Bsrs.Devices.PurePath
import Bsrs.Devices.PathJoin
import Bsrs.Devices.AutoMaxIncrement
import Bsrs.Blop.Callbacks
import Bsrs.Plans.Trajectory
import Bsrs.Engine.AssetDrains
import Bsrs.Engine.AssetInvariant
import Bsrs.Library.Stutter
import Bsrs.Backends.SharedChannel
import Bsrs.Backends.CaPuts
import Bsrs.Backends.CaAnswers
import Bsrs.Backends.CaCommand
import Bsrs.Devices.ConnectOnce
import Bsrs.Library.Words
import Bsrs.Blop.Expr
