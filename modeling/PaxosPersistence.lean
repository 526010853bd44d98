import PaxosPersistence.Core.ByteBlock
import PaxosPersistence.Core.RingWindow
import PaxosPersistence.Core.Machine
import PaxosPersistence.Core.TransactionalMap
import PaxosPersistence.Kernel.PaxosTypes
import PaxosPersistence.Kernel.Memory
import PaxosPersistence.Kernel.KernelDevice
import PaxosPersistence.Kernel.WritePersistence
import PaxosPersistence.Core.FifoQueue
import PaxosPersistence.Kernel.DeviceRing
import PaxosPersistence.Kernel.WriteAccounting
import PaxosPersistence.Kernel.ReadPersistence
import PaxosPersistence.Kernel.AnswerValidation
import PaxosPersistence.Storage.LmdbOperations
import PaxosPersistence.Storage.UserStorage
import PaxosPersistence.Storage.StorageHistory
import PaxosPersistence.Pipeline.StorageThread
import PaxosPersistence.Pipeline.WriteSide
import PaxosPersistence.Pipeline.WritePipeline
import PaxosPersistence.Pipeline.ReadSide
import PaxosPersistence.Pipeline.ReadPipeline
import PaxosPersistence.Core.GrowingLog
import PaxosPersistence.Pipeline.SharedDatabase
import PaxosPersistence.Kernel.ReadTest
import PaxosPersistence.Pipeline.WorkerVerdicts
import PaxosPersistence.Pipeline.Workers
import PaxosPersistence.Kernel.AnswerFaults
import PaxosPersistence.Kernel.FaultingReads
import PaxosPersistence.Kernel.RequestBounds
import PaxosPersistence.Pipeline.LengthAgreement
import PaxosPersistence.Pipeline.RecordIndependence
import PaxosPersistence.Kernel.AddStatements
import PaxosPersistence.Kernel.Publication
import PaxosPersistence.Kernel.Exclusion
import PaxosPersistence.Pipeline.ValueBounds
import PaxosPersistence.Pipeline.FailedReads
import PaxosPersistence.Pipeline.Lifecycle
import PaxosPersistence.Kernel.CallbackIdentity
import PaxosPersistence.Pipeline.AnswerRoundTrip
import PaxosPersistence.Pipeline.FrameSizes
import PaxosPersistence.Core.ResourceLedger
import PaxosPersistence.Kernel.PoolConstruction
import PaxosPersistence.Storage.IndeterminateHandles
import PaxosPersistence.Kernel.DeviceSetup
import PaxosPersistence.Storage.AllocationFailures
import PaxosPersistence.Pipeline.Presence
import PaxosPersistence.Pipeline.Sessions
import PaxosPersistence.Core.RoundRobin
import PaxosPersistence.Kernel.WorkDistribution
import PaxosPersistence.Core.DurableMap
import PaxosPersistence.Core.Progress
import PaxosPersistence.Pipeline.Restarts
import PaxosPersistence.Pipeline.Service
import PaxosPersistence.Core.HeapBlocks
import PaxosPersistence.Core.WaitQueue
import PaxosPersistence.Kernel.WakeUps
import PaxosPersistence.Core.TornRecord
import PaxosPersistence.Kernel.TornAnswers
import PaxosPersistence.Core.LostUpdates
import PaxosPersistence.Kernel.RacingProducers
import PaxosPersistence.Kernel.TestCounters
import PaxosPersistence.Pipeline.ThreadHeap
import PaxosPersistence.Pipeline.Unloading
import PaxosPersistence.Pipeline.TestProgram
import PaxosPersistence.Pipeline.FirstLap
import PaxosPersistence.Pipeline.TestRequests
