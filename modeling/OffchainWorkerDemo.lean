import OffchainWorkerDemo.Lib.Shuffle
import OffchainWorkerDemo.Chain
import OffchainWorkerDemo.TxValidation
import OffchainWorkerDemo.MobileRegistry
import OffchainWorkerDemo.OcwCircuits
import OffchainWorkerDemo.OcwGarble
import OffchainWorkerDemo.Runtime
import OffchainWorkerDemo.LogLevel
import OffchainWorkerDemo.Attempts
import OffchainWorkerDemo.PendingCircuits
import OffchainWorkerDemo.PinpadCode
import OffchainWorkerDemo.Provenance
import OffchainWorkerDemo.OcwCommon
import OffchainWorkerDemo.OcwCircuitsWorker
import OffchainWorkerDemo.OcwGarbleWorker
import OffchainWorkerDemo.GrpcWeb
import OffchainWorkerDemo.BadAnswer
import OffchainWorkerDemo.Lib.Mailbox
import OffchainWorkerDemo.WorkerInterleaving
import OffchainWorkerDemo.Lib.Ledger
import OffchainWorkerDemo.Node
import OffchainWorkerDemo.Delivery
import OffchainWorkerDemo.Pipeline
import OffchainWorkerDemo.Accounts
import OffchainWorkerDemo.Extrinsics
import OffchainWorkerDemo.Lib.Runs
import OffchainWorkerDemo.ValidationEntries
import OffchainWorkerDemo.Readiness
import OffchainWorkerDemo.CheckInput
import OffchainWorkerDemo.Framing
import OffchainWorkerDemo.DrawnCode
import OffchainWorkerDemo.Dispatching
import OffchainWorkerDemo.GenuineJobs
import OffchainWorkerDemo.Lib.Emissions
import OffchainWorkerDemo.RandomSubjects
import OffchainWorkerDemo.MobileKeys
import OffchainWorkerDemo.StorageBounds
import OffchainWorkerDemo.Dialogues
import OffchainWorkerDemo.WorkerRuns
import OffchainWorkerDemo.Network
import OffchainWorkerDemo.DisplayRound
import OffchainWorkerDemo.TracedCodes
import OffchainWorkerDemo.Blocks
import OffchainWorkerDemo.Service
import OffchainWorkerDemo.CodeDraws
import OffchainWorkerDemo.Traffic
import OffchainWorkerDemo.JobRecords
