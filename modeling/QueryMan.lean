import QueryMan.Coro.Logic
import QueryMan.Coro.Tasks
import QueryMan.Coro.KeyedCache
import QueryMan.GuardedQuery.Operators
import QueryMan.GuardedQuery.AttributeCalls
import QueryMan.Runtime.Config
import QueryMan.Runtime.Operations
import QueryMan.Runtime.LiteralRedaction
import QueryMan.Runtime.TokenRedaction
import QueryMan.Runtime.LogFormat
import QueryMan.Runtime.Startup
import QueryMan.Metadata.Revision
import QueryMan.Metadata.Response
import QueryMan.Coro.Sequential
import QueryMan.Coro.History
import QueryMan.Metadata.Load
import QueryMan.Metadata.Service
import QueryMan.Metadata.Section
import QueryMan.Metadata.Sections
import QueryMan.Metadata.ServiceTasks
import QueryMan.Metadata.ServiceContract
import QueryMan.Metadata.ServiceRuns
import QueryMan.Metadata.Staleness
import QueryMan.Metadata.RejectedCatalog
import QueryMan.Metadata.PinnedStructure
import QueryMan.GuardedQuery.RevisionGate
import QueryMan.Metadata.Linearizable
import QueryMan.Metadata.Availability
import QueryMan.Coro.Observer
import QueryMan.Metadata.HealthWords
import QueryMan.Metadata.CatalogRows
import QueryMan.Metadata.ViewMarker
import QueryMan.Metadata.Completeness
import QueryMan.Metadata.RevisionIdentity
import QueryMan.Metadata.PublishedContract
import QueryMan.SourceCatalog.DuplicateKeys
import QueryMan.SourceCatalog.Packages
import QueryMan.SourceCatalog.Load
import QueryMan.Delivery.Access
import QueryMan.Delivery.Authenticate
import QueryMan.Delivery.CallerTokens
import QueryMan.Delivery.DisconnectSafety
import QueryMan.GuardedQuery.NumericResults
import QueryMan.GuardedQuery.PlanNodes
import QueryMan.GuardedQuery.SqlNames
import QueryMan.GuardedQuery.ResultEncoding
import QueryMan.SourceCatalog.ReaderPolicy
import QueryMan.SourceCatalog.Registry
import QueryMan.GuardedQuery.BoundedResult
import QueryMan.GuardedQuery.ExecutorWorld
import QueryMan.GuardedQuery.ExecutionGates
import QueryMan.GuardedQuery.Cleanup
import QueryMan.GuardedQuery.QueryHealth
import QueryMan.GuardedQuery.FailureMessages
import QueryMan.GuardedQuery.ExecutorContract
import QueryMan.GuardedQuery.Admission
import QueryMan.GuardedQuery.Shutdown
import QueryMan.GuardedQuery.ExecutorSafety
import QueryMan.Delivery.ServiceErrors
import QueryMan.Delivery.Gateway
import QueryMan.Delivery.AuditTrail
import QueryMan.Delivery.RequestValidation
import QueryMan.Delivery.App
import QueryMan.Delivery.AppSafety
import QueryMan.SourceCatalog.ReaderPools
import QueryMan.Runtime.Lifespan
import QueryMan.Runtime.Snapshot
import QueryMan.GuardedQuery.Accounting
import QueryMan.GuardedQuery.ResultValues
