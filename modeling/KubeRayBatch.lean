import KubeRayBatch.Theory.Decimal
import KubeRayBatch.Theory.JsonString
import KubeRayBatch.Theory.Json
import KubeRayBatch.Theory.TextLines
import KubeRayBatch.Theory.Program
import KubeRayBatch.Theory.Contract
import KubeRayBatch.Theory.TwoRuns
import KubeRayBatch.Theory.Typestate
import KubeRayBatch.Theory.Exceptions
import KubeRayBatch.Theory.Validation
import KubeRayBatch.Theory.JsonText
import KubeRayBatch.Theory.Schema
import KubeRayBatch.Theory.PosixPath
import KubeRayBatch.Theory.Entries
import KubeRayBatch.Runtime
import KubeRayBatch.Api.Models
import KubeRayBatch.Api.Db
import KubeRayBatch.Cluster.World
import KubeRayBatch.Api.RayClient
import KubeRayBatch.Api.Storage
import KubeRayBatch.Api.Batches
import KubeRayBatch.Worker.Arguments
import KubeRayBatch.Worker.Predictor
import KubeRayBatch.Worker.Pipeline
import KubeRayBatch.Worker.Answers
import KubeRayBatch.Worker.BatchInfer
import KubeRayBatch.Worker.JobOutline
import KubeRayBatch.Worker.Rerun
import KubeRayBatch.Worker.RoundTrip
import KubeRayBatch.Worker.Marker
import KubeRayBatch.Worker.ExitStatus
import KubeRayBatch.Api.Working
import KubeRayBatch.Api.Submission
import KubeRayBatch.Cluster.PollOnce
import KubeRayBatch.Cluster.SweepMap
import KubeRayBatch.Cluster.Pointwise
import KubeRayBatch.Cluster.Lifecycle
import KubeRayBatch.Cluster.View
import KubeRayBatch.Api.Twins
import KubeRayBatch.Api.Privacy
import KubeRayBatch.Api.Counters
import KubeRayBatch.Api.Books
import KubeRayBatch.Api.Tally
import KubeRayBatch.Cluster.Invariant
import KubeRayBatch.Cluster.Sharing
import KubeRayBatch.Cluster.Handler
import KubeRayBatch.Cluster.Poller
import KubeRayBatch.Cluster.Sweep
import KubeRayBatch.Cluster.RunningJob
import KubeRayBatch.Cluster.Reader
import KubeRayBatch.Cluster.Machine
import KubeRayBatch.Cluster.Presence
import KubeRayBatch.Cluster.Reasons
import KubeRayBatch.Cluster.Rows
import KubeRayBatch.Cluster.Overlap
import KubeRayBatch.Cluster.Results
import KubeRayBatch.Theory.Shell
import KubeRayBatch.Worker.Command
import KubeRayBatch.Worker.Truncation
import KubeRayBatch.Api.Observability
import KubeRayBatch.Api.Escapes
import KubeRayBatch.Api.Config
import KubeRayBatch.Api.Lifespan
import KubeRayBatch.Api.RequestBody
import KubeRayBatch.Api.Http
import KubeRayBatch.Cluster.ApiProcess
import KubeRayBatch.Cluster.LifespanOutline
import KubeRayBatch.Cluster.OnePoller
import KubeRayBatch.Cluster.Draft
import KubeRayBatch.Cluster.Origin
import KubeRayBatch.Client.Benchmark
import KubeRayBatch.Client.EndToEnd
import KubeRayBatch.Client.Refinement
import KubeRayBatch.Cluster.Service
import KubeRayBatch.Cluster.ClientView
import KubeRayBatch.Cluster.Confinement
import KubeRayBatch.Cluster.Abandoned
