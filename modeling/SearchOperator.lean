import SearchOperator.Bytes
import SearchOperator.Certificate.Anchor
import SearchOperator.Certificate.Der
import SearchOperator.Certificate.Pem
import SearchOperator.Cluster.Encoding
import SearchOperator.Cluster.Hints
import SearchOperator.Cluster.Observation
import SearchOperator.Cluster.Pass
import SearchOperator.Cluster.Phase
import SearchOperator.Cluster.Spec
import SearchOperator.Cluster.Status
import SearchOperator.Cluster.Tracker
import SearchOperator.CommandLine.Command
import SearchOperator.CommandLine.Fault
import SearchOperator.CommandLine.Operator
import SearchOperator.CommandLine.Reading
import SearchOperator.Config.Convergence
import SearchOperator.Config.Encoding
import SearchOperator.Config.Operation
import SearchOperator.Config.Pass
import SearchOperator.Config.Spec
import SearchOperator.Decimal.Binary64
import SearchOperator.Decimal.Shortest
import SearchOperator.Dictionary
import SearchOperator.Error
import SearchOperator.Json.Comparison
import SearchOperator.Json.Document
import SearchOperator.Json.Fault
import SearchOperator.Json.MergePatch
import SearchOperator.Json.Reader
import SearchOperator.Json.Skipping
import SearchOperator.Json.Text
import SearchOperator.Json.Typed
import SearchOperator.Json.Value
import SearchOperator.Json.Yaml
import SearchOperator.Kubernetes.Api.Objects
import SearchOperator.Kubernetes.Api.Publisher
import SearchOperator.Kubernetes.Api.Reply
import SearchOperator.Kubernetes.Api.Request
import SearchOperator.Kubernetes.Api.Secrets
import SearchOperator.Kubernetes.Api.Server
import SearchOperator.Kubernetes.Event
import SearchOperator.Kubernetes.Metadata
import SearchOperator.Kubernetes.Workload
import SearchOperator.Logging.Filter
import SearchOperator.Logging.Format
import SearchOperator.Logging.Start
import SearchOperator.Manifest
import SearchOperator.SearchClient
import SearchOperator.SearchClient.Http
import SearchOperator.Simulation.Server
import SearchOperator.Simulation.World
import SearchOperator.Step
import SearchOperator.Text.Base64
import SearchOperator.Text.Blank
import SearchOperator.Text.CodePointSet
import SearchOperator.Text.Hex
import SearchOperator.Text.Printable
import SearchOperator.Text.Quoted
import SearchOperator.Text.Similarity
import SearchOperator.Text.Split
import SearchOperator.Text.Utf8
import SearchOperator.Time.Duration
import SearchOperator.Time.Instant
import SearchOperator.Url.Basic
import SearchOperator.Url.Domain.Ascii
import SearchOperator.Url.Domain.Classes
import SearchOperator.Url.Domain.Mapping
import SearchOperator.Url.Domain.Normalization
import SearchOperator.Url.Domain.Punycode
import SearchOperator.Url.Host
import SearchOperator.Url.Path
import SearchOperator.Url.Percent
import SearchOperator.Url.Resolve
import SearchOperator.Version.Basic
import SearchOperator.Version.Compatibility
import SearchOperator.Version.Order
import SearchOperator.Main
import SearchOperator.Proofs.Step
import SearchOperator.Proofs.Dictionary
import SearchOperator.Proofs.Text.Split
import SearchOperator.Proofs.Version.Order
import SearchOperator.Proofs.Version.Grammar
import SearchOperator.Proofs.Version.Text
import SearchOperator.Proofs.Version.Precedence
import SearchOperator.Proofs.Version.Lowest
import SearchOperator.Proofs.Kubernetes.Metadata
import SearchOperator.Proofs.Simulation.Answers
import SearchOperator.Proofs.Simulation.Calls
import SearchOperator.Proofs.Simulation.Watching
import SearchOperator.Proofs.Decimal.Rounding
import SearchOperator.Proofs.Decimal.Shortest
import SearchOperator.Proofs.Json.Reader
import SearchOperator.Proofs.Json.Ordered
import SearchOperator.Proofs.Json.Comparison
import SearchOperator.Proofs.Json.Equality
import SearchOperator.Proofs.Json.Paths
import SearchOperator.Proofs.Json.Mutual
import SearchOperator.Proofs.Json.Strings
import SearchOperator.Proofs.Json.Numbers
import SearchOperator.Proofs.Json.Alike
import SearchOperator.Proofs.Json.RoundTrip
import SearchOperator.Proofs.Json.Typed
import SearchOperator.Proofs.Url.Origin
import SearchOperator.Proofs.Config.Validation
import SearchOperator.Proofs.Config.Trace
import SearchOperator.Proofs.Config.Body
import SearchOperator.Proofs.Config.Storing
import SearchOperator.Proofs.Config.Acceptance
import SearchOperator.Proofs.Config.Weakening
import SearchOperator.Proofs.Config.Requests
import SearchOperator.Proofs.Config.Ownership
import SearchOperator.Proofs.Config.Gates
import SearchOperator.Proofs.Config.Failing
import SearchOperator.Proofs.Config.StatusPatch
import SearchOperator.Proofs.Encoding
import SearchOperator.Proofs.Cluster.Hints
import SearchOperator.Proofs.Cluster.Writing
import SearchOperator.Proofs.Cluster.Pass
import SearchOperator.Proofs.Cluster.Phases
import SearchOperator.Proofs.Cluster.Order
import SearchOperator.Proofs.Cluster.Settling
import SearchOperator.Proofs.Cluster.Rollout
import SearchOperator.Proofs.Cluster.StatusPatch
import SearchOperator.Proofs.Cluster.Retrying
import SearchOperator.Proofs.Config.Verdict
import SearchOperator.Proofs.Config.History
import SearchOperator.Proofs.Config.Reporting
import SearchOperator.Proofs.Cluster.Remembering
import SearchOperator.Proofs.Cluster.Records
import SearchOperator.Proofs.Cluster.Checkpoint
import SearchOperator.Proofs.Cluster.Fleet
import SearchOperator.Proofs.Cluster.Journal
import SearchOperator.Proofs.Cluster.Health
import SearchOperator.Proofs.Cluster.Decree
import SearchOperator.Proofs.Cluster.Deciding
import SearchOperator.Proofs.Cluster.Validation
import SearchOperator.Proofs.Cluster.Availability
import SearchOperator.Proofs.Cluster.Upgrading
import SearchOperator.Proofs.Cluster.Spelling
