import ClusterGateway.Api.Router
import ClusterGateway.Companion.Lifecycle
import ClusterGateway.Fixture.Script
import ClusterGateway.Fixture.Sink
import ClusterGateway.Main
import ClusterGateway.Proofs.Dialogue.Terms
import ClusterGateway.Proofs.Dialogue.Course
import ClusterGateway.Proofs.Identity.Impersonation
import ClusterGateway.Proofs.Proxy.Headers
import ClusterGateway.Proofs.Gateway.Requests
import ClusterGateway.Proofs.Table.FanOut
import ClusterGateway.Proofs.Api.Admission
import ClusterGateway.Proofs.Selector.Rendering
import ClusterGateway.Proofs.Pod.Workload
import ClusterGateway.Proofs.Log.Batch
import ClusterGateway.Proofs.Log.Live
import ClusterGateway.Proofs.Proxy.Forwarding
import ClusterGateway.Proofs.Dialogue.Steps
import ClusterGateway.Proofs.Resource.Catalog
import ClusterGateway.Proofs.Resource.Snapshot
import ClusterGateway.Proofs.Resource.Discovery
import ClusterGateway.Proofs.Companion.Lifecycle
import ClusterGateway.Proofs.Text.Utf8
import ClusterGateway.Proofs.Http.Uri
import ClusterGateway.Proofs.Proxy.Entries
import ClusterGateway.Proofs.Table.Union
import ClusterGateway.Proofs.Resource.Ageing
import ClusterGateway.Proofs.Text.Lossy
import ClusterGateway.Proofs.Log.Framing
import ClusterGateway.Proofs.Quantity.Written
import ClusterGateway.Proofs.Quantity.Words
import ClusterGateway.Proofs.Quantity.Exact
import ClusterGateway.Proofs.Api.Failures
import ClusterGateway.Proofs.Api.Patterns
import ClusterGateway.Proofs.Dialogue.Confined
import ClusterGateway.Proofs.Resource.Stateless
import ClusterGateway.Proofs.Gateway.Errands
import ClusterGateway.Proofs.Gateway.Isolation
import ClusterGateway.Proofs.Table.Columns
import ClusterGateway.Proofs.Table.Laws
import ClusterGateway.Proofs.Resource.Kinds
import ClusterGateway.Proofs.Http.Query
import ClusterGateway.Proofs.Table.Plan
import ClusterGateway.Proofs.Log.Window
import ClusterGateway.Proofs.Time.Calendar
import ClusterGateway.Proofs.Time.Timestamp
import ClusterGateway.Proofs.Json.Objects
import ClusterGateway.Proofs.Log.Lines
import ClusterGateway.Proofs.Http.Form
import ClusterGateway.Proofs.Pod.Resolution
import ClusterGateway.Proofs.Table.Plain
import ClusterGateway.Proofs.Json.Records
import ClusterGateway.Proofs.Time.Rendered
import ClusterGateway.Proofs.Api.Wire
import ClusterGateway.Proofs.Text.Blanks
import ClusterGateway.Proofs.Quantity.ReadBack
import ClusterGateway.Proofs.Identity.Overriding
import ClusterGateway.Proofs.JsonPath.Spelling
