import FaasOperator.Agenda
import FaasOperator.Backoff
import FaasOperator.Base64
import FaasOperator.Cluster.Error
import FaasOperator.Cluster.Plan
import FaasOperator.CommandLine
import FaasOperator.CommandLine.LogFilter
import FaasOperator.CommandLine.Options
import FaasOperator.CommandLine.SocketAddress
import FaasOperator.CommandLine.Timeout
import FaasOperator.CommandLine.Word
import FaasOperator.Controller
import FaasOperator.Duration
import FaasOperator.Files
import FaasOperator.Function.Object
import FaasOperator.Function.Spec
import FaasOperator.Function.Text
import FaasOperator.Http.Api
import FaasOperator.Http.Client
import FaasOperator.Http.Events
import FaasOperator.Http.Message
import FaasOperator.Http.Target
import FaasOperator.Http.Url
import FaasOperator.InCluster
import FaasOperator.Index
import FaasOperator.Index.Metrics
import FaasOperator.Json
import FaasOperator.Json.Decoder
import FaasOperator.Json.Document
import FaasOperator.Json.Equality
import FaasOperator.Json.Literal
import FaasOperator.Json.NumberScan
import FaasOperator.Json.Numeral
import FaasOperator.Json.Reader
import FaasOperator.Json.Shape
import FaasOperator.Kubeconfig
import FaasOperator.Kubeconfig.Shape
import FaasOperator.Kubernetes.Deployment
import FaasOperator.Kubernetes.Deployment.Text
import FaasOperator.Kubernetes.Meta
import FaasOperator.Kubernetes.Pod
import FaasOperator.Kubernetes.Pod.Text
import FaasOperator.Kubernetes.Secret
import FaasOperator.Kubernetes.Service
import FaasOperator.Kubernetes.Shapes.Container
import FaasOperator.Kubernetes.Shapes.Meta
import FaasOperator.Kubernetes.Shapes.Pod
import FaasOperator.Kubernetes.Shapes.Volume
import FaasOperator.Kubernetes.Shapes.Workload
import FaasOperator.Main
import FaasOperator.Metrics
import FaasOperator.Proofs.Backoff
import FaasOperator.Proofs.Cluster.Plan
import FaasOperator.Proofs.Function.Layout
import FaasOperator.Proofs.Function.Text
import FaasOperator.Proofs.Index.Accounts
import FaasOperator.Proofs.Index.Batches
import FaasOperator.Proofs.Index.Cache
import FaasOperator.Proofs.Index.Feedback
import FaasOperator.Proofs.Index.Gauges
import FaasOperator.Proofs.Index.Moments
import FaasOperator.Proofs.Index.Notify
import FaasOperator.Proofs.Index.Owners
import FaasOperator.Proofs.Index.Relist
import FaasOperator.Proofs.Index.Replay
import FaasOperator.Proofs.Index.Routing
import FaasOperator.Proofs.Json.Compact
import FaasOperator.Proofs.Json.Decoder
import FaasOperator.Proofs.Json.Layout
import FaasOperator.Proofs.Json.Literal
import FaasOperator.Proofs.Json.Numeral
import FaasOperator.Proofs.Json.Reader
import FaasOperator.Proofs.Operator.ApiServer
import FaasOperator.Proofs.Operator.LastPass
import FaasOperator.Proofs.Operator.OwnedNames
import FaasOperator.Proofs.Operator.Ownership
import FaasOperator.Proofs.Operator.ResyncRound
import FaasOperator.Proofs.Operator.Services
import FaasOperator.Proofs.Operator.Store
import FaasOperator.Proofs.Operator.System
import FaasOperator.Proofs.Quantity
import FaasOperator.Proofs.Reconcile.Calls
import FaasOperator.Proofs.Reconcile.Confined
import FaasOperator.Proofs.Reconcile.Converged
import FaasOperator.Proofs.Reconcile.DeclaredSecrets
import FaasOperator.Proofs.Reconcile.Fronted
import FaasOperator.Proofs.Reconcile.Protocol
import FaasOperator.Proofs.Reconcile.SecretValues
import FaasOperator.Proofs.Reconcile.Sends
import FaasOperator.Proofs.ResourceKey
import FaasOperator.Proofs.StringMap
import FaasOperator.Proofs.Text
import FaasOperator.Proofs.WorkQueue.Clocked
import FaasOperator.Proofs.WorkQueue.Drain
import FaasOperator.Proofs.WorkQueue.Order
import FaasOperator.Proofs.WorkQueue.Passes
import FaasOperator.Proofs.WorkQueue.Pool
import FaasOperator.Proofs.WorkQueue.Retries
import FaasOperator.Proofs.WorkQueue.Schedule
import FaasOperator.Proofs.WorkQueue.Shared
import FaasOperator.Proofs.WorkQueue.Sound
import FaasOperator.Proofs.WorkQueue.Wakeup
import FaasOperator.Proofs.Workload.Alike
import FaasOperator.Proofs.Workload.Change
import FaasOperator.Proofs.Workload.Difference
import FaasOperator.Proofs.Workload.Mounts
import FaasOperator.Proofs.Workload.NodeSelector
import FaasOperator.Proofs.Workload.Projections
import FaasOperator.Proofs.Workload.ReadOnly
import FaasOperator.Proofs.Workload.Resources
import FaasOperator.Proofs.Workload.Revision
import FaasOperator.Proofs.Workload.SecretValues
import FaasOperator.Proofs.Workload.Selectors
import FaasOperator.PullPolicy
import FaasOperator.Quantity
import FaasOperator.Reconcile
import FaasOperator.ResourceKey
import FaasOperator.Simulation.Cluster
import FaasOperator.Simulation.Script
import FaasOperator.Simulation.World
import FaasOperator.Startup
import FaasOperator.StringMap
import FaasOperator.Text
import FaasOperator.Text.Alphanumeric
import FaasOperator.Text.GraphemeExtend
import FaasOperator.Text.Pattern
import FaasOperator.Text.Quoted
import FaasOperator.Text.Unprintable
import FaasOperator.Timestamp
import FaasOperator.WorkQueue
import FaasOperator.WorkQueue.Timed
import FaasOperator.Workload.Change
import FaasOperator.Workload.Deployment
import FaasOperator.Workload.ReadOnly
import FaasOperator.Workload.Resources
import FaasOperator.Workload.Secrets
import FaasOperator.Workload.Volumes
import FaasOperator.Yaml.BlockScalar
import FaasOperator.Yaml.Cursor
import FaasOperator.Yaml.Directive
import FaasOperator.Yaml.Document
import FaasOperator.Yaml.Double
import FaasOperator.Yaml.Event
import FaasOperator.Yaml.Fault
import FaasOperator.Yaml.Gap
import FaasOperator.Yaml.PlainScalar
import FaasOperator.Yaml.QuotedScalar
import FaasOperator.Yaml.Shape
import FaasOperator.Yaml.Tag
import FaasOperator.Yaml.Token
import FaasOperator.Yaml.Tokens
import FaasOperator.Yaml.Value
