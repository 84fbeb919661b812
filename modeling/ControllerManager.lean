import ControllerManager.Admission.Object
import ControllerManager.Admission.Request
import ControllerManager.Admission.Response
import ControllerManager.Cluster.Config
import ControllerManager.Cluster.Exchange
import ControllerManager.Cluster.Fault
import ControllerManager.Cluster.Inference
import ControllerManager.Cluster.Kubeconfig
import ControllerManager.Cluster.LeaseCall
import ControllerManager.Cluster.LeaseStore
import ControllerManager.Cluster.Surface
import ControllerManager.Config.BindAddress
import ControllerManager.Config.Flag
import ControllerManager.Config.Flags
import ControllerManager.Config.Settings
import ControllerManager.Decimal.Shortest
import ControllerManager.Defaults
import ControllerManager.Election.Attempt
import ControllerManager.Election.Elector
import ControllerManager.Election.Identity
import ControllerManager.Election.Renewal
import ControllerManager.Election.Timing
import ControllerManager.Environment
import ControllerManager.Error
import ControllerManager.Http.MediaType
import ControllerManager.Http.Message
import ControllerManager.Http.Percent
import ControllerManager.Http.Route
import ControllerManager.Http.Status
import ControllerManager.Json.Basic
import ControllerManager.Json.Flow
import ControllerManager.Json.Number
import ControllerManager.Json.Printer
import ControllerManager.Json.Scan
import ControllerManager.Json.Shape
import ControllerManager.Lease.Basic
import ControllerManager.Lease.Calendar
import ControllerManager.Lease.Decision
import ControllerManager.Lease.Instant
import ControllerManager.Log.Filter
import ControllerManager.Log.Format
import ControllerManager.Log.Level
import ControllerManager.Log.Record
import ControllerManager.Main
import ControllerManager.Manager.Basic
import ControllerManager.Manager.Controller
import ControllerManager.Manager.Options
import ControllerManager.Manager.Registration
import ControllerManager.Manager.Run
import ControllerManager.Manager.Shutdown
import ControllerManager.Manager.Site
import ControllerManager.Manager.Task
import ControllerManager.Metrics
import ControllerManager.Metrics.Service
import ControllerManager.Net.Ip
import ControllerManager.Net.Numeral
import ControllerManager.Net.SocketAddress
import ControllerManager.Net.Uri
import ControllerManager.Probe.Checks
import ControllerManager.Probe.Service
import ControllerManager.Program.Basic
import ControllerManager.Program.Records
import ControllerManager.Registry.Catalog
import ControllerManager.Registry.Roster
import ControllerManager.Scheme.Basic
import ControllerManager.Scheme.Builder
import ControllerManager.Simulation.Api
import ControllerManager.Simulation.Command
import ControllerManager.Simulation.Server
import ControllerManager.Simulation.Timeline
import ControllerManager.Simulation.World
import ControllerManager.Startup.Journal
import ControllerManager.Startup.Sequencer
import ControllerManager.Startup.Stage
import ControllerManager.Text.Armor
import ControllerManager.Text.Base64
import ControllerManager.Text.Blank
import ControllerManager.Text.CodeRange
import ControllerManager.Text.Decimal
import ControllerManager.Text.Lines
import ControllerManager.Text.Lower
import ControllerManager.Text.Moment
import ControllerManager.Text.Printable
import ControllerManager.Text.Quoted
import ControllerManager.Text.Terminal
import ControllerManager.Text.Utf8
import ControllerManager.Topology
import ControllerManager.Webhook.Path
import ControllerManager.Webhook.Resource
import ControllerManager.Webhook.Service
import ControllerManager.Proofs.Cluster.LeaseStore
import ControllerManager.Proofs.Election.Attempt
import ControllerManager.Proofs.Election.Contest
import ControllerManager.Proofs.Election.CompareAndSwap
import ControllerManager.Proofs.Election.Release
import ControllerManager.Proofs.Election.Candidacy
import ControllerManager.Proofs.Election.Coverage
import ControllerManager.Proofs.Election.Campaign
import ControllerManager.Proofs.Election.Exclusion
import ControllerManager.Proofs.Simulation.Candidacies
import ControllerManager.Proofs.Startup.Order
import ControllerManager.Proofs.Topology.Choice
import ControllerManager.Proofs.Topology.Advertised
import ControllerManager.Proofs.Simulation.Tenure
import ControllerManager.Proofs.Manager.Leadership
import ControllerManager.Proofs.Manager.Lapse
import ControllerManager.Proofs.Manager.Course
import ControllerManager.Proofs.Election.Flag
import ControllerManager.Proofs.Manager.Calls
import ControllerManager.Proofs.Manager.Dealings
import ControllerManager.Proofs.Manager.HandBack
import ControllerManager.Proofs.Manager.Result
import ControllerManager.Proofs.Simulation.Standings
import ControllerManager.Proofs.Registry.Entries
import ControllerManager.Proofs.Defaults.History
import ControllerManager.Proofs.Http.Route
import ControllerManager.Proofs.Webhook.Dispatch
import ControllerManager.Proofs.Json.Fits
import ControllerManager.Proofs.Webhook.Accounting
import ControllerManager.Proofs.Startup.Binding
import ControllerManager.Proofs.Net.Uri
import ControllerManager.Proofs.Manager.Wildcard
import ControllerManager.Proofs.Election.Verdict
import ControllerManager.Proofs.Election.Protection
import ControllerManager.Proofs.Election.Loss
import ControllerManager.Proofs.Election.Session
import ControllerManager.Proofs.Election.Handover
import ControllerManager.Proofs.Topology.Endpoint
import ControllerManager.Proofs.Manager.Drain
import ControllerManager.Proofs.Manager.Return
import ControllerManager.Proofs.Net.Numeral
import ControllerManager.Proofs.Net.Ip
import ControllerManager.Proofs.Net.SocketAddress
import ControllerManager.Proofs.Config.BindAddress
import ControllerManager.Proofs.Webhook.Registration
import ControllerManager.Proofs.Webhook.Path
import ControllerManager.Proofs.Startup.Webhooks
import ControllerManager.Proofs.Registry.Intake
import ControllerManager.Proofs.Scheme.Registrations
import ControllerManager.Proofs.Manager.Registries
import ControllerManager.Proofs.Http.Percent
import ControllerManager.Proofs.Probe.Agreement
