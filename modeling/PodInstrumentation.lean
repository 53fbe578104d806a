import PodInstrumentation.Admission.Handler
import PodInstrumentation.Admission.Review
import PodInstrumentation.Admission.Server
import PodInstrumentation.Capability.Basic
import PodInstrumentation.Capability.Content
import PodInstrumentation.Capability.Draft
import PodInstrumentation.Capability.Pipeline
import PodInstrumentation.Capability.Registry
import PodInstrumentation.Cluster.Call
import PodInstrumentation.Cluster.Store
import PodInstrumentation.Config.Issue
import PodInstrumentation.Config.MonitoringConfig
import PodInstrumentation.Config.Webhook
import PodInstrumentation.Document
import PodInstrumentation.Fault
import PodInstrumentation.Json.Basic
import PodInstrumentation.Json.Patch
import PodInstrumentation.Json.Printer
import PodInstrumentation.Json.Reader
import PodInstrumentation.Main
import PodInstrumentation.Names
import PodInstrumentation.Net.Duration
import PodInstrumentation.Net.Url
import PodInstrumentation.Number.Double
import PodInstrumentation.Number.Format
import PodInstrumentation.Number.Reader
import PodInstrumentation.Operator.Listener
import PodInstrumentation.Operator.Settings
import PodInstrumentation.Operator.Startup
import PodInstrumentation.Pod.Installer
import PodInstrumentation.Pod.Manifest
import PodInstrumentation.Proofs.Admission.Additive
import PodInstrumentation.Proofs.Admission.Agreement
import PodInstrumentation.Proofs.Admission.Answering
import PodInstrumentation.Proofs.Admission.Asking
import PodInstrumentation.Proofs.Admission.Calling
import PodInstrumentation.Proofs.Admission.Counting
import PodInstrumentation.Proofs.Admission.Deciding
import PodInstrumentation.Proofs.Admission.DryRun
import PodInstrumentation.Proofs.Admission.Effects
import PodInstrumentation.Proofs.Admission.Ending
import PodInstrumentation.Proofs.Admission.Envelope
import PodInstrumentation.Proofs.Admission.History
import PodInstrumentation.Proofs.Admission.Idempotence
import PodInstrumentation.Proofs.Admission.Independence
import PodInstrumentation.Proofs.Admission.Injected
import PodInstrumentation.Proofs.Admission.Installing
import PodInstrumentation.Proofs.Admission.Measuring
import PodInstrumentation.Proofs.Admission.Naming
import PodInstrumentation.Proofs.Admission.Ordering
import PodInstrumentation.Proofs.Admission.Owners
import PodInstrumentation.Proofs.Admission.Owning
import PodInstrumentation.Proofs.Admission.Pairing
import PodInstrumentation.Proofs.Admission.Posting
import PodInstrumentation.Proofs.Admission.Recording
import PodInstrumentation.Proofs.Admission.Repaired
import PodInstrumentation.Proofs.Admission.Sound
import PodInstrumentation.Proofs.Capability.Bookkeeping
import PodInstrumentation.Proofs.Capability.Calling
import PodInstrumentation.Proofs.Capability.Claiming
import PodInstrumentation.Proofs.Capability.Counting
import PodInstrumentation.Proofs.Capability.Filling
import PodInstrumentation.Proofs.Capability.Growing
import PodInstrumentation.Proofs.Capability.Injecting
import PodInstrumentation.Proofs.Capability.Ordering
import PodInstrumentation.Proofs.Capability.Outfit
import PodInstrumentation.Proofs.Capability.Owning
import PodInstrumentation.Proofs.Capability.Pairing
import PodInstrumentation.Proofs.Capability.Registering
import PodInstrumentation.Proofs.Capability.Repairing
import PodInstrumentation.Proofs.Capability.Running
import PodInstrumentation.Proofs.Capability.Sweep
import PodInstrumentation.Proofs.Capability.Telling
import PodInstrumentation.Proofs.Cluster.Asking
import PodInstrumentation.Proofs.Cluster.Pairing
import PodInstrumentation.Proofs.Cluster.Posting
import PodInstrumentation.Proofs.Cluster.Transcript
import PodInstrumentation.Proofs.Cluster.Turns
import PodInstrumentation.Proofs.Config.Checking
import PodInstrumentation.Proofs.Config.Password
import PodInstrumentation.Proofs.Config.Proxy
import PodInstrumentation.Proofs.Config.Ruling
import PodInstrumentation.Proofs.Config.Trimming
import PodInstrumentation.Proofs.Json.Adding
import PodInstrumentation.Proofs.Json.Alike
import PodInstrumentation.Proofs.Json.Distinct
import PodInstrumentation.Proofs.Json.Graft
import PodInstrumentation.Proofs.Json.Grown
import PodInstrumentation.Proofs.Json.Merge
import PodInstrumentation.Proofs.Json.Object
import PodInstrumentation.Proofs.Json.Printing
import PodInstrumentation.Proofs.Json.Room
import PodInstrumentation.Proofs.Json.SameBut
import PodInstrumentation.Proofs.Json.Scalars
import PodInstrumentation.Proofs.Json.Sending
import PodInstrumentation.Proofs.Net.Scanning
import PodInstrumentation.Proofs.Net.Splitting
import PodInstrumentation.Proofs.Operator.Configuring
import PodInstrumentation.Proofs.Operator.Serving
import PodInstrumentation.Proofs.Outcome
import PodInstrumentation.Proofs.Pod.Equipping
import PodInstrumentation.Proofs.Pod.Extending
import PodInstrumentation.Proofs.Pod.Growing
import PodInstrumentation.Proofs.Pod.Inverting
import PodInstrumentation.Proofs.Pod.Keeping
import PodInstrumentation.Proofs.Pod.Patching
import PodInstrumentation.Proofs.Pod.Reading
import PodInstrumentation.Proofs.Pod.Rewriting
import PodInstrumentation.Proofs.Pod.Telling
import PodInstrumentation.Proofs.Secret.Calling
import PodInstrumentation.Proofs.Secret.Ensuring
import PodInstrumentation.Proofs.Secret.Gathering
import PodInstrumentation.Proofs.Secret.Reading
import PodInstrumentation.Proofs.Secret.Repeating
import PodInstrumentation.Proofs.Secret.Reporting
import PodInstrumentation.Proofs.Secret.Settling
import PodInstrumentation.Proofs.Secret.Sharing
import PodInstrumentation.Proofs.Telemetry.Filling
import PodInstrumentation.Proofs.Telemetry.Logging
import PodInstrumentation.Proofs.Text.Coding
import PodInstrumentation.Proofs.Text.Escaping
import PodInstrumentation.Proofs.Workload.Bounding
import PodInstrumentation.Proofs.Workload.Following
import PodInstrumentation.Proofs.Workload.Injecting
import PodInstrumentation.Proofs.Workload.Resolving
import PodInstrumentation.Proofs.Workload.Telling
import PodInstrumentation.Secret.Provision
import PodInstrumentation.Telemetry.Directive
import PodInstrumentation.Telemetry.Log
import PodInstrumentation.Telemetry.Metrics
import PodInstrumentation.Telemetry.Template
import PodInstrumentation.Telemetry.Trace
import PodInstrumentation.Text.Case
import PodInstrumentation.Text.Character
import PodInstrumentation.Text.Encoding
import PodInstrumentation.Text.Printable
import PodInstrumentation.Workload.OwnerChain
