import OpenChoreo.GoMap
import OpenChoreo.Release.Types
import OpenChoreo.Release.Client
import OpenChoreo.Release.Inventory
import OpenChoreo.Release.Namespaces
import OpenChoreo.Release.Requeue
import OpenChoreo.Release.Reconcile
import OpenChoreo.Release.Trace
import OpenChoreo.Release.Guards
import OpenChoreo.Release.Effects
import OpenChoreo.Release.Collect
import OpenChoreo.Release.Idempotence
import OpenChoreo.Release.Finalize
import OpenChoreo.Pipeline.TraitContext
import OpenChoreo.Api.Workflow
import OpenChoreo.Api.BuildConfig
import OpenChoreo.Api.Build
import OpenChoreo.Api.Store
import OpenChoreo.Api.Requests
import OpenChoreo.Api.Components
import OpenChoreo.Api.Pipelines
import OpenChoreo.Api.Bindings
import OpenChoreo.Api.Promotion
import OpenChoreo.Api.Deployments
import OpenChoreo.Api.Workloads
import OpenChoreo.Api.Handlers
import OpenChoreo.Api.Runs
import OpenChoreo.Api.Schema
import OpenChoreo.Observer.Calendar
import OpenChoreo.Observer.Time
import OpenChoreo.Observer.Parse
import OpenChoreo.Observer.Indices
import OpenChoreo.Observer.Query
import OpenChoreo.Synth.Workload
