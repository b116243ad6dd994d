import OdooKeeper.Api.Exchange
import OdooKeeper.Api.Status
import OdooKeeper.Api.Uri
import OdooKeeper.App.Condition
import OdooKeeper.App.Desired
import OdooKeeper.App.Names
import OdooKeeper.App.Sample
import OdooKeeper.App.Schema
import OdooKeeper.App.Spec
import OdooKeeper.App.Status
import OdooKeeper.App.StatusUpdate
import OdooKeeper.Attempt
import OdooKeeper.Bytes
import OdooKeeper.Bytes.Base64
import OdooKeeper.Bytes.Sha256
import OdooKeeper.ConfigFile
import OdooKeeper.Connection
import OdooKeeper.Decimal.Binary64
import OdooKeeper.Decimal.Integer
import OdooKeeper.Dependent
import OdooKeeper.Dependents
import OdooKeeper.Failure
import OdooKeeper.Failure.Reason
import OdooKeeper.InitJob.Phase
import OdooKeeper.InitJob.Tracker
import OdooKeeper.Json.Basic
import OdooKeeper.Json.Covers
import OdooKeeper.Json.Decode
import OdooKeeper.Json.DecodeError
import OdooKeeper.Json.Flaw
import OdooKeeper.Json.Merge
import OdooKeeper.Json.Numeral
import OdooKeeper.Json.ParseError
import OdooKeeper.Json.Parser
import OdooKeeper.Json.Pointer
import OdooKeeper.Json.Printer
import OdooKeeper.Json.Scanner
import OdooKeeper.Json.Schema
import OdooKeeper.Json.Time
import OdooKeeper.Object
import OdooKeeper.Object.Claim
import OdooKeeper.Object.Deployment
import OdooKeeper.Object.Job
import OdooKeeper.Object.Metadata
import OdooKeeper.Object.Pod
import OdooKeeper.Object.Secret
import OdooKeeper.Object.Service
import OdooKeeper.ObjectKey
import OdooKeeper.OrdMap
import OdooKeeper.Owner
import OdooKeeper.Pass
import OdooKeeper.Password
import OdooKeeper.Proofs.Execution
import OdooKeeper.Proofs.Serving
import OdooKeeper.Proofs.WellFormed
import OdooKeeper.Report
import OdooKeeper.Routing
import OdooKeeper.Routing.Filter
import OdooKeeper.Settings
import OdooKeeper.Store
import OdooKeeper.Store.Objects
import OdooKeeper.Store.Program
import OdooKeeper.Store.Request
import OdooKeeper.Store.Selector
import OdooKeeper.Text.Blank
import OdooKeeper.Text.Property
import OdooKeeper.Text.Quoted
import OdooKeeper.Text.Segments
import OdooKeeper.Timestamp
import OdooKeeper.Timestamp.Rfc3339
import OdooKeeper.Proofs.Reporting
import OdooKeeper.Proofs.Dependents
import OdooKeeper.Proofs.Modules
import OdooKeeper.Proofs.Payloads
import OdooKeeper.Proofs.Filtering
import OdooKeeper.Proofs.Watching
import OdooKeeper.Proofs.Tracker
import OdooKeeper.Proofs.Alone
import OdooKeeper.Proofs.Passes
import OdooKeeper.Proofs.Undisturbed
import OdooKeeper.Proofs.Runs
import OdooKeeper.Proofs.Installed
import OdooKeeper.Proofs.Gate
import OdooKeeper.Proofs.Interruption
import OdooKeeper.Proofs.Conditions
import OdooKeeper.Proofs.Covering
import OdooKeeper.Proofs.Idling
import OdooKeeper.Proofs.Resting
import OdooKeeper.Proofs.SteadyState
import OdooKeeper.Proofs.Secrets
import OdooKeeper.Proofs.Settling
import OdooKeeper.Proofs.Converging
import OdooKeeper.Proofs.Stages
import OdooKeeper.Proofs.Halting
import OdooKeeper.Proofs.Effects
import OdooKeeper.Proofs.Failing
import OdooKeeper.Proofs.Removing
import OdooKeeper.Proofs.Ordering
import OdooKeeper.Proofs.Footprint
import OdooKeeper.Proofs.Histories
import OdooKeeper.Proofs.Overtaking
import OdooKeeper.Proofs.Mounting
import OdooKeeper.Proofs.Configuring
import OdooKeeper.Proofs.Leaking
import OdooKeeper.Proofs.Statuses
import OdooKeeper.Proofs.Agreement
import OdooKeeper.Proofs.Coherence
import OdooKeeper.Proofs.Likeness
import OdooKeeper.Proofs.Lockstep
import OdooKeeper.Proofs.Abreast
import OdooKeeper.Proofs.Resolving
import OdooKeeper.Proofs.Secrecy
import OdooKeeper.Proofs.Commuting
import OdooKeeper.Proofs.Coverage
import OdooKeeper.Proofs.Attaining
import OdooKeeper.Proofs.Transitions
import OdooKeeper.Proofs.Times
import OdooKeeper.Proofs.Encoding
import OdooKeeper.Proofs.Revisions
import OdooKeeper.Proofs.Routes
import OdooKeeper.Proofs.Resolution
import OdooKeeper.Proofs.Numerals
import OdooKeeper.Proofs.Rendering
import OdooKeeper.Proofs.Owning
import OdooKeeper.Proofs.Adopting
import OdooKeeper.Proofs.Clearing
import OdooKeeper.Proofs.Drifting
import OdooKeeper.Proofs.Combining
import OdooKeeper.Proofs.Variables
import OdooKeeper.Proofs.Defaults
import OdooKeeper.Proofs.Trimming
import OdooKeeper.Proofs.Selecting
import OdooKeeper.Proofs.Naming
import OdooKeeper.Proofs.Representation
