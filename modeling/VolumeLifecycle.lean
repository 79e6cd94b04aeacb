import VolumeLifecycle.Command
import VolumeLifecycle.Config
import VolumeLifecycle.Document.Access
import VolumeLifecycle.Document.Arith
import VolumeLifecycle.Document.Display
import VolumeLifecycle.Document.Value
import VolumeLifecycle.Failure
import VolumeLifecycle.Json.Reader
import VolumeLifecycle.Json.Writer
import VolumeLifecycle.Lifecycle.Component
import VolumeLifecycle.Lifecycle.JobWait
import VolumeLifecycle.Lifecycle.Phase
import VolumeLifecycle.Lifecycle.PowerCycle
import VolumeLifecycle.Lifecycle.Reconcile
import VolumeLifecycle.Lifecycle.Submit
import VolumeLifecycle.Lock.Contention
import VolumeLifecycle.Lock.Registry
import VolumeLifecycle.Lock.Slot
import VolumeLifecycle.Main
import VolumeLifecycle.Number.Binary
import VolumeLifecycle.Number.Format
import VolumeLifecycle.Number.Read
import VolumeLifecycle.Number.Shortest
import VolumeLifecycle.Redfish.Client
import VolumeLifecycle.Redfish.Controller
import VolumeLifecycle.Redfish.Message
import VolumeLifecycle.Redfish.Record
import VolumeLifecycle.Redfish.Response
import VolumeLifecycle.Site
import VolumeLifecycle.Text.Base64
import VolumeLifecycle.Text.Blank
import VolumeLifecycle.Text.Cased
import VolumeLifecycle.Text.Digit
import VolumeLifecycle.Text.Lowercase
import VolumeLifecycle.Text.Pattern
import VolumeLifecycle.Text.Printable
import VolumeLifecycle.Text.Quote
import VolumeLifecycle.Text.Surrogate
import VolumeLifecycle.Text.Utf8
import VolumeLifecycle.Volume.ApplyTime
import VolumeLifecycle.Volume.Request
import VolumeLifecycle.Volume.State
import VolumeLifecycle.Yaml.Document
import VolumeLifecycle.Yaml.Event
import VolumeLifecycle.Yaml.Event.Stream
import VolumeLifecycle.Yaml.Mark
import VolumeLifecycle.Yaml.Node
import VolumeLifecycle.Yaml.Tag
import VolumeLifecycle.Yaml.Timestamp
import VolumeLifecycle.Yaml.Token
import VolumeLifecycle.Yaml.Token.Cursor
import VolumeLifecycle.Yaml.Token.Property
import VolumeLifecycle.Yaml.Token.Scalar
import VolumeLifecycle.Yaml.Token.Stream
import VolumeLifecycle.Yaml.Value
import VolumeLifecycle.Yaml.Writer
import VolumeLifecycle.Proofs.Document.Entries
import VolumeLifecycle.Proofs.Lock.Slot
import VolumeLifecycle.Proofs.Lock.Contention
import VolumeLifecycle.Proofs.Document.Faults
import VolumeLifecycle.Proofs.Site.Journal
import VolumeLifecycle.Proofs.Redfish.Reads
import VolumeLifecycle.Proofs.Volume.Defaults
import VolumeLifecycle.Proofs.Lifecycle.Actions
import VolumeLifecycle.Proofs.Lifecycle.Station
import VolumeLifecycle.Proofs.Lifecycle.Phases
import VolumeLifecycle.Proofs.Lifecycle.Verbs
import VolumeLifecycle.Proofs.Lifecycle.Gate
import VolumeLifecycle.Proofs.Lifecycle.Shape
import VolumeLifecycle.Proofs.Lifecycle.Status
import VolumeLifecycle.Proofs.Lifecycle.Identity
import VolumeLifecycle.Proofs.Redfish.Listing
import VolumeLifecycle.Proofs.Lifecycle.ReadBack
import VolumeLifecycle.Proofs.Lifecycle.Settle
import VolumeLifecycle.Proofs.Lifecycle.JobPolls
import VolumeLifecycle.Proofs.Lifecycle.PowerPolls
import VolumeLifecycle.Proofs.Lifecycle.PollBounds
import VolumeLifecycle.Proofs.Redfish.DriveReads
import VolumeLifecycle.Proofs.Lifecycle.DriveMatch
import VolumeLifecycle.Proofs.Lock.Key
import VolumeLifecycle.Proofs.Lifecycle.Execution
import VolumeLifecycle.Proofs.Lifecycle.WriteBack
import VolumeLifecycle.Proofs.Redfish.Refusals
import VolumeLifecycle.Proofs.Volume.Filling
import VolumeLifecycle.Proofs.Lifecycle.Encryption
import VolumeLifecycle.Proofs.Lifecycle.Threads
import VolumeLifecycle.Proofs.Config.Load
import VolumeLifecycle.Proofs.Text.Lowering
import VolumeLifecycle.Proofs.Lock.KeyStability
import VolumeLifecycle.Proofs.Lifecycle.VolumeUri
