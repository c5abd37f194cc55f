import Switchboard.Activity.Basic
import Switchboard.Api.Call
import Switchboard.Api.Error
import Switchboard.Api.Management
import Switchboard.Api.Messaging
import Switchboard.Api.Method
import Switchboard.Api.Polling
import Switchboard.Config.Basic
import Switchboard.Config.Layer
import Switchboard.Config.Load
import Switchboard.Config.Logging
import Switchboard.Config.Profile
import Switchboard.Config.Valid
import Switchboard.Config.Variable
import Switchboard.Contact.Answer
import Switchboard.Contact.Basic
import Switchboard.Contact.Settings
import Switchboard.Decimal.Binary
import Switchboard.Decimal.Read
import Switchboard.Decimal.Shortest
import Switchboard.Decimal.Style
import Switchboard.Declaration.Basic
import Switchboard.Declaration.Token
import Switchboard.Declaration.Variant
import Switchboard.Duration
import Switchboard.Event.Account
import Switchboard.Event.Basic
import Switchboard.Event.Wire
import Switchboard.Files.Folder
import Switchboard.Files.Path
import Switchboard.Json.Number
import Switchboard.Json.Reader
import Switchboard.Json.Value
import Switchboard.Json.Writer
import Switchboard.Logging.Plan
import Switchboard.Message.Basic
import Switchboard.Message.Segment
import Switchboard.Rehearsal.Account
import Switchboard.Rehearsal.Course
import Switchboard.Rehearsal.Perform
import Switchboard.Rehearsal.Run
import Switchboard.Rehearsal.Scene
import Switchboard.Rehearsal.Script
import Switchboard.Rehearsal.Server
import Switchboard.Rehearsal.Stage
import Switchboard.Rehearsal.Task
import Switchboard.Repeater.Answer
import Switchboard.Repeater.History
import Switchboard.Report.Failure
import Switchboard.Service.Basic
import Switchboard.Service.Error
import Switchboard.Session.Lifecycle
import Switchboard.Shape.Basic
import Switchboard.Shape.Fault
import Switchboard.Shape.Record
import Switchboard.Stream.Dispatch
import Switchboard.Stream.Monitor
import Switchboard.Stream.Reader
import Switchboard.Stream.Stop
import Switchboard.Text.Blank
import Switchboard.Text.Identifier
import Switchboard.Text.Lowercase
import Switchboard.Text.Parts
import Switchboard.Text.Quoted
import Switchboard.Text.Ranges
import Switchboard.Text.Visible
import Switchboard.Toml.Draft
import Switchboard.Toml.Reader
import Switchboard.Toml.Scalar
import Switchboard.Toml.Text
import Switchboard.Transport.Endpoint
import Switchboard.Transport.Error
import Switchboard.Transport.Request
import Switchboard.Transport.Retry
import Switchboard.Transport.Url
import Switchboard.Waiter.Claim
import Switchboard.Waiter.Error
import Switchboard.Waiter.Pattern
import Switchboard.Waiter.Queue
import Switchboard.Proofs.Shape.Reading
import Switchboard.Proofs.Message.Wire
import Switchboard.Proofs.Waiter.Hall
import Switchboard.Proofs.Waiter.History
import Switchboard.Proofs.Waiter.Order
import Switchboard.Proofs.Waiter.Delivery
import Switchboard.Proofs.Waiter.Fate
import Switchboard.Proofs.Waiter.Withdrawal
import Switchboard.Proofs.Waiter.Search
import Switchboard.Proofs.Stream.Station
import Switchboard.Proofs.Stream.Multiplexer
import Switchboard.Proofs.Stream.Script
import Switchboard.Proofs.Stream.Shutdown
import Switchboard.Proofs.Stream.Relay
import Switchboard.Proofs.Stream.Round
import Switchboard.Proofs.Stream.Vigil
import Switchboard.Proofs.Stream.Standing
import Switchboard.Proofs.Stream.Discipline
import Switchboard.Proofs.Waiter.Closing
import Switchboard.Proofs.Waiter.Uninterrupted
import Switchboard.Proofs.Waiter.Waiting
import Switchboard.Proofs.Stream.Reconnect
import Switchboard.Proofs.Stream.Stopping
import Switchboard.Proofs.Waiter.Occupancy
import Switchboard.Proofs.Waiter.Completion
import Switchboard.Proofs.Waiter.Promptness
import Switchboard.Proofs.Stream.Crew
import Switchboard.Proofs.Stream.Failures
import Switchboard.Proofs.Stream.Aftermath
import Switchboard.Proofs.Stream.Fleet
import Switchboard.Proofs.Stream.Recall
import Switchboard.Proofs.Stream.Halting
import Switchboard.Proofs.Stream.Beside
import Switchboard.Proofs.Stream.Dispatching
import Switchboard.Proofs.Stream.Finality
import Switchboard.Proofs.Session.Points
import Switchboard.Proofs.Session.Custody
import Switchboard.Proofs.Session.Handover
import Switchboard.Proofs.Session.Keeping
import Switchboard.Proofs.Session.Staging
import Switchboard.Proofs.Trace
import Switchboard.Proofs.Service.Points
import Switchboard.Proofs.Service.Tenure
import Switchboard.Proofs.Service.Order
import Switchboard.Proofs.Service.Whereabouts
import Switchboard.Proofs.Service.Discharge
import Switchboard.Proofs.Service.Staging
import Switchboard.Proofs.Message.NormalForm
import Switchboard.Proofs.Message.Splitting
import Switchboard.Proofs.Config.Layers
import Switchboard.Proofs.Config.Precedence
import Switchboard.Proofs.Config.Programmatic
import Switchboard.Proofs.Transport.Query
import Switchboard.Proofs.Event.Surplus
import Switchboard.Proofs.Api.Refusal
import Switchboard.Proofs.Transport.Address
import Switchboard.Proofs.Config.Verbatim
import Switchboard.Proofs.Stream.Backoff
import Switchboard.Proofs.Repeater.Talk
import Switchboard.Proofs.Waiter.Hearing
import Switchboard.Proofs.Repeater.Interview
import Switchboard.Proofs.Repeater.Heard
