import Outbox.Abort
import Outbox.Account
import Outbox.AccountService
import Outbox.Calendar
import Outbox.Dispatch
import Outbox.Duration
import Outbox.Envelope
import Outbox.Event
import Outbox.Event.Emission
import Outbox.Event.Reader
import Outbox.Id
import Outbox.Json.Chars
import Outbox.Json.Content
import Outbox.Json.Number
import Outbox.Json.Problem
import Outbox.Json.Raw
import Outbox.Json.Reader
import Outbox.Json.Reason
import Outbox.Json.Typed
import Outbox.Json.Value
import Outbox.Log
import Outbox.Log.Directive
import Outbox.Log.Filter
import Outbox.Log.Format
import Outbox.Log.Line
import Outbox.Main
import Outbox.Outlet
import Outbox.Postgres.Dialogue
import Outbox.Postgres.Relay
import Outbox.Postgres.Reply
import Outbox.Postgres.Script
import Outbox.Postgres.Session
import Outbox.Postgres.Statement
import Outbox.Postgres.Store
import Outbox.Postgres.UnitOfWork
import Outbox.Proofs.Account.Desk
import Outbox.Proofs.Account.Draft
import Outbox.Proofs.Account.Effect
import Outbox.Proofs.Account.Identity
import Outbox.Proofs.Account.Interleaving
import Outbox.Proofs.Account.Journal
import Outbox.Proofs.Account.Message
import Outbox.Proofs.Account.Registry
import Outbox.Proofs.Account.Replay
import Outbox.Proofs.Account.Store
import Outbox.Proofs.Calendar
import Outbox.Proofs.Dispatch
import Outbox.Proofs.Document
import Outbox.Proofs.Envelope
import Outbox.Proofs.Envelope.Message
import Outbox.Proofs.Event.Record
import Outbox.Proofs.Json.Content
import Outbox.Proofs.Json.Grammar
import Outbox.Proofs.Json.Members
import Outbox.Proofs.Json.Number
import Outbox.Proofs.Json.Object
import Outbox.Proofs.Json.Raw
import Outbox.Proofs.Json.Reader
import Outbox.Proofs.Json.Strings
import Outbox.Proofs.Json.Survival
import Outbox.Proofs.Json.Token
import Outbox.Proofs.Postgres.Agreement
import Outbox.Proofs.Postgres.Claiming
import Outbox.Proofs.Postgres.Command
import Outbox.Proofs.Postgres.Conversation
import Outbox.Proofs.Postgres.Database
import Outbox.Proofs.Postgres.Discipline
import Outbox.Proofs.Postgres.Leasing
import Outbox.Proofs.Postgres.Limit
import Outbox.Proofs.Postgres.Line
import Outbox.Proofs.Postgres.Mirror
import Outbox.Proofs.Postgres.Operations
import Outbox.Proofs.Postgres.Sql
import Outbox.Proofs.Postgres.Transaction
import Outbox.Proofs.Postgres.Tuple
import Outbox.Proofs.Postgres.Works
import Outbox.Proofs.Retry
import Outbox.Proofs.Retry.Backoff
import Outbox.Proofs.Row
import Outbox.Proofs.Settings
import Outbox.Proofs.Simulation.Delivery
import Outbox.Proofs.Simulation.Relay
import Outbox.Proofs.Simulation.Unit
import Outbox.Proofs.Store.Census
import Outbox.Proofs.Store.Claiming
import Outbox.Proofs.Store.Effects
import Outbox.Proofs.Store.History
import Outbox.Proofs.Store.Insertion
import Outbox.Proofs.Store.Lease
import Outbox.Proofs.Store.Ledger
import Outbox.Proofs.Store.Lookup
import Outbox.Proofs.Store.Operation
import Outbox.Proofs.Store.Order
import Outbox.Proofs.Store.Retrying
import Outbox.Proofs.Store.Scan
import Outbox.Proofs.Store.Soundness
import Outbox.Proofs.Table
import Outbox.Proofs.Text.Decimal
import Outbox.Proofs.Text.Hex
import Outbox.Proofs.Time
import Outbox.Proofs.Time.Sum
import Outbox.Proofs.Time.Text
import Outbox.Proofs.Uuid
import Outbox.Proofs.Worker.Accounting
import Outbox.Proofs.Worker.Answer
import Outbox.Proofs.Worker.Budget
import Outbox.Proofs.Worker.Company
import Outbox.Proofs.Worker.Custody
import Outbox.Proofs.Worker.Deed
import Outbox.Proofs.Worker.Delivery
import Outbox.Proofs.Worker.Draining
import Outbox.Proofs.Worker.Fleet
import Outbox.Proofs.Worker.Isolation
import Outbox.Proofs.Worker.Iterations
import Outbox.Proofs.Worker.Limits
import Outbox.Proofs.Worker.Obliging
import Outbox.Proofs.Worker.Pause
import Outbox.Proofs.Worker.Perform
import Outbox.Proofs.Worker.Precedence
import Outbox.Proofs.Worker.Program
import Outbox.Proofs.Worker.Solo
import Outbox.Proofs.Worker.Steady
import Outbox.Proofs.Worker.Turn
import Outbox.Proofs.Worker.Watch
import Outbox.Publisher
import Outbox.Retry
import Outbox.Retry.Reader
import Outbox.Row
import Outbox.Row.Reader
import Outbox.Settings
import Outbox.Settings.Environment
import Outbox.Settings.Strategy
import Outbox.Simulation.Action
import Outbox.Simulation.Clockwork
import Outbox.Simulation.Command
import Outbox.Simulation.Rehearsal
import Outbox.Store
import Outbox.Table
import Outbox.Text.Alphanumeric
import Outbox.Text.Blank
import Outbox.Text.Bytes
import Outbox.Text.CharSet
import Outbox.Text.Decimal
import Outbox.Text.Hex
import Outbox.Text.Numeral
import Outbox.Text.Pattern
import Outbox.Text.Pattern.Bracket
import Outbox.Text.Pattern.Escape
import Outbox.Text.Pattern.Reader
import Outbox.Text.Pieces
import Outbox.Text.Quoted
import Outbox.Text.Shortest
import Outbox.Text.Visible
import Outbox.Time
import Outbox.Time.Reader
import Outbox.Time.Text
import Outbox.UnitOfWork
import Outbox.Uuid
import Outbox.Uuid.Reader
import Outbox.Uuid.Timed
import Outbox.Worker.Backend
import Outbox.Worker.Iteration
import Outbox.Worker.Loop
import Outbox.Worker.Report
import Outbox.Worker.Startup
