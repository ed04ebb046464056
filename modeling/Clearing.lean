import Clearing.Account.Id
import Clearing.Balance.Cache
import Clearing.Balance.Inquiry
import Clearing.Balance.Snapshot
import Clearing.Bus.Broker
import Clearing.Bus.Error
import Clearing.Bus.Message
import Clearing.Bus.Outbox
import Clearing.Bus.Partition
import Clearing.Bus.Relay
import Clearing.Cache.Error
import Clearing.Cache.Store
import Clearing.CommandLine
import Clearing.Config.Backend
import Clearing.Config.DotEnv
import Clearing.Config.Environment
import Clearing.Config.Error
import Clearing.Config.Files
import Clearing.Config.LogFilter
import Clearing.Config.Logging
import Clearing.Config.Settings
import Clearing.Decimal.Basic
import Clearing.Decimal.Binary64
import Clearing.Decimal.Text
import Clearing.Gateway.Http
import Clearing.Gateway.MediaType
import Clearing.Gateway.Route
import Clearing.Gateway.Service
import Clearing.Json.Number
import Clearing.Json.Reader
import Clearing.Json.Record
import Clearing.Json.Scalar
import Clearing.Json.Skip
import Clearing.Json.Writer
import Clearing.Ledger.Accounts
import Clearing.Ledger.Order
import Clearing.Main
import Clearing.Money.Amount
import Clearing.Money.Currency
import Clearing.Net.Address
import Clearing.Payment.Book
import Clearing.Payment.Error
import Clearing.Payment.Idempotency
import Clearing.Payment.Intake
import Clearing.Payment.Record
import Clearing.Payment.Request
import Clearing.Payment.Status
import Clearing.Power
import Clearing.Proofs.Account.Numbers
import Clearing.Proofs.Account.Spelling
import Clearing.Proofs.Balance.Coherence
import Clearing.Proofs.Balance.Inquiries
import Clearing.Proofs.Balance.Snapshots
import Clearing.Proofs.Balance.Staleness
import Clearing.Proofs.Bus.Consumer
import Clearing.Proofs.Bus.Exchange
import Clearing.Proofs.Bus.Logs
import Clearing.Proofs.Bus.Mailroom
import Clearing.Proofs.Bus.Passes
import Clearing.Proofs.Bus.Relay
import Clearing.Proofs.Bus.Subscriptions
import Clearing.Proofs.Bus.Turns
import Clearing.Proofs.Cache.Store
import Clearing.Proofs.Decimal.Exactness
import Clearing.Proofs.Decimal.Keeping
import Clearing.Proofs.Decimal.Numeral
import Clearing.Proofs.Decimal.Rounding
import Clearing.Proofs.Decimal.Scientific
import Clearing.Proofs.Decimal.Shortest
import Clearing.Proofs.Decimal.Squeezing
import Clearing.Proofs.Decimal.Sum
import Clearing.Proofs.Decimal.Text
import Clearing.Proofs.Decimal.Value
import Clearing.Proofs.Except
import Clearing.Proofs.Gateway.Clients
import Clearing.Proofs.Gateway.Handling
import Clearing.Proofs.Gateway.Reception
import Clearing.Proofs.Json.Following
import Clearing.Proofs.Json.Literals
import Clearing.Proofs.Json.Records
import Clearing.Proofs.Json.Strings
import Clearing.Proofs.Ledger.Conservation
import Clearing.Proofs.Ledger.Decisions
import Clearing.Proofs.Ledger.History
import Clearing.Proofs.Ledger.Outcomes
import Clearing.Proofs.Ledger.Rows
import Clearing.Proofs.Ledger.Settlements
import Clearing.Proofs.Ledger.Spellings
import Clearing.Proofs.Ledger.Transfer
import Clearing.Proofs.Ledger.Unrelated
import Clearing.Proofs.Money.Amount
import Clearing.Proofs.Money.Texts
import Clearing.Proofs.Net.Address
import Clearing.Proofs.Payment.Amounts
import Clearing.Proofs.Payment.Answers
import Clearing.Proofs.Payment.Books
import Clearing.Proofs.Payment.Correspondence
import Clearing.Proofs.Payment.Desk
import Clearing.Proofs.Payment.Failures
import Clearing.Proofs.Payment.Handlings
import Clearing.Proofs.Payment.Intake
import Clearing.Proofs.Payment.Lifetimes
import Clearing.Proofs.Payment.Receipts
import Clearing.Proofs.Payment.Recollection
import Clearing.Proofs.Payment.Registry
import Clearing.Proofs.Payment.Replays
import Clearing.Proofs.Payment.Requests
import Clearing.Proofs.Pipeline.Acceptance
import Clearing.Proofs.Pipeline.Activities
import Clearing.Proofs.Pipeline.Consistency
import Clearing.Proofs.Pipeline.Operations
import Clearing.Proofs.Pipeline.Origins
import Clearing.Proofs.Pipeline.Progress
import Clearing.Proofs.Pipeline.Publishing
import Clearing.Proofs.Pipeline.Reconciliation
import Clearing.Proofs.Pipeline.Runs
import Clearing.Proofs.Pipeline.Settling
import Clearing.Proofs.Pipeline.Spellings
import Clearing.Proofs.Pipeline.SteadyRuns
import Clearing.Proofs.Pipeline.Traces
import Clearing.Proofs.RateLimit.Admissions
import Clearing.Proofs.RateLimit.Isolation
import Clearing.Proofs.RateLimit.Resumption
import Clearing.Proofs.RateLimit.Windows
import Clearing.Proofs.Service.Call
import Clearing.Proofs.Settlement.Crew
import Clearing.Proofs.Settlement.Deliveries
import Clearing.Proofs.Settlement.Effects
import Clearing.Proofs.Settlement.Events
import Clearing.Proofs.Settlement.Redeliveries
import Clearing.Proofs.Settlement.Rejections
import Clearing.Proofs.Settlement.RoundTrips
import Clearing.Proofs.Settlement.Verdicts
import Clearing.Proofs.Settlement.Workers
import Clearing.Proofs.Table
import Clearing.Proofs.Text.Digits
import Clearing.Proofs.Text.Hexadecimal
import Clearing.Proofs.Text.Splitting
import Clearing.Proofs.Text.Trimming
import Clearing.Proofs.Time.Text
import Clearing.Proofs.Timed
import Clearing.Proofs.Trace.Context
import Clearing.Proofs.Trace.Headers
import Clearing.Proofs.World.Accumulation
import Clearing.Proofs.World.Disturbances
import Clearing.Proofs.World.Mail
import Clearing.Proofs.World.Order
import Clearing.RateLimit.Limiter
import Clearing.Service.Call
import Clearing.Service.Error
import Clearing.Settlement.Delivery
import Clearing.Settlement.Disposition
import Clearing.Settlement.Event
import Clearing.Settlement.Member
import Clearing.Simulation.Plan
import Clearing.Simulation.Run
import Clearing.Simulation.Step
import Clearing.Simulation.Workers
import Clearing.Table
import Clearing.Text.Alphanumeric
import Clearing.Text.Ascii
import Clearing.Text.Blank
import Clearing.Text.Bytes
import Clearing.Text.Percent
import Clearing.Text.Printable
import Clearing.Text.Quoted
import Clearing.Text.Split
import Clearing.Time.Text
import Clearing.Time.Timestamp
import Clearing.Trace.Context
import Clearing.Trace.Headers
import Clearing.World
import Clearing.Yaml.BlockScalar
import Clearing.Yaml.Cursor
import Clearing.Yaml.Document
import Clearing.Yaml.Event
import Clearing.Yaml.Layout
import Clearing.Yaml.Scalar
import Clearing.Yaml.Tag
import Clearing.Yaml.Token
