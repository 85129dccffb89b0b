import CommonPurse.Text.Utf8
import CommonPurse.Text.Quoted
import CommonPurse.Text.Letter
import CommonPurse.Text.Numeral
import CommonPurse.Number.Shortest
import CommonPurse.Number.Decimal.Arithmetic
import CommonPurse.Json.Parser
import CommonPurse.Json.Shown
import CommonPurse.Time.Timestamp
import CommonPurse.Id
import CommonPurse.Color
import CommonPurse.Entry
import CommonPurse.Form
import CommonPurse.Event.Document
import CommonPurse.Group
import CommonPurse.Announcement
import CommonPurse.Notification.Message
import CommonPurse.Retry
import CommonPurse.Store.Memory
import CommonPurse.Dispatch
import CommonPurse.Http.Service
import CommonPurse.Store.Inventory
import CommonPurse.Log.Pipeline
import CommonPurse.Settings
import CommonPurse.Store.Relational
import CommonPurse.Deployment
import CommonPurse.Store.Relational.Catalog
import CommonPurse.CommandLine
import CommonPurse.Command.Document
import CommonPurse.Retry.Document
import CommonPurse.Json.Members
import CommonPurse.Main
import CommonPurse.Proofs.Fallible
import CommonPurse.Proofs.Service.Atomicity
import CommonPurse.Proofs.Store.Reading
import CommonPurse.Proofs.Store.Orderly
import CommonPurse.Proofs.Store.Settling
import CommonPurse.Proofs.Service.Perform
import CommonPurse.Proofs.History.Run
import CommonPurse.Proofs.History.Replay
import CommonPurse.Proofs.History.Settlements
import CommonPurse.Proofs.Concurrency.Interleaving
import CommonPurse.Proofs.Concurrency.SettledOnce
import CommonPurse.Proofs.Concurrency.Overlap
import CommonPurse.Proofs.Concurrency.GroupShape
import CommonPurse.Proofs.Concurrency.Serial
import CommonPurse.Proofs.Concurrency.EventLog
import CommonPurse.Proofs.Json.Numbers
import CommonPurse.Proofs.Json.RoundTrip
import CommonPurse.Proofs.Id
import CommonPurse.Proofs.Time.Calendar
import CommonPurse.Proofs.Time.Timestamp
import CommonPurse.Proofs.Number.Decimal
import CommonPurse.Proofs.Event.Recorded
import CommonPurse.Proofs.Pipeline.Listener
import CommonPurse.Proofs.Pipeline.Delivery
import CommonPurse.Proofs.Text.Letter
import CommonPurse.Proofs.Text.Numeral
import CommonPurse.Proofs.Text.Utf8
import CommonPurse.Proofs.Number.Binary64
import CommonPurse.Proofs.Relational.Outcome
import CommonPurse.Proofs.Relational.Commit
import CommonPurse.Proofs.Relational.Written
import CommonPurse.Proofs.Relational.Agreement
import CommonPurse.Proofs.Concurrency.Shown
import CommonPurse.Proofs.Concurrency.Addresses
import CommonPurse.Proofs.Group.Roster
import CommonPurse.Proofs.Relational.Roster
import CommonPurse.Proofs.Concurrency.Members
import CommonPurse.Proofs.Event.Lossless
import CommonPurse.Proofs.History.Reachable
import CommonPurse.Proofs.Service.Authority
import CommonPurse.Proofs.History.Credentials
import CommonPurse.Proofs.Number.Size
import CommonPurse.Proofs.Number.Operations
import CommonPurse.Proofs.Balance.Faultless
import CommonPurse.Proofs.Command.Stopped
import CommonPurse.Proofs.History.Regular
import CommonPurse.Proofs.Service.Taxonomy
import CommonPurse.Proofs.Log.Context
import CommonPurse.Proofs.Log.Dispatching
import CommonPurse.Proofs.Log.Lines
import CommonPurse.Proofs.Log.Statements
import CommonPurse.Proofs.Log.Spoken
import CommonPurse.Proofs.Notification.Handling
import CommonPurse.Proofs.Number.Rounding
import CommonPurse.Proofs.Entry.Amount
import CommonPurse.Proofs.Balance.Turn
import CommonPurse.Proofs.Balance.Deltas
import CommonPurse.Proofs.Balance.Debtors
import CommonPurse.Proofs.Balance.Deviation
import CommonPurse.Proofs.Balance.Convergence
import CommonPurse.Proofs.Balance.Accuracy
import CommonPurse.Proofs.Retry
import CommonPurse.Proofs.Pipeline.Conduct
import CommonPurse.Proofs.Pipeline.Channel
import CommonPurse.Proofs.Deployment.Closing
import CommonPurse.Proofs.Number.Nearest
import CommonPurse.Proofs.Number.Powers
import CommonPurse.Proofs.Retry.Delays
import CommonPurse.Proofs.Retry.Contract
import CommonPurse.Proofs.Group.Trace
import CommonPurse.Proofs.Store.Entries
import CommonPurse.Proofs.Relational.Saves
import CommonPurse.Proofs.Concurrency.Accepted
import CommonPurse.Proofs.Store.Finished
import CommonPurse.Proofs.Balance.Rearrangement
import CommonPurse.Proofs.Entry.Rounding
import CommonPurse.Proofs.Pipeline.Publishing
import CommonPurse.Proofs.Store.Rewording
import CommonPurse.Proofs.Command.Related
import CommonPurse.Proofs.Service.Discretion
import CommonPurse.Proofs.Text.Integer
import CommonPurse.Proofs.Entry.Spelling
import CommonPurse.Proofs.Relational.Tracing
import CommonPurse.Proofs.Relational.Colors
