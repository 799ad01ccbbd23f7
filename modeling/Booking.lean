import Booking.Availability.Basic
import Booking.Availability.Walk
import Booking.Command.Answer
import Booking.Command.Request
import Booking.Decimal.Binary64
import Booking.Decimal.Shortest
import Booking.Desk.Basic
import Booking.Desk.Traffic
import Booking.Ident
import Booking.Json.Reader
import Booking.Json.Token
import Booking.Json.Value
import Booking.Json.Writer
import Booking.Ledger.Basic
import Booking.Ledger.Register
import Booking.Ledger.Reservation
import Booking.Main
import Booking.Record.Basic
import Booking.Record.Error
import Booking.Record.Forms
import Booking.Recurrence.Field
import Booking.Recurrence.Pattern
import Booking.Recurrence.Reader
import Booking.Settings
import Booking.Text.Basic
import Booking.Text.Quoted
import Booking.Time.Date
import Booking.Time.Instant
import Booking.Time.Period
import Booking.Time.Stamp
import Booking.Proofs.Availability.Choices
import Booking.Proofs.Availability.Edits
import Booking.Proofs.Availability.Nesting
import Booking.Proofs.Availability.Quota
import Booking.Proofs.Availability.Slots
import Booking.Proofs.Availability.Walk
import Booking.Proofs.Command.Explain
import Booking.Proofs.Command.Reserve
import Booking.Proofs.Command.Slots
import Booking.Proofs.Desk.Booked
import Booking.Proofs.Desk.Entries
import Booking.Proofs.Desk.Events
import Booking.Proofs.Desk.Isolation
import Booking.Proofs.Desk.Limit
import Booking.Proofs.Desk.Locks
import Booking.Proofs.Desk.Operations
import Booking.Proofs.Desk.Outcome
import Booking.Proofs.Desk.Room
import Booking.Proofs.Desk.Serial
import Booking.Proofs.Desk.Serve
import Booking.Proofs.Desk.Sharing
import Booking.Proofs.Desk.Table
import Booking.Proofs.Ledger.Decision
import Booking.Proofs.Ledger.Growth
import Booking.Proofs.Ledger.History
import Booking.Proofs.Ledger.Midnight
import Booking.Proofs.Ledger.Minute
import Booking.Proofs.Record.Ident
import Booking.Proofs.Record.RoundTrip
import Booking.Proofs.Recurrence.Alternatives
import Booking.Proofs.Recurrence.Canonical
import Booking.Proofs.Recurrence.Faults
import Booking.Proofs.Recurrence.Grammar
import Booking.Proofs.Recurrence.Length
import Booking.Proofs.Recurrence.Progression
import Booking.Proofs.Recurrence.Whole
import Booking.Proofs.Settings
import Booking.Proofs.Text.Numeral
import Booking.Proofs.Time.Bucket
import Booking.Proofs.Time.Calendar
import Booking.Proofs.Time.Cycle
import Booking.Proofs.Time.Days
import Booking.Proofs.Time.Stamp
