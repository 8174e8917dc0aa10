import Redelivery.Acks
import Redelivery.Binary64
import Redelivery.Binary64.Layout
import Redelivery.Binary64.Product
import Redelivery.Binary64.Shortest
import Redelivery.Calls
import Redelivery.Candidate
import Redelivery.Config
import Redelivery.Config.Folder
import Redelivery.Config.Loading
import Redelivery.Config.Reading
import Redelivery.Config.Writing
import Redelivery.Executor.Pool
import Redelivery.Executor.Routing
import Redelivery.Executor.Workload
import Redelivery.Journal
import Redelivery.Keyed
import Redelivery.Log.Event
import Redelivery.Log.Level
import Redelivery.Log.Line
import Redelivery.Log.Settings
import Redelivery.Message
import Redelivery.Notation.Number
import Redelivery.Notation.Quotation
import Redelivery.Notation.Reader
import Redelivery.Notation.Record
import Redelivery.Notation.Skip
import Redelivery.Policy
import Redelivery.Registry.Basic
import Redelivery.Registry.Building
import Redelivery.Registry.Membership
import Redelivery.Registry.Queries
import Redelivery.Registry.Retry
import Redelivery.Roster
import Redelivery.Schedule.Agenda
import Redelivery.Schedule.Plan
import Redelivery.Script
import Redelivery.SequenceKey
import Redelivery.Service
import Redelivery.Store
import Redelivery.Store.Records
import Redelivery.Store.Waiting
import Redelivery.Store.Watched
import Redelivery.Text.Blank
import Redelivery.Text.CharRanges
import Redelivery.Text.Hex
import Redelivery.Text.Identifier
import Redelivery.Text.JsonString
import Redelivery.Text.Printable
import Redelivery.Text.Quoted
import Redelivery.Time
import Redelivery.Timeline
import Redelivery.Transport
import Redelivery.Proofs.Keyed
import Redelivery.Proofs.Acknowledging
import Redelivery.Proofs.Agendas
import Redelivery.Proofs.Stages
import Redelivery.Proofs.Occurrences
import Redelivery.Proofs.Roster
import Redelivery.Proofs.Run
import Redelivery.Proofs.Programs
import Redelivery.Proofs.Outline
import Redelivery.Proofs.Effects
import Redelivery.Proofs.Share
import Redelivery.Proofs.Steps
import Redelivery.Proofs.Instructions
import Redelivery.Proofs.Moves
import Redelivery.Proofs.Listing
import Redelivery.Proofs.Sending
import Redelivery.Proofs.Counting
import Redelivery.Proofs.Timers
import Redelivery.Proofs.Upkeep
import Redelivery.Proofs.Tending
import Redelivery.Proofs.Scheduling
import Redelivery.Proofs.Requests
import Redelivery.Proofs.Origin
import Redelivery.Proofs.Book
import Redelivery.Proofs.Membership
import Redelivery.Proofs.Deeds
import Redelivery.Proofs.History
import Redelivery.Proofs.Exclusion
import Redelivery.Proofs.Filing
import Redelivery.Proofs.Limits
import Redelivery.Proofs.Timetable
import Redelivery.Proofs.Driving
import Redelivery.Proofs.Bookings
import Redelivery.Proofs.Queue
import Redelivery.Proofs.Undisturbed
import Redelivery.Proofs.Punctuality
import Redelivery.Proofs.Purging
import Redelivery.Proofs.Surroundings
import Redelivery.Proofs.Reregistration
import Redelivery.Proofs.Resending
import Redelivery.Proofs.Settling
import Redelivery.Proofs.Excerpt
import Redelivery.Proofs.Enactments
import Redelivery.Proofs.Separation
import Redelivery.Proofs.Growth
import Redelivery.Proofs.CatchingUp
import Redelivery.Proofs.RunningDue
import Redelivery.Proofs.Rounds
import Redelivery.Proofs.Modes
import Redelivery.Proofs.Lifecycle
import Redelivery.Proofs.Permits
import Redelivery.Proofs.Lending
import Redelivery.Proofs.Concurrency
import Redelivery.Proofs.Alike
import Redelivery.Proofs.Failures
import Redelivery.Proofs.Clearing
import Redelivery.Proofs.Closing
import Redelivery.Proofs.Promptness
import Redelivery.Proofs.Arming
import Redelivery.Proofs.Backlog
import Redelivery.Proofs.Waking
import Redelivery.Proofs.Resumption
import Redelivery.Proofs.Enrolment
import Redelivery.Proofs.Answers
import Redelivery.Proofs.Turns
import Redelivery.Proofs.Forcing
import Redelivery.Proofs.Assignments
import Redelivery.Proofs.Batches
import Redelivery.Proofs.Tasks
import Redelivery.Proofs.Admission
import Redelivery.Proofs.Submission
import Redelivery.Proofs.Firings
import Redelivery.Proofs.Clockwork
import Redelivery.Proofs.Timekeeping
import Redelivery.Proofs.Histories
import Redelivery.Proofs.Contents
import Redelivery.Proofs.Removals
import Redelivery.Proofs.Chronicle
import Redelivery.Proofs.Watching
import Redelivery.Proofs.Attendance
import Redelivery.Proofs.Patience
