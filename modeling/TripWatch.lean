import TripWatch.Action.Basic
import TripWatch.Action.Codec
import TripWatch.Action.Table
import TripWatch.Action.Webhook
import TripWatch.Calendar.Clock
import TripWatch.Calendar.Date
import TripWatch.Calendar.LocalTime
import TripWatch.Calendar.Zone
import TripWatch.Calendar.ZoneTable
import TripWatch.Check.Change
import TripWatch.Check.Cycle
import TripWatch.Check.Evaluation
import TripWatch.Command.Directory
import TripWatch.Command.Options
import TripWatch.Command.Startup
import TripWatch.Config
import TripWatch.Csv.Records
import TripWatch.Geo.Distance
import TripWatch.Geo.Plane
import TripWatch.Geo.Ruler
import TripWatch.Guidance.Codec
import TripWatch.Guidance.Instruction
import TripWatch.Itinerary.Basic
import TripWatch.Itinerary.Codec
import TripWatch.Journey.Codec
import TripWatch.Journey.State
import TripWatch.Json.Canonical
import TripWatch.Json.Decode
import TripWatch.Json.Document
import TripWatch.Json.Reader
import TripWatch.Json.Value
import TripWatch.Log.Event
import TripWatch.Log.Filter
import TripWatch.Log.Pattern
import TripWatch.Main
import TripWatch.Notice.Basic
import TripWatch.Notice.Codec
import TripWatch.Number.Calculation
import TripWatch.Number.Double
import TripWatch.Number.Literal
import TripWatch.Number.Shortest
import TripWatch.Plan.Basic
import TripWatch.Plan.Codec
import TripWatch.Plan.Exchange
import TripWatch.Proofs.Action.Matching
import TripWatch.Proofs.Action.WrittenTable
import TripWatch.Proofs.Calendar.WrittenDates
import TripWatch.Proofs.Check.Alerts
import TripWatch.Proofs.Check.Calculation
import TripWatch.Proofs.Check.Course
import TripWatch.Proofs.Check.Edits
import TripWatch.Proofs.Check.Ends
import TripWatch.Proofs.Check.Fault
import TripWatch.Proofs.Check.Finding
import TripWatch.Proofs.Check.Hysteresis
import TripWatch.Proofs.Check.Kinds
import TripWatch.Proofs.Check.Ownership
import TripWatch.Proofs.Check.Persistence
import TripWatch.Proofs.Check.Preferences
import TripWatch.Proofs.Check.Repetition
import TripWatch.Proofs.Check.Spells
import TripWatch.Proofs.Csv.Written
import TripWatch.Proofs.Geo.Nearest
import TripWatch.Proofs.Geo.Piece
import TripWatch.Proofs.Geo.Stretch
import TripWatch.Proofs.Itinerary.Numeric
import TripWatch.Proofs.Journey.Coherence
import TripWatch.Proofs.Journey.Provenance
import TripWatch.Proofs.Journey.Target
import TripWatch.Proofs.Json.Decoding
import TripWatch.Proofs.Json.Numerals
import TripWatch.Proofs.Json.Numeric
import TripWatch.Proofs.Json.Reading
import TripWatch.Proofs.Number.Calculation
import TripWatch.Proofs.Number.Digits
import TripWatch.Proofs.Schedule.Courses
import TripWatch.Proofs.Schedule.Independence
import TripWatch.Proofs.Schedule.Interleaving
import TripWatch.Proofs.Schedule.Mirror
import TripWatch.Proofs.Schedule.SingleFlight
import TripWatch.Proofs.Schedule.Turns
import TripWatch.Proofs.Schedule.Watching
import TripWatch.Proofs.Store.Keyed
import TripWatch.Proofs.Store.Listing
import TripWatch.Proofs.Store.Records
import TripWatch.Proofs.Store.Restart
import TripWatch.Proofs.Tracking.Alighting
import TripWatch.Proofs.Tracking.Calculation
import TripWatch.Proofs.Tracking.Progress
import TripWatch.Proofs.Tracking.Registry
import TripWatch.Proofs.Tracking.Requests
import TripWatch.Proofs.Tracking.Starts
import TripWatch.Proofs.Tracking.Window
import TripWatch.Proofs.Trip.NextDate
import TripWatch.Schedule.Flights
import TripWatch.Schedule.Watch
import TripWatch.Service
import TripWatch.Store.Basic
import TripWatch.Store.Table
import TripWatch.Text.Case
import TripWatch.Text.CaseTable
import TripWatch.Text.Quoted
import TripWatch.Text.Runs
import TripWatch.Text.Space
import TripWatch.Text.VisibleTable
import TripWatch.Text.Word
import TripWatch.Text.WordTable
import TripWatch.Tracking.Codec
import TripWatch.Tracking.Guide
import TripWatch.Tracking.Journey
import TripWatch.Tracking.Locator
import TripWatch.Trip.Basic
import TripWatch.Trip.Codec
import TripWatch.Trip.Locale
import TripWatch.Web.MediaType
import TripWatch.Web.Percent
import TripWatch.Web.Status
import TripWatch.Web.Url
