import BrowserPlan.Main
import BrowserPlan.Pool.Scenario
import BrowserPlan.Proofs.Pool.Ledger
import BrowserPlan.Proofs.Pool.Accounts
import BrowserPlan.Proofs.Pool.Crowd
import BrowserPlan.Proofs.Pool.Ownership
import BrowserPlan.Proofs.Pool.Capacity
import BrowserPlan.Proofs.Pool.Waiting
import BrowserPlan.Proofs.Extraction.Meaning
import BrowserPlan.Proofs.Extraction.Records
import BrowserPlan.Proofs.Extraction.Pending
import BrowserPlan.Proofs.Extraction.Progress
import BrowserPlan.Proofs.Extraction.Levels
import BrowserPlan.Proofs.Extraction.Reading
import BrowserPlan.Proofs.Extraction.Browser
import BrowserPlan.Proofs.Pool.Granting
import BrowserPlan.Proofs.Pool.Release
import BrowserPlan.Proofs.Pool.Closing
import BrowserPlan.Proofs.Pool.Order
import BrowserPlan.Proofs.Plan.Nesting
import BrowserPlan.Proofs.Plan.WellFormed
import BrowserPlan.Proofs.Plan.Refusals
import BrowserPlan.Proofs.Plan.Iterations
import BrowserPlan.Proofs.Task.Crew
import BrowserPlan.Proofs.Task.Conduct
import BrowserPlan.Proofs.Task.Rehearsal
import BrowserPlan.Proofs.Task.Faults
import BrowserPlan.Proofs.Run.Reliance
import BrowserPlan.Proofs.Run.Errand
import BrowserPlan.Proofs.Run.Calls
import BrowserPlan.Proofs.Run.Steps
import BrowserPlan.Proofs.Run.Branch
import BrowserPlan.Proofs.Run.Venue
import BrowserPlan.Proofs.Run.Ledger
import BrowserPlan.Proofs.Run.Company
import BrowserPlan.Proofs.Run.Kin
import BrowserPlan.Proofs.Run.HoldAndWait
import BrowserPlan.Proofs.Run.Failures
import BrowserPlan.Proofs.Run.Calm
import BrowserPlan.Proofs.Run.CallLog
import BrowserPlan.Proofs.Run.Turns
import BrowserPlan.Proofs.Run.Sharing
import BrowserPlan.Proofs.Run.Isolation
import BrowserPlan.Proofs.Task.Halting
import BrowserPlan.Proofs.Task.Mirror
import BrowserPlan.Proofs.Run.Premises
import BrowserPlan.Proofs.Run.Tally
import BrowserPlan.Proofs.Run.Reunion
import BrowserPlan.Proofs.Run.Sole
import BrowserPlan.Proofs.Run.Agenda
import BrowserPlan.Proofs.Run.Endings
import BrowserPlan.Proofs.Run.Chronicle
import BrowserPlan.Proofs.Run.Phases
import BrowserPlan.Proofs.Run.Lifecycle
import BrowserPlan.Proofs.Run.Parts
import BrowserPlan.Proofs.Run.Trek
import BrowserPlan.Proofs.Run.Itinerary
import BrowserPlan.Proofs.Run.Heed
import BrowserPlan.Proofs.Run.Custody
import BrowserPlan.Proofs.Run.Interruption
import BrowserPlan.Proofs.Run.Teardown
import BrowserPlan.Proofs.Run.Accord
import BrowserPlan.Proofs.Run.Crawling
import BrowserPlan.Proofs.Files
import BrowserPlan.Proofs.Json.Grammar
import BrowserPlan.Proofs.Json.Documents
import BrowserPlan.Proofs.Link.Authority
import BrowserPlan.Proofs.Link.Resolution
import BrowserPlan.Proofs.Extraction.Kept
import BrowserPlan.Proofs.Run.Schedules
import BrowserPlan.Proofs.Run.Reporting
import BrowserPlan.Proofs.Run.Scraping
import BrowserPlan.Proofs.Run.Sequence
import BrowserPlan.Proofs.Run.Commanded
import BrowserPlan.Proofs.CommandLine.ExitStatus
import BrowserPlan.Proofs.Task.Enactment
import BrowserPlan.Proofs.Task.Ends
import BrowserPlan.Proofs.Task.Gatherings
import BrowserPlan.Proofs.Task.Runs
import BrowserPlan.Proofs.Run.Carried
import BrowserPlan.Proofs.Plan.OutputPaths
import BrowserPlan.Proofs.Pool.Cancelling
import BrowserPlan.Proofs.Run.Discovery
import BrowserPlan.Proofs.Spec.Grammar
import BrowserPlan.Proofs.Json.Faults
import BrowserPlan.Proofs.Plan.Loading
import BrowserPlan.Proofs.Json.RoundTrip
import BrowserPlan.Proofs.Plan.Respelling
import BrowserPlan.Proofs.Run.Clicking
import BrowserPlan.Proofs.Spec.Canonical
import BrowserPlan.Proofs.Run.Navigation
import BrowserPlan.Proofs.Run.LevelOrder
