import Cai.Lib.Transition
import Cai.Lib.History
import Cai.Lib.Text
import Cai.Lib.Table
import Cai.Lib.Fallible
import Cai.Lib.Keyed
import Cai.Lib.Replacement
import Cai.Lib.Trail
import Cai.Lib.Timeline
import Cai.Lib.Ownership
import Cai.Lib.Dictionary
import Cai.Lib.Calendar
import Cai.Lib.Json
import Cai.Lib.Loop
import Cai.Lib.Newest
import Cai.Lib.Lists
import Cai.Lib.Window
import Cai.Lib.Chunks
import Cai.Lib.Keyset
import Cai.Lib.Base64
import Cai.Lib.JsonText
import Cai.Lib.Simulation
import Cai.Lib.Queue
import Cai.Cycle.Status
import Cai.Cycle.Row
import Cai.Cycle.Table
import Cai.Cycle.Structure
import Cai.Cycle.Redelivery
import Cai.Media.Repository
import Cai.Media.Fencing
import Cai.Mapping.Assignment
import Cai.Mapping.Arrival
import Cai.Mapping.Evaluation
import Cai.Mapping.Selection
import Cai.Mapping.Rules
import Cai.Mapping.RuleHistory
import Cai.Mapping.RuleCalls
import Cai.Mapping.RuleReplay
import Cai.Directory.Tables
import Cai.Directory.Snapshot
import Cai.Directory.Publication
import Cai.Directory.Loading
import Cai.Directory.Refinement
import Cai.Directory.Records
import Cai.Directory.Acquisition
import Cai.Directory.Publishers
import Cai.Directory.Contacts
import Cai.Directory.Observations
import Cai.Directory.Convergence
import Cai.Directory.Hydration
import Cai.Directory.Attempts
import Cai.Identity.Matching
import Cai.Identity.Links
import Cai.Identity.Commands
import Cai.Identity.Steps
import Cai.Identity.Discovery
import Cai.Identity.Safety
import Cai.Identity.Audit
import Cai.Identity.Ledger
import Cai.Identity.Companies
import Cai.Reconciliation.Plan
import Cai.Reconciliation.Stamps
import Cai.Reconciliation.Run
import Cai.Reconciliation.Convergence
import Cai.Reconciliation.Report
import Cai.Finalization.History
import Cai.Finalization.Window
import Cai.Finalization.Context
import Cai.Finalization.Chunks
import Cai.Finalization.Provider
import Cai.Finalization.Refinement
import Cai.Finalization.Start
import Cai.Finalization.Accounting
import Cai.Finalization.Malformed
import Cai.Digisac.TicketHistory
import Cai.Digisac.ContactPage
import Cai.Digisac.ContactBackfill
import Cai.Digisac.Duplicates
import Cai.Digisac.ResourcePages
import Cai.Worker.Pass
import Cai.Worker.Steps
import Cai.Worker.Gate
import Cai.Worker.Ownership
import Cai.Worker.Wake
import Cai.Worker.Neighbours
import Cai.Worker.Coverage
import Cai.Worker.Fencing
import Cai.Worker.Decision
import Cai.Worker.Fleet
import Cai.Classification.Contract
import Cai.Classification.Repository
import Cai.Provider.RateLimiter
import Cai.Provider.Backoff
import Cai.Request.Provider
import Cai.Request.Operation
import Cai.Request.Reconciliation
import Cai.Request.Orchestration
import Cai.Request.Protocol
import Cai.Request.Fencing
import Cai.Request.Refinement
import Cai.Request.Exits
import Cai.Request.Guarantees
import Cai.Request.Targets
import Cai.Preparation.Prepare
import Cai.Preparation.Agreement
import Cai.Preparation.World
import Cai.Preparation.Provenance
import Cai.Preparation.Runs
import Cai.Admin.Authentication
import Cai.Admin.Projections
import Cai.Admin.States
import Cai.Admin.Cursors
import Cai.Admin.Pages
import Cai.Webhook.Ledger
import Cai.Webhook.Decisions
import Cai.Lib.Restart
import Cai.Webhook.Payload
import Cai.Webhook.Ingestion
import Cai.Webhook.Restart
import Cai.Admin.Sessions
import Cai.Media.Fleet
import Cai.Media.Windows
import Cai.Media.Turns
import Cai.Webhook.Server
import Cai.Worker.Loop
import Cai.Worker.Outage
