import Groundwork.CommandLine.Session
import Groundwork.Main
import Groundwork.Rehearsal.World
import Groundwork.Proofs.Graph.Expansion
import Groundwork.Proofs.Graph.Plan
import Groundwork.Proofs.Graph.Acceptance
import Groundwork.Proofs.Run.Attempts
import Groundwork.Proofs.Run.Passages
import Groundwork.Proofs.Run.Calls
import Groundwork.Proofs.Run.Reports
import Groundwork.Proofs.Run.Events
import Groundwork.Proofs.Run.DryRun
import Groundwork.Proofs.Run.Failures
import Groundwork.Proofs.Config.Staging
import Groundwork.Proofs.Run.Refusals
import Groundwork.Proofs.Config.Variables
import Groundwork.Proofs.Staging.Copy
import Groundwork.Proofs.Staging.Nesting
import Groundwork.Proofs.Run.Repetition
import Groundwork.Proofs.Resource.History
import Groundwork.Proofs.CommandLine.Status
import Groundwork.Proofs.Run.Succession
import Groundwork.Proofs.Run.Interrupts
import Groundwork.Proofs.Config.Encoding
import Groundwork.Proofs.Graph.Cycle
import Groundwork.Proofs.Vars.Layers
import Groundwork.Proofs.Graph.Locality
import Groundwork.Proofs.Graph.Composition
import Groundwork.Proofs.Run.Resolution
import Groundwork.Proofs.Vars.Parts
import Groundwork.Proofs.Resource.Listing
import Groundwork.Proofs.Run.Preflight
import Groundwork.Proofs.Run.Tags
import Groundwork.Proofs.Graph.Edges
import Groundwork.Proofs.Config.Overrides
