import StateExplorer.Load
import StateExplorer.Proofs.Query.Breakpoint
import StateExplorer.Proofs.Session.Appending
import StateExplorer.Proofs.Session.Completeness
import StateExplorer.Proofs.Session.Export
import StateExplorer.Proofs.Session.Replay
import StateExplorer.Proofs.Session.Returning
import StateExplorer.Proofs.Session.Searching
import StateExplorer.Proofs.Session.Showing
import StateExplorer.Proofs.Session.Soundness
import StateExplorer.Proofs.Session.Truncation
import StateExplorer.Proofs.System.Initializer
import StateExplorer.Session.Command
import StateExplorer.Session.View
import StateExplorer.Shell.Host
import StateExplorer.Solver.Explicit
import StateExplorer.Solver.Scripted
import StateExplorer.Proofs.State.Fingerprint
import StateExplorer.Proofs.Solution.Records
import StateExplorer.Proofs.Store.Content
import StateExplorer.Proofs.System.Distinctness
import StateExplorer.Proofs.Model.Location
import StateExplorer.Proofs.Statechart.Closure
import StateExplorer.Proofs.Statechart.Turns
import StateExplorer.Proofs.System.Viewing
