import LivePanel.Main
import LivePanel.Proofs.Block.Integrity
import LivePanel.Proofs.Block.Registrations
import LivePanel.Proofs.Build.Colours
import LivePanel.Proofs.Build.Diagnostics
import LivePanel.Proofs.Build.Founded
import LivePanel.Proofs.Build.Hidden
import LivePanel.Proofs.Build.Mentions
import LivePanel.Proofs.Build.Used
import LivePanel.Proofs.Build.Warned
import LivePanel.Proofs.Command.Edits
import LivePanel.Proofs.Event.Delivery
import LivePanel.Proofs.Event.Nesting
import LivePanel.Proofs.Event.Receiving
import LivePanel.Proofs.Expr.Conditions
import LivePanel.Proofs.Expr.Leftovers
import LivePanel.Proofs.Expr.Splicing
import LivePanel.Proofs.Orchestra.Binding
import LivePanel.Proofs.Orchestra.Closing
import LivePanel.Proofs.Orchestra.Dispatching
import LivePanel.Proofs.Orchestra.Freshness
import LivePanel.Proofs.Orchestra.Loads
import LivePanel.Proofs.Orchestra.Overtaking
import LivePanel.Proofs.Orchestra.Performing
import LivePanel.Proofs.Orchestra.Rebuild
import LivePanel.Proofs.Orchestra.Recording
import LivePanel.Proofs.Orchestra.Reloading
import LivePanel.Proofs.Orchestra.Renewing
import LivePanel.Proofs.Orchestra.Standing
import LivePanel.Proofs.Panel.Json
import LivePanel.Proofs.Run.Closed
import LivePanel.Proofs.Run.Depth
import LivePanel.Proofs.Run.Skipping
import LivePanel.Proofs.Run.Solo
import LivePanel.Proofs.Source.Keys
import LivePanel.Proofs.State.Lens
import LivePanel.Proofs.Template.Complete
import LivePanel.Proofs.Template.Layout
import LivePanel.Proofs.Template.Locality
import LivePanel.Proofs.Template.Paths
import LivePanel.Proofs.Settings.Layers
import LivePanel.Proofs.Value.Layering
import LivePanel.Proofs.Watch.Notices
import LivePanel.Proofs.Watch.Scanning
import LivePanel.Rehearsal.Audience
import LivePanel.Rehearsal.Calls
import LivePanel.Rehearsal.Machine
import LivePanel.Rehearsal.Sample
import LivePanel.Rehearsal.Vigil
