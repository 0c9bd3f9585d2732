import LuauWorkspace.Main
import LuauWorkspace.Script.Module
import LuauWorkspace.Syntax.Kind
import LuauWorkspace.Proofs.Traversal
import LuauWorkspace.Proofs.Requires
import LuauWorkspace.Proofs.Edges
import LuauWorkspace.Proofs.Line
import LuauWorkspace.Proofs.Coherence
import LuauWorkspace.Proofs.Instances
import LuauWorkspace.Proofs.Extent
import LuauWorkspace.Proofs.Actions
import LuauWorkspace.Proofs.Files
import LuauWorkspace.Proofs.Freshness
import LuauWorkspace.Proofs.Reload
import LuauWorkspace.Proofs.Aliases
import LuauWorkspace.Proofs.Rechecks
import LuauWorkspace.Proofs.Encoding
import LuauWorkspace.Proofs.FileUri
import LuauWorkspace.Proofs.Related
import LuauWorkspace.Proofs.Texts
import LuauWorkspace.Proofs.Buffers
import LuauWorkspace.Proofs.Delivery
import LuauWorkspace.Proofs.Sessions
import LuauWorkspace.Proofs.Relative
import LuauWorkspace.Proofs.Scripts
import LuauWorkspace.Proofs.Attribution
import LuauWorkspace.Proofs.Positions
import LuauWorkspace.Proofs.Replay
import LuauWorkspace.Proofs.Hierarchy
import LuauWorkspace.Proofs.Evolution
import LuauWorkspace.Proofs.Handover
import LuauWorkspace.Proofs.Batch
import LuauWorkspace.Proofs.Entries
import LuauWorkspace.Proofs.Namesakes
import LuauWorkspace.Proofs.Settings
import LuauWorkspace.Proofs.Partition
import LuauWorkspace.Proofs.Reports
import LuauWorkspace.Proofs.Offsets
import LuauWorkspace.Proofs.Containment
import LuauWorkspace.Proofs.Navigation
import LuauWorkspace.Proofs.Agreement
import LuauWorkspace.Proofs.Folding
import LuauWorkspace.Proofs.Canonical
import LuauWorkspace.Proofs.Drafts
import LuauWorkspace.Proofs.Lookup
import LuauWorkspace.Proofs.Scopes
import LuauWorkspace.Proofs.TypeAliases
import LuauWorkspace.Proofs.DocumentEnd
import LuauWorkspace.Proofs.Receivers
import LuauWorkspace.Proofs.Readings
import LuauWorkspace.Proofs.Parameters
import LuauWorkspace.Proofs.Unfolding
import LuauWorkspace.Proofs.Limits
import LuauWorkspace.Proofs.Linking
import LuauWorkspace.Proofs.Scans
import LuauWorkspace.Proofs.Deeds
import LuauWorkspace.Proofs.Nesting
import LuauWorkspace.Proofs.Stamps
import LuauWorkspace.Proofs.Walks
import LuauWorkspace.Proofs.Snippets
import LuauWorkspace.Proofs.Loads
import LuauWorkspace.Proofs.Turns
import LuauWorkspace.Proofs.Warnings
