import RecordFix.Main
import RecordFix.File.Tree
import RecordFix.Record.Consulted
import RecordFix.Value.Dispatch
import RecordFix.Proofs.Node
import RecordFix.Proofs.Group
import RecordFix.Proofs.Rebase
import RecordFix.Proofs.Forest
import RecordFix.Proofs.Folding
import RecordFix.Proofs.Encoding
import RecordFix.Proofs.Marker
import RecordFix.Proofs.Emission
import RecordFix.Proofs.Decoding
import RecordFix.Proofs.Identity
import RecordFix.Proofs.Canonical
import RecordFix.Proofs.Placed
import RecordFix.Proofs.PlacedPaths
import RecordFix.Proofs.Leaves
import RecordFix.Proofs.Reached
import RecordFix.Proofs.FieldChange
import RecordFix.Proofs.Plain
import RecordFix.Proofs.Running
import RecordFix.Proofs.Congruence
import RecordFix.Proofs.Follows
import RecordFix.Proofs.Keeps
import RecordFix.Proofs.Strictness
import RecordFix.Proofs.Origins
import RecordFix.Proofs.Editing
import RecordFix.Proofs.Removing
import RecordFix.Proofs.Writing
import RecordFix.Proofs.Blocks
import RecordFix.Proofs.Limits
import RecordFix.Proofs.Frame
import RecordFix.Proofs.Skipped
import RecordFix.Proofs.Matchers
import RecordFix.Proofs.Isolation
import RecordFix.Proofs.Untouched
import RecordFix.Proofs.Extension
import RecordFix.Proofs.OpenEntities
import RecordFix.Proofs.Lifecycle
import RecordFix.Proofs.JsonText
import RecordFix.Proofs.FixText
import RecordFix.Proofs.PathText
import RecordFix.Proofs.Slots
import RecordFix.Proofs.Calls
import RecordFix.Proofs.ExactNames
import RecordFix.Proofs.IncludeDepth
import RecordFix.Proofs.Inlining
import RecordFix.Proofs.ListScopes
import RecordFix.Proofs.Inserting
import RecordFix.Proofs.ListInsertion
import RecordFix.Proofs.Appending
import RecordFix.Proofs.Refusals
import RecordFix.Proofs.Shadowing
import RecordFix.Proofs.Branches
import RecordFix.Proofs.Copying
import RecordFix.Proofs.Cleaning
import RecordFix.Proofs.Quantifiers
import RecordFix.Proofs.Tables
import RecordFix.Proofs.Globs
import RecordFix.Proofs.Placeholders
import RecordFix.Proofs.Retaining
import RecordFix.Proofs.Totals
import RecordFix.Proofs.Lookups
import RecordFix.Proofs.Sorting
import RecordFix.Proofs.FlatArrays
import RecordFix.Proofs.Separators
import RecordFix.Proofs.SlotLookups
