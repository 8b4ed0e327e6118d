import FormTree.Form.Editor
import FormTree.Query.Term
import FormTree.Settings.Json
import FormTree.Settings.Toml
import FormTree.Proofs.Form.KeyEdit
import FormTree.Proofs.Form.Change
import FormTree.Proofs.Form.Findings
import FormTree.Proofs.Form.Rows
import FormTree.Proofs.Form.Modes
import FormTree.Proofs.Form.Materialized
import FormTree.Proofs.Form.Replanning
import FormTree.Proofs.Form.Shape
import FormTree.Proofs.Form.Declared
import FormTree.Proofs.Form.Input
import FormTree.Proofs.Form.KeyControls
import FormTree.Proofs.Form.EmptyNames
import FormTree.Proofs.Query.Sql
import FormTree.Proofs.Schema.Reports
import FormTree.Proofs.Form.Mismatches
import FormTree.Proofs.Display
import FormTree.Proofs.Tree.Assignment
import FormTree.Proofs.Tree.Renaming
import FormTree.Proofs.Tree.Materialization
import FormTree.Proofs.Tree.Insertion
import FormTree.Proofs.Tree.Commutation
import FormTree.Proofs.Tree.Transition
import FormTree.Proofs.Number.Overflow
import FormTree.Proofs.Number.Shortest
import FormTree.Proofs.Path.Canonical
import FormTree.Proofs.Path.Wrapping
import FormTree.Proofs.Value.Lens
import FormTree.Proofs.Schema.Lookup
import FormTree.Proofs.Form.Listing
import FormTree.Proofs.Query.Path
import FormTree.Proofs.Calendar.Storage
