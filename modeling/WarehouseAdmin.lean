import WarehouseAdmin.Clause.Sample
import WarehouseAdmin.Clause.Builder
import WarehouseAdmin.Row.Sample
import WarehouseAdmin.Session.Action
import WarehouseAdmin.Session.Script
import WarehouseAdmin.Main
import WarehouseAdmin.Proofs.Request.Idle
import WarehouseAdmin.Proofs.Request.Quoting
import WarehouseAdmin.Proofs.Ident.Reading
import WarehouseAdmin.Proofs.Session.Drop
import WarehouseAdmin.Proofs.Catalog.Reading
import WarehouseAdmin.Proofs.Session.Safely
import WarehouseAdmin.Proofs.Session.Sending
import WarehouseAdmin.Proofs.Session.Action
import WarehouseAdmin.Proofs.Session.Pipeline
import WarehouseAdmin.Proofs.Session.Rejection
import WarehouseAdmin.Proofs.Text.Pattern
import WarehouseAdmin.Proofs.Text.Words
import WarehouseAdmin.Proofs.Catalog.Listing
import WarehouseAdmin.Proofs.Session.Find
import WarehouseAdmin.Proofs.Clause.Builder
import WarehouseAdmin.Proofs.Session.Deadline
import WarehouseAdmin.Proofs.Session.Cancellation
import WarehouseAdmin.Proofs.Request.Creation
import WarehouseAdmin.Proofs.Clause.Residue
import WarehouseAdmin.Proofs.Ident.Grammar
import WarehouseAdmin.Proofs.Session.Flat
import WarehouseAdmin.Proofs.Clause.Unset
import WarehouseAdmin.Proofs.Clause.Parentheses
import WarehouseAdmin.Proofs.Clause.Required
import WarehouseAdmin.Proofs.Clause.Blankness
import WarehouseAdmin.Proofs.Request.Dangling
import WarehouseAdmin.Proofs.Clause.Refusal
import WarehouseAdmin.Proofs.CommandLine.Description
import WarehouseAdmin.Proofs.Catalog.Signature
import WarehouseAdmin.Proofs.Row.Decode
import WarehouseAdmin.Proofs.Error.Join
import WarehouseAdmin.Proofs.Session.Classification
import WarehouseAdmin.Proofs.Catalog.Columns
import WarehouseAdmin.Proofs.Time.Spelling
import WarehouseAdmin.Proofs.Ident.Cuts
import WarehouseAdmin.Proofs.Catalog.Group
import WarehouseAdmin.Proofs.CommandLine.Reset
import WarehouseAdmin.Proofs.Session.Family
