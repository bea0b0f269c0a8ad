import DataModel.Files.Tree
import DataModel.Main
import DataModel.Query.Execution
import DataModel.Proofs.Api.Agreement
import DataModel.Proofs.Api.FilterColumns
import DataModel.Proofs.Api.Hints
import DataModel.Proofs.Api.Navigation
import DataModel.Proofs.Api.Nullability
import DataModel.Proofs.Api.Orders
import DataModel.Proofs.Api.Spelling
import DataModel.Proofs.Api.TypeNames
import DataModel.Proofs.Api.TypeOrder
import DataModel.Proofs.Api.UniqueLookup
import DataModel.Proofs.Document.Canonical
import DataModel.Proofs.Program.Writing
import DataModel.Proofs.Relation.Faults
import DataModel.Proofs.Relation.Index
import DataModel.Proofs.Relation.Reordering
import DataModel.Proofs.Sql.Columns
import DataModel.Proofs.Sql.Defaults
import DataModel.Proofs.Sql.References
import DataModel.Proofs.Sql.ScriptNames
