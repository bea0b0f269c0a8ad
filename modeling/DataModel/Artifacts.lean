import DataModel.Api.Generation
import DataModel.Document.Canonical
import DataModel.Document.Lowering
import DataModel.Sdl.Parser
import DataModel.Sql.Tables

/-!
# Artifacts

What a schema document is compiled to: the statements that create its database and the schema of
its API, together with a summary of the model. `Artifacts.compile` goes from text to artifacts and
stops at the first stage that fails; it writes nothing.
-/

namespace DataModel

/-- Which artifacts are wanted. -/
inductive Targets where
  | both
  | sqlOnly
  | schemaOnly
  deriving Repr, DecidableEq

namespace Targets

/-- Whether the database is wanted. -/
def wantSql (t : Targets) : Bool := t ≠ .schemaOnly

/-- Whether the API is wanted. -/
def wantSchema (t : Targets) : Bool := t ≠ .sqlOnly

end Targets

/-- Why a text has no artifacts: the stage that failed and its error. -/
inductive CompileError where
  | parsing (error : Sdl.SyntaxError)
  | model (error : ModelError)
  | tables (error : Sql.TableError)
  | api (error : Api.SchemaError)
  deriving DecidableEq

namespace CompileError

/-- The wording of an error. -/
def message : CompileError → String
  | .parsing e => e.message
  | .model e => "Invalid schema: " ++ e.message
  | .tables e => "SQL generation failed: " ++ e.message
  | .api e => "API schema generation failed: " ++ e.message

/-- The wording of the error below, where there is one. -/
def cause? : CompileError → Option String
  | .parsing e => e.cause?
  | .model e => some e.message
  | .tables e => some e.message
  | .api e => some e.message

end CompileError

/-- Compiled artifacts and a summary of the model. -/
structure Artifacts where
  fingerprint : String
  objectTypes : Nat
  enumTypes : Nat
  relations : Nat
  statements : Option (List Sql.Statement)
  schema : Option Api.Schema

namespace Artifacts

/-- The text of the statements. -/
def sqlText? (a : Artifacts) : Option String := a.statements.map Sql.script

/-- The text of the API schema. -/
def schemaText? (a : Artifacts) : Option String := a.schema.map Api.Schema.render

/-- What is wanted is computed, and nothing else. -/
def onlyIf {ε α : Type} (wanted : Bool) (result : Except ε α) : Except ε (Option α) :=
  if wanted then result.map some else .ok none

/-- The artifacts of a document. -/
def ofDocument (d : Document) (targets : Targets) : Except CompileError Artifacts := do
  let relations ← (RelationSet.resolve d).mapError .model
  let statements ← onlyIf targets.wantSql ((Sql.statements d relations).mapError .tables)
  let schema ← onlyIf targets.wantSchema ((Api.Schema.generate d relations).mapError .api)
  return {
    fingerprint := d.fingerprint
    objectTypes := d.objectTypes.length
    enumTypes := d.enumTypes.length
    relations := relations.relations.length
    statements
    schema }

/-- The artifacts of a schema document. -/
def compile (source : String) (targets : Targets) : Except CompileError Artifacts := do
  let parsed ← (Sdl.parse source).mapError .parsing
  let document ← parsed.toDocument.mapError .model
  ofDocument document targets

end Artifacts

end DataModel
