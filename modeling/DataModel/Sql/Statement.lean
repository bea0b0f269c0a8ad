import DataModel.Document.Error
import DataModel.Sql.Quoting

/-!
# Data definition statements

The statements that create a database: tables with columns, uniqueness constraints, indexes and
foreign keys, and foreign keys added to tables that already stand. Statements are data, so that what
a table declares can be asked of it; `Statement.render` is their text.
-/

namespace DataModel.Sql

/-- The type of a stored value. -/
inductive ColumnType where
  /-- The type of primary keys and of the columns that refer to them. -/
  | key
  | varchar (length : UInt32)
  | int
  | float
  | boolean
  | dateTime
  | enum (values : List String)
  deriving Repr, DecidableEq

/-- What a column is for. -/
inductive ColumnRole where
  /-- The primary key, numbered by the database. -/
  | primaryKey
  | value (type : ColumnType) (required : Bool) (default : Option DefaultValue)
  /-- The time at which the row was created. -/
  | createdAt
  /-- The time at which the row was last changed. -/
  | updatedAt
  deriving DecidableEq

/-- A column of a table. -/
structure Column where
  name : String
  role : ColumnRole
  deriving DecidableEq

/-- A named reference from a column to the key column of another table. -/
structure ForeignKey where
  name : String
  column : String
  targetTable : String
  targetColumn : String
  deriving Repr, DecidableEq

/-- A line of a table definition. -/
inductive TableLine where
  | column (column : Column)
  | unique (name : String) (columns : List String)
  | index (type : Option String) (name : String) (columns : List String)
  | foreignKey (key : ForeignKey)
  deriving DecidableEq

/-- A statement. -/
inductive Statement where
  | createTable (table : String) (lines : List TableLine)
  | addForeignKey (table : String) (key : ForeignKey)
  deriving DecidableEq

/-- A default as a literal of the database. -/
def renderDefault : DefaultValue → String
  | .string s => quoteLiteral s
  | .enum s => quoteLiteral s
  | .int n => String.ofList (Json.intChars n.toInt)
  | .float x => x.plainText
  | .boolean true => "TRUE"
  | .boolean false => "FALSE"

namespace ColumnType

/-- The type as a column definition writes it. -/
def render : ColumnType → String
  | .key => "INT UNSIGNED"
  | .varchar length => "VARCHAR(" ++ toString length.toNat ++ ")"
  | .int => "INT"
  | .float => "FLOAT"
  | .boolean => "BOOLEAN"
  | .dateTime => "DATETIME"
  | .enum values => "ENUM(" ++ ", ".intercalate (values.map quoteLiteral) ++ ")"

end ColumnType

namespace ColumnRole

/-- What a column definition says after the name. -/
def render : ColumnRole → String
  | .primaryKey => ColumnType.key.render ++ " NOT NULL AUTO_INCREMENT PRIMARY KEY"
  | .value type required default =>
    type.render ++ (if required then " NOT NULL" else "") ++
      (match default with
      | some v => " DEFAULT " ++ renderDefault v
      | none => "")
  | .createdAt => "TIMESTAMP NULL DEFAULT CURRENT_TIMESTAMP"
  | .updatedAt => "TIMESTAMP NULL DEFAULT CURRENT_TIMESTAMP ON UPDATE CURRENT_TIMESTAMP"

end ColumnRole

/-- The column definition. -/
def Column.render (c : Column) : String :=
  quoteIdentifier c.name ++ " " ++ c.role.render

/-- The constraint definition of a foreign key. -/
def ForeignKey.render (k : ForeignKey) : String :=
  "CONSTRAINT " ++ quoteIdentifier k.name ++ " FOREIGN KEY (" ++ quoteIdentifier k.column ++
    ") REFERENCES " ++ quoteIdentifier k.targetTable ++ " (" ++ quoteIdentifier k.targetColumn ++
    ")"

/-- A line without its indentation. -/
def TableLine.render : TableLine → String
  | .column c => c.render
  | .unique name columns =>
    "CONSTRAINT " ++ quoteIdentifier name ++ " UNIQUE (" ++ quoteIdentifiers columns ++ ")"
  | .index type name columns =>
    (match type with
    | some t => t ++ " "
    | none => "") ++
      "INDEX " ++ quoteIdentifier name ++ " (" ++ quoteIdentifiers columns ++ ")"
  | .foreignKey key => key.render

namespace Statement

/-- The text of a statement, without the semicolon. -/
def render : Statement → String
  | .createTable table lines =>
    "CREATE TABLE " ++ quoteIdentifier table ++ " (\n" ++
      ",\n".intercalate (lines.map fun line => "  " ++ line.render) ++ "\n)"
  | .addForeignKey table key => "ALTER TABLE " ++ quoteIdentifier table ++ " ADD " ++ key.render

/-- The columns that a statement declares. -/
def columns : Statement → List Column
  | .createTable _ lines => lines.filterMap fun
    | .column c => some c
    | _ => none
  | .addForeignKey _ _ => []

/-- The foreign keys that a statement declares, each with the table it is declared on. -/
def foreignKeys : Statement → List (String × ForeignKey)
  | .createTable table lines => lines.filterMap fun
    | .foreignKey key => some (table, key)
    | _ => none
  | .addForeignKey table key => [(table, key)]

end Statement

/-- The script of a list of statements: each ends in a semicolon, an empty line between them. -/
def script (statements : List Statement) : String :=
  "\n".intercalate (statements.map fun s => s.render ++ ";\n")

end DataModel.Sql
