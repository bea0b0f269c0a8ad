import DataModel.Api.Filter

/-!
# Databases

What the generated API needs of a database: the row with a given key, the rows under a filter in an
order, and the first row under a filter. `Database` is any such service; `Tables` is one, held in
memory.

What a filter means depends only on the meaning of its conditions (`Filter.holds`). In `Tables` a
condition compares a column with a value: two numbers by size, everything else by text, in which
null is empty.
-/

namespace DataModel.Api

/-- The columns of a row and their values. -/
abbrev Row := List (String × Json)

/-- The service that answers the requests of the API for rows. -/
structure Database where
  findById : (table : String) → (id : Json) → Except DatabaseError (Option Row)
  findMany : (table : String) → Option Filter → List OrderBy → Except DatabaseError (List Row)
  findFirst : (table : String) → Filter → Except DatabaseError (Option Row)

/-- The service of a schema that is not bound to a database. -/
def Database.unbound : Database where
  findById _ _ := .error .unavailable
  findMany _ _ _ := .error .unavailable
  findFirst _ _ := .error .unavailable

namespace Filter

mutual

/-- Whether a filter holds where `atom` says which conditions do. -/
def holds (atom : String → Operator → Json → Bool) : Filter → Bool
  | .condition column operator value => atom column operator value
  | .and clauses => allHold atom clauses
  | .or clauses => anyHolds atom clauses
  | .not clauses => !allHold atom clauses
termination_by structural f => f

/-- Whether all of the filters hold. -/
def allHold (atom : String → Operator → Json → Bool) : List Filter → Bool
  | [] => true
  | f :: rest => f.holds atom && allHold atom rest
termination_by structural clauses => clauses

/-- Whether some of the filters holds. -/
def anyHolds (atom : String → Operator → Json → Bool) : List Filter → Bool
  | [] => false
  | f :: rest => f.holds atom || anyHolds atom rest
termination_by structural clauses => clauses

end

end Filter

/-! ### Comparison of cells -/

/-- The text of a cell: strings as they are, nothing for null, other values as JSON. -/
def cellText : Option Json → String
  | none => ""
  | some .null => ""
  | some (.string s) => s
  | some v => v.sorted.render

/-- The order of two cells, by size for two numbers and by text otherwise. -/
def compareCells (x y : Option Json) : Ordering :=
  match x.bind Json.binary64?, y.bind Json.binary64? with
  | some m, some n => compare m.rank n.rank
  | _, _ =>
    if cellText x < cellText y then .lt
    else if cellText x = cellText y then .eq
    else .gt

/-- Whether a cell meets a condition. -/
def cellMeets (cell : Option Json) : Operator → Json → Bool
  | .eq, v => compareCells cell (some v) = .eq
  | .lt, v => compareCells cell (some v) = .lt
  | .lte, v => compareCells cell (some v) ≠ .gt
  | .gt, v => compareCells cell (some v) = .gt
  | .gte, v => compareCells cell (some v) ≠ .lt
  | .isIn, .array items => items.any fun v => compareCells cell (some v) = .eq
  | .isIn, _ => false
  | .startsWith, v => (cellText (some v)).toList.isPrefixOf (cellText cell).toList
  | .endsWith, v => (cellText (some v)).toList.isSuffixOf (cellText cell).toList
  | .contains, v => Text.isPartOf (cellText (some v)).toList (cellText cell).toList

/-- Whether a row satisfies a filter. -/
def Row.satisfies (r : Row) (f : Filter) : Bool :=
  f.holds fun column operator value => cellMeets (r.lookup column) operator value

/-- Whether the first row comes before the second in the order of a column. -/
def OrderBy.precedes (o : OrderBy) (r s : Row) : Bool :=
  match o.direction with
  | .asc => compareCells (r.lookup o.column) (s.lookup o.column) = .lt
  | .desc => compareCells (r.lookup o.column) (s.lookup o.column) = .gt

/-- Inserts a row into rows in descending order, before those it does not precede. -/
def insertRow (o : OrderBy) (r : Row) : List Row → List Row
  | [] => [r]
  | s :: rest => if o.precedes r s then s :: insertRow o r rest else r :: s :: rest

/-- The rows in the order of a column; rows that are equal there keep their order. -/
def sortRows (o : OrderBy) (rows : List Row) : List Row :=
  (rows.foldl (fun done r => insertRow o r done) []).reverse

/-! ### Tables in memory -/

/-- Tables by name. -/
structure Tables where
  tables : List (String × List Row)

namespace Tables

/-- The column that rows are found by when only a key is given. -/
def keyColumn : String := "id"

/-- The rows of a table. -/
def rows (t : Tables) (table : String) : Except DatabaseError (List Row) :=
  match t.tables.lookup table with
  | some rows => .ok rows
  | none => .error (.noTable table)

/-- The tables as a database. -/
def database (t : Tables) : Database where
  findById table id := (t.rows table).map fun rows =>
    rows.find? (·.satisfies (.eq keyColumn id))
  findMany table filter order := (t.rows table).map fun rows =>
    order.foldr sortRows (rows.filter fun r => filter.all r.satisfies)
  findFirst table filter := (t.rows table).map fun rows => rows.find? (·.satisfies filter)

end Tables

end DataModel.Api
