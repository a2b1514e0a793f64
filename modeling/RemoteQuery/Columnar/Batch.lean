import RemoteQuery.Columnar.ColumnArray
import RemoteQuery.Row
import RemoteQuery.Schema

/-!
# Batches

The rows of a result become one array for each column, of the length of the number of rows. All rows
must be as wide as the list of columns, and a column that forbids NULL must hold none. Rows are
checked first; then the first column that cannot be converted is the error, unless a column before
it has no result.
-/
namespace RemoteQuery.Columnar

structure Batch where
  schema : Schema
  rowCount : Nat
  columns : List ColumnArray
  deriving DecidableEq, Repr

/-- The first row whose width is not `expected`, with its width. -/
def misfit? (expected : Nat) (row : Nat) : List Cells → Option (Nat × Nat)
  | [] => none
  | cells :: rest =>
    if cells.length = expected then misfit? expected (row + 1) rest else some (row, cells.length)

def convertColumn (column : Column) (cells : List (Option String)) : Except DataError ColumnArray :=
  match cells.findIdx? Option.isNone with
  | some row =>
    if column.nullable.allowsNull then buildArray column.sqlType cells column.name
    else .error (conversionError column.name (row, .nullForbidden))
  | none => buildArray column.sqlType cells column.name

/-- The arrays of the columns, the first of which stands at position `index` in each row. -/
def convertColumns (rows : List Cells) (index : Nat) :
    List Column → Except DataError (List ColumnArray)
  | [] => .ok []
  | column :: columns => do
    let array ← convertColumn column (rows.map fun row => (row[index]?).join)
    let arrays ← convertColumns rows (index + 1) columns
    return array :: arrays

def convert (columns : List Column) (rows : List Cells) : Except DataError Batch :=
  match misfit? columns.length 0 rows with
  | some (row, width) => .error (.rowWidthMismatch row columns.length width)
  | none => do
    let arrays ← convertColumns rows 0 columns
    return ⟨Schema.ofColumns columns, rows.length, arrays⟩

/-- The conversion of the column has no result; a NULL that is forbidden is found before that. -/
def columnOverruns (column : Column) (cells : List (Option String)) : Bool :=
  (column.nullable.allowsNull || cells.all Option.isSome) && arrayOverruns column.sqlType cells

/-- Among the columns, up to the first that cannot be converted, one has no result. -/
def columnsOverrun (rows : List Cells) (index : Nat) : List Column → Bool
  | [] => false
  | column :: columns =>
    let cells := rows.map fun row => (row[index]?).join
    columnOverruns column cells ||
      match convertColumn column cells with
      | .ok _ => columnsOverrun rows (index + 1) columns
      | .error _ => false

def overruns (columns : List Column) (rows : List Cells) : Bool :=
  (misfit? columns.length 0 rows).isNone && columnsOverrun rows 0 columns

def convert? (columns : List Column) (rows : List Cells) : Option (Except DataError Batch) :=
  if overruns columns rows then none else some (convert columns rows)

end RemoteQuery.Columnar
