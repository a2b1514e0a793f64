import RemoteQuery.Column
import RemoteQuery.Text.Quoted

/-!
# Rows

A row is a list of cells seen under the columns of its result. Its width is that of the cells and
may differ from the number of columns. A name finds the first column that has it; the map of a row
keeps the last cell of a name that is given twice.
-/
namespace RemoteQuery

abbrev Cells := Message.Cells

structure Row where
  columns : List Column
  values : Cells
  deriving DecidableEq, Repr

namespace Row

/-- The text at a position; a NULL and a position beyond the row have none. -/
def get? (row : Row) (index : Nat) : Option String := (row.values[index]?).join

def getByName? (row : Row) (name : String) : Option String :=
  match row.columns.findIdx? fun column => column.name == name with
  | some index => row.get? index
  | none => none

/-- The cells with the names of their columns, as far as both reach. -/
def entries (row : Row) : List (String × Option String) :=
  (row.columns.map Column.name).zip row.values

/-- Sets the value of a key and keeps the place of a key that is already there. -/
def insert (entry : String × Option String) :
    List (String × Option String) → List (String × Option String)
  | [] => [entry]
  | (key, value) :: rest =>
    if key = entry.1 then entry :: rest else (key, value) :: insert entry rest

def toMap (row : Row) : List (String × Option String) :=
  row.entries.foldl (fun map entry => insert entry map) []

def describe (row : Row) : String :=
  let shown := row.entries.map fun (name, value) =>
    Text.quoted name ++ ": " ++ Text.quotedOption value
  "\x7b" ++ String.intercalate ", " shown ++ "\x7d"

end Row

end RemoteQuery
