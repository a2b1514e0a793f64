import RemoteQuery.Error
import RemoteQuery.Row

/-!
# Pages of a result

A page is an answer of the service whose required parts are all there. The first row of a result may
repeat the names of the columns; such a row is a header and no data.
-/
namespace RemoteQuery

structure ResultPage where
  columns : List Column
  rows : List Cells
  nextToken : Option String
  updateCount : Option Int
  deriving DecidableEq, Repr

namespace ResultPage

def ofResponse (response : Message.GetQueryResultsResponse) : Except DataError ResultPage :=
  match response.resultSet with
  | none => .error (.missingSection .resultSet)
  | some resultSet =>
    match resultSet.resultSetMetadata with
    | none => .error (.missingSection .resultSetMetadata)
    | some metadata =>
      match metadata.columnInfo, resultSet.rows with
      | none, _ => .error (.missingSection .columnInfo)
      | some _, none => .error (.missingSection .rows)
      | some columnInfo, some rows =>
        .ok {
          columns := columnInfo.map Column.ofInfo
          rows := rows
          nextToken := response.nextToken
          updateCount := response.updateCount }

end ResultPage

/-- The row has one cell for each column, and each cell is the name of its column. -/
def isHeaderRow (columns : List Column) (row : Cells) : Bool :=
  !columns.isEmpty && row == columns.map fun column => some column.name

/-- The rows of a first page without the header, if there is one. -/
def dropHeader (columns : List Column) (rows : List Cells) : List Cells :=
  match rows with
  | [] => []
  | first :: rest => if isHeaderRow columns first then rest else first :: rest

end RemoteQuery
