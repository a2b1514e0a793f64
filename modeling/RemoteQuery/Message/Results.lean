import RemoteQuery.Message.Submission

/-!
# Messages on the results of a query

Results come in pages. A page may name the token with which the next one is asked for; the last page
names none. A cell without a value is a NULL.
-/
namespace RemoteQuery.Message

structure GetQueryResultsRequest where
  queryExecutionId : String
  maxResults : Nat
  nextToken : Option String := none
  deriving DecidableEq, Repr

def GetQueryResultsRequest.toJson (request : GetQueryResultsRequest) : Json :=
  Json.record <|
    [("QueryExecutionId", Json.ofString request.queryExecutionId),
      ("MaxResults", Json.ofNat request.maxResults)]
      ++ presentMember "NextToken" request.nextToken

structure ColumnInfo where
  name : String
  typeName : String := ""
  precision : Int := 0
  scale : Int := 0
  nullable : Option String := none
  label : Option String := none
  caseSensitive : Option Bool := none
  deriving DecidableEq, Repr

/-- The cells of a row; `none` is a NULL. -/
abbrev Cells := List (Option String)

structure ResultSetMetadata where
  columnInfo : Option (List ColumnInfo) := none
  deriving DecidableEq, Repr

structure ResultSet where
  rows : Option (List Cells) := none
  resultSetMetadata : Option ResultSetMetadata := none
  deriving DecidableEq, Repr

structure GetQueryResultsResponse where
  resultSet : Option ResultSet := none
  nextToken : Option String := none
  updateCount : Option Int := none
  deriving DecidableEq, Repr

open Json (fields? optional? required? defaulted? text? integer? flag? list?)

def ColumnInfo.decode? (body : Json) : Option ColumnInfo := do
  let names := ["Name", "Type", "Precision", "Scale", "Nullable", "Label", "CaseSensitive"]
  match ← fields? names 7 body with
  | [name, typeName, precision, scale, nullable, label, caseSensitive] =>
    return {
      name := ← required? text? name
      typeName := ← defaulted? text? "" typeName
      precision := ← defaulted? (integer? 32) 0 precision
      scale := ← defaulted? (integer? 32) 0 scale
      nullable := ← optional? text? nullable
      label := ← optional? text? label
      caseSensitive := ← optional? flag? caseSensitive }
  | _ => none

def decodeCell? (body : Json) : Option (Option String) := do
  match ← fields? ["VarCharValue"] 1 body with
  | [value] => optional? text? value
  | _ => none

/-- A row without data has no cells; as an array it may leave the data out. -/
def decodeCells? (body : Json) : Option Cells := do
  match ← fields? ["Data"] 0 body with
  | [data] => defaulted? (list? decodeCell?) [] data
  | _ => none

def ResultSetMetadata.decode? (body : Json) : Option ResultSetMetadata := do
  match ← fields? ["ColumnInfo"] 1 body with
  | [columnInfo] => return ⟨← optional? (list? ColumnInfo.decode?) columnInfo⟩
  | _ => none

def ResultSet.decode? (body : Json) : Option ResultSet := do
  match ← fields? ["Rows", "ResultSetMetadata"] 2 body with
  | [rows, metadata] =>
    return ⟨← optional? (list? decodeCells?) rows, ← optional? ResultSetMetadata.decode? metadata⟩
  | _ => none

def GetQueryResultsResponse.decode? (body : Json) : Option GetQueryResultsResponse := do
  match ← fields? ["ResultSet", "NextToken", "UpdateCount"] 3 body with
  | [resultSet, nextToken, updateCount] =>
    return {
      resultSet := ← optional? ResultSet.decode? resultSet
      nextToken := ← optional? text? nextToken
      updateCount := ← optional? (integer? 64) updateCount }
  | _ => none

end RemoteQuery.Message
