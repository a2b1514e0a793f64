import RemoteQuery.Json.Decoder

/-!
# Messages of a submission

A statement is sent with its scope, which says in which catalog it runs and where its results go,
and with a token that makes the request unique. The answer is the identifier of the query.
-/
namespace RemoteQuery.Message

structure StartQueryRequest where
  queryString : String
  catalog : String
  database : Option String := none
  workGroup : Option String := none
  outputLocation : Option String := none
  clientRequestToken : String
  deriving DecidableEq, Repr

/-- A member that is written only if it has a value. -/
def presentMember (name : String) : Option String → List (String × Json)
  | none => []
  | some text => [(name, Json.ofString text)]

def StartQueryRequest.toJson (request : StartQueryRequest) : Json :=
  let context :=
    ("Catalog", Json.ofString request.catalog) :: presentMember "Database" request.database
  let configuration :=
    match request.outputLocation with
    | none => []
    | some location =>
      [("ResultConfiguration", Json.record [("OutputLocation", Json.ofString location)])]
  Json.record <|
    [("QueryString", Json.ofString request.queryString),
      ("QueryExecutionContext", Json.record context)]
      ++ presentMember "WorkGroup" request.workGroup ++ configuration
      ++ [("ClientRequestToken", Json.ofString request.clientRequestToken)]

structure StartQueryResponse where
  queryExecutionId : String
  deriving DecidableEq, Repr

def StartQueryResponse.decode? (body : Json) : Option StartQueryResponse := do
  match ← Json.fields? ["QueryExecutionId"] 1 body with
  | [id] => return ⟨← Json.required? Json.text? id⟩
  | _ => none

end RemoteQuery.Message
