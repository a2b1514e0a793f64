import RemoteQuery.Json.Decoder

/-!
# Messages on the execution of a query

The answer to a question about a query. Everything in it may be absent; what must be there is for
the reader of the answer to say.
-/
namespace RemoteQuery.Message

structure ExecutionStatus where
  state : Option String := none
  stateChangeReason : Option String := none
  deriving DecidableEq, Repr

structure ExecutionStatistics where
  engineExecutionTimeInMillis : Option Int := none
  dataScannedInBytes : Option Int := none
  totalExecutionTimeInMillis : Option Int := none
  queryQueueTimeInMillis : Option Int := none
  deriving DecidableEq, Repr

structure QueryExecution where
  queryExecutionId : Option String := none
  query : Option String := none
  statementType : Option String := none
  status : Option ExecutionStatus := none
  statistics : Option ExecutionStatistics := none
  workGroup : Option String := none
  deriving DecidableEq, Repr

structure GetQueryExecutionResponse where
  queryExecution : Option QueryExecution := none
  deriving DecidableEq, Repr

open Json (fields? optional? text? integer?)

def ExecutionStatus.decode? (body : Json) : Option ExecutionStatus := do
  match ← fields? ["State", "StateChangeReason"] 2 body with
  | [state, reason] => return ⟨← optional? text? state, ← optional? text? reason⟩
  | _ => none

def ExecutionStatistics.decode? (body : Json) : Option ExecutionStatistics := do
  let names := ["EngineExecutionTimeInMillis", "DataScannedInBytes", "TotalExecutionTimeInMillis",
    "QueryQueueTimeInMillis"]
  match ← fields? names 4 body with
  | [engine, scanned, total, queue] =>
    return {
      engineExecutionTimeInMillis := ← optional? (integer? 64) engine
      dataScannedInBytes := ← optional? (integer? 64) scanned
      totalExecutionTimeInMillis := ← optional? (integer? 64) total
      queryQueueTimeInMillis := ← optional? (integer? 64) queue }
  | _ => none

def QueryExecution.decode? (body : Json) : Option QueryExecution := do
  let names := ["QueryExecutionId", "Query", "StatementType", "Status", "Statistics", "WorkGroup"]
  match ← fields? names 6 body with
  | [id, query, statementType, status, statistics, workGroup] =>
    return {
      queryExecutionId := ← optional? text? id
      query := ← optional? text? query
      statementType := ← optional? text? statementType
      status := ← optional? ExecutionStatus.decode? status
      statistics := ← optional? ExecutionStatistics.decode? statistics
      workGroup := ← optional? text? workGroup }
  | _ => none

def GetQueryExecutionResponse.decode? (body : Json) : Option GetQueryExecutionResponse := do
  match ← fields? ["QueryExecution"] 1 body with
  | [execution] => return ⟨← optional? QueryExecution.decode? execution⟩
  | _ => none

end RemoteQuery.Message
