import RemoteQuery.Duration
import RemoteQuery.Error
import RemoteQuery.Message.Execution

/-!
# Snapshots of an execution

A snapshot is what one answer of the service says about a query, once its required parts have been
found. A reason is kept only in the states that have one.
-/
namespace RemoteQuery

structure Statistics where
  engineExecutionTime : Option Duration := none
  dataScannedBytes : Option Nat := none
  totalExecutionTime : Option Duration := none
  queueTime : Option Duration := none
  deriving DecidableEq, Repr

structure Snapshot where
  queryId : String
  queryText : String
  state : Lifecycle
  reason : Option String := none
  statementType : Option String := none
  statistics : Statistics := {}
  deriving DecidableEq, Repr

/-- A count that is not negative; a negative one is no measurement. -/
def measured? : Option Int → Option Nat
  | some (.ofNat count) => some count
  | _ => none

def Statistics.ofMessage (statistics : Message.ExecutionStatistics) : Statistics :=
  let time (count : Option Int) := (measured? count).map fun ms => (⟨ms * 1000000⟩ : Duration)
  { engineExecutionTime := time statistics.engineExecutionTimeInMillis
    dataScannedBytes := measured? statistics.dataScannedInBytes
    totalExecutionTime := time statistics.totalExecutionTimeInMillis
    queueTime := time statistics.queryQueueTimeInMillis }

namespace Snapshot

/-- Only a query that failed or was cancelled has a reason. -/
def reasonIn (state : Lifecycle) (reason : Option String) : Option String :=
  match state with
  | .failed | .cancelled => reason
  | _ => none

def make (queryId queryText : String) (state : Lifecycle) (reason : Option String) : Snapshot :=
  { queryId, queryText, state, reason := reasonIn state reason }

def isTerminal (snapshot : Snapshot) : Bool := snapshot.state.isTerminal

/-- The snapshot in an answer to a question about `requestedId`. -/
def ofResponse (requestedId : String) (response : Message.GetQueryExecutionResponse) :
    Except DataError Snapshot :=
  match response.queryExecution with
  | none => .error (.missingSection .queryExecution)
  | some execution =>
    match execution.status with
    | none => .error (.missingSection .status)
    | some status =>
      match status.state with
      | none => .error (.missingSection .state)
      | some word =>
        match Lifecycle.read? word with
        | none => .error (.unknownState word)
        | some state =>
          .ok {
            queryId := execution.queryExecutionId.getD requestedId
            queryText := execution.query.getD ""
            state := state
            reason := reasonIn state status.stateChangeReason
            statementType := execution.statementType
            statistics := (execution.statistics.map Statistics.ofMessage).getD {} }

end Snapshot

end RemoteQuery
