import RemoteQuery.Proofs.ValidatedPages
import RemoteQuery.Snapshot

/-!
# Validated snapshots

A snapshot is compared with the body of its answer. The word of the state is the last of the
sections that it needs, and the only one that can be given and still not be understood. A statistic
is taken over if it is given and not negative.
-/
namespace RemoteQuery

/-- Where a part of the execution stands in its answer. -/
def executionPath (path : List Json.Slot) : List Json.Slot := ⟨"QueryExecution", 0⟩ :: path

def statisticPath (slot : Json.Slot) : List Json.Slot := executionPath [⟨"Statistics", 4⟩, slot]

/-- The body has a count in that slot of the statistics, and it is not negative. -/
def Measures (body : Json) (slot : Json.Slot) (count : Nat) : Prop :=
  body.at? (statisticPath slot) = some (.ofNat count)

structure Statistics.AreOf (statistics : Statistics) (body : Json) : Prop where
  engineExecutionTime : ∀ time, statistics.engineExecutionTime = some time ↔
    ∃ ms, Measures body ⟨"EngineExecutionTimeInMillis", 0⟩ ms ∧ time = ⟨ms * 1000000⟩
  dataScannedBytes : ∀ bytes, statistics.dataScannedBytes = some bytes ↔
    Measures body ⟨"DataScannedInBytes", 1⟩ bytes
  totalExecutionTime : ∀ time, statistics.totalExecutionTime = some time ↔
    ∃ ms, Measures body ⟨"TotalExecutionTimeInMillis", 2⟩ ms ∧ time = ⟨ms * 1000000⟩
  queueTime : ∀ time, statistics.queueTime = some time ↔
    ∃ ms, Measures body ⟨"QueryQueueTimeInMillis", 3⟩ ms ∧ time = ⟨ms * 1000000⟩

structure Snapshot.IsOf (snapshot : Snapshot) (requestedId : String) (body : Json) : Prop where
  queryId : ∃ reported : Option String,
    body.at? (executionPath [⟨"QueryExecutionId", 0⟩]) = reported.map .ofString ∧
      snapshot.queryId = reported.getD requestedId
  queryText :
    (body.at? (executionPath [⟨"Query", 1⟩])).getD (.ofString "") = .ofString snapshot.queryText
  state : ∃ word, body.at? Section.state.path = some (.ofString word) ∧
    Lifecycle.read? word = some snapshot.state
  reason : ∃ reported : Option String,
    body.at? (executionPath [⟨"Status", 3⟩, ⟨"StateChangeReason", 1⟩]) = reported.map .ofString ∧
      snapshot.reason =
        if snapshot.state = .failed ∨ snapshot.state = .cancelled then reported else none
  statementType : body.at? (executionPath [⟨"StatementType", 2⟩]) =
    snapshot.statementType.map .ofString
  statistics : snapshot.statistics.AreOf body

namespace Message

open Json

theorem ExecutionStatistics.Renders.part {statistics : ExecutionStatistics} {json : Json}
    (h : statistics.Renders json) :
    json.part? ⟨"EngineExecutionTimeInMillis", 0⟩ =
        statistics.engineExecutionTimeInMillis.map ofInt ∧
      json.part? ⟨"DataScannedInBytes", 1⟩ = statistics.dataScannedInBytes.map ofInt ∧
      json.part? ⟨"TotalExecutionTimeInMillis", 2⟩ =
        statistics.totalExecutionTimeInMillis.map ofInt ∧
      json.part? ⟨"QueryQueueTimeInMillis", 3⟩ = statistics.queryQueueTimeInMillis.map ofInt := by
  obtain ⟨_, _, _, _, record, engine, scanned, total, queue⟩ := h
  have spelling := spelling_integer 64
  refine ⟨?_, ?_, ?_, ?_⟩
  · rw [record.part? rfl rfl]
    exact spelling.optional engine
  · rw [record.part? rfl rfl]
    exact spelling.optional scanned
  · rw [record.part? rfl rfl]
    exact spelling.optional total
  · rw [record.part? rfl rfl]
    exact spelling.optional queue

theorem ExecutionStatus.Renders.part {status : ExecutionStatus} {json : Json}
    (h : status.Renders json) :
    json.part? ⟨"State", 0⟩ = status.state.map ofString ∧
      json.part? ⟨"StateChangeReason", 1⟩ = status.stateChangeReason.map ofString := by
  obtain ⟨_, _, record, state, reason⟩ := h
  constructor
  · rw [record.part? rfl rfl]
    exact spelling_text.optional state
  · rw [record.part? rfl rfl]
    exact spelling_text.optional reason

theorem QueryExecution.Renders.part {execution : QueryExecution} {json : Json}
    (h : execution.Renders json) :
    json.part? ⟨"QueryExecutionId", 0⟩ = execution.queryExecutionId.map ofString ∧
      json.part? ⟨"Query", 1⟩ = execution.query.map ofString ∧
      json.part? ⟨"StatementType", 2⟩ = execution.statementType.map ofString := by
  obtain ⟨_, _, _, _, _, _, record, id, query, statementType, _⟩ := h
  refine ⟨?_, ?_, ?_⟩
  · rw [record.part? rfl rfl]
    exact spelling_text.optional id
  · rw [record.part? rfl rfl]
    exact spelling_text.optional query
  · rw [record.part? rfl rfl]
    exact spelling_text.optional statementType

theorem QueryExecution.Renders.status {execution : QueryExecution} {json : Json}
    (h : execution.Renders json) :
    Option.Rel ExecutionStatus.Renders execution.status (json.part? ⟨"Status", 3⟩) := by
  obtain ⟨_, _, _, _, _, _, record, _, _, _, status, _⟩ := h
  rw [record.part? rfl rfl]
  refine status.part ?_
  rintro _ ⟨_, _, ⟨⟩, _⟩

theorem QueryExecution.Renders.statistics {execution : QueryExecution} {json : Json}
    (h : execution.Renders json) :
    Option.Rel ExecutionStatistics.Renders execution.statistics (json.part? ⟨"Statistics", 4⟩) := by
  obtain ⟨_, _, _, _, _, _, record, _, _, _, _, statistics, _⟩ := h
  rw [record.part? rfl rfl]
  refine statistics.part ?_
  rintro _ ⟨_, _, _, _, ⟨⟩, _⟩

theorem GetQueryExecutionResponse.Renders.execution {response : GetQueryExecutionResponse}
    {json : Json} (h : response.Renders json) :
    Option.Rel QueryExecution.Renders response.queryExecution
      (json.part? ⟨"QueryExecution", 0⟩) := by
  obtain ⟨_, record, execution⟩ := h
  rw [record.part? rfl rfl]
  refine execution.part ?_
  rintro _ ⟨_, _, _, _, _, _, ⟨⟩, _⟩

end Message

section Measures

variable {body : Json} {slot : Json.Slot} {reported : Option Int}

end Measures

namespace Snapshot

open Message Section

def required : List Section := [.queryExecution, .status, .state]

/-- What validation makes of an answer of that body. -/
inductive Validates (requestedId : String) (body : Json) : Except DataError Snapshot → Prop
  | missing {part : Section} (first : firstMissing? required body = some part) :
      Validates requestedId body (.error (.missingSection part))
  | unknown {word : String} (complete : firstMissing? required body = none)
      (given : body.at? Section.state.path = some (.ofString word))
      (unread : Lifecycle.read? word = none) :
      Validates requestedId body (.error (.unknownState word))
  | snapshot {snapshot : Snapshot} (complete : firstMissing? required body = none)
      (of : snapshot.IsOf requestedId body) : Validates requestedId body (.ok snapshot)

end Snapshot

end RemoteQuery
