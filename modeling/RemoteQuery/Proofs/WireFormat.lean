import RemoteQuery.Message.Execution
import RemoteQuery.Message.Results
import RemoteQuery.Proofs.RecordDecoding
import RemoteQuery.Proofs.WrittenJson

/-!
# The wire format of responses

A response is a record, and so are the parts that it is made of. Decoding accepts exactly the texts
of renderings: what renders a response is told by its fields, which are optional, have a default, or
are required.
-/
namespace RemoteQuery.Message

open Json

def StartQueryResponse.Renders (response : StartQueryResponse) (json : Json) : Prop :=
  ∃ id, Record ["QueryExecutionId"] 1 json [id] ∧
    RendersRequired RendersText response.queryExecutionId id

theorem StartQueryResponse.decodes :
    Decodes StartQueryResponse.decode? StartQueryResponse.Renders := by
  intro json response
  simp only [decode?, Option.bind_eq_bind, Option.bind_eq_some_iff, fields?_eq_some_iff]
  constructor
  · rintro ⟨values, record, h⟩
    split at h
    · simp only [Option.bind_eq_some_iff, text?_decodes.required] at h
      obtain ⟨_, id, same⟩ := h
      cases same
      exact ⟨_, record, id⟩
    · cases h
  · rintro ⟨id, record, renders⟩
    refine ⟨_, record, ?_⟩
    simp only [text?_decodes.required.mpr renders]
    rfl

theorem optional_text {field : Option Json} {value : Option String} :
    optional? text? field = some value ↔ RendersOptional RendersText value field :=
  text?_decodes.optional rfl

theorem optional_integer {bits : Nat} {field : Option Json} {value : Option Int} :
    optional? (integer? bits) field = some value ↔
      RendersOptional (RendersInteger bits) value field :=
  (integer?_decodes bits).optional rfl

def ExecutionStatus.Renders (status : ExecutionStatus) (json : Json) : Prop :=
  ∃ state reason, Record ["State", "StateChangeReason"] 2 json [state, reason] ∧
    RendersOptional RendersText status.state state ∧
    RendersOptional RendersText status.stateChangeReason reason

theorem ExecutionStatus.decodes : Decodes ExecutionStatus.decode? ExecutionStatus.Renders := by
  intro json status
  simp only [decode?, Option.bind_eq_bind, Option.bind_eq_some_iff, fields?_eq_some_iff]
  constructor
  · rintro ⟨values, record, h⟩
    split at h
    · simp only [Option.bind_eq_some_iff, optional_text] at h
      obtain ⟨_, state, _, reason, same⟩ := h
      cases same
      exact ⟨_, _, record, state, reason⟩
    · cases h
  · rintro ⟨state, reason, record, renderedState, renderedReason⟩
    refine ⟨_, record, ?_⟩
    simp only [optional_text.mpr renderedState, optional_text.mpr renderedReason]
    rfl

def ExecutionStatistics.Renders (statistics : ExecutionStatistics) (json : Json) : Prop :=
  ∃ engine scanned total queue,
    Record ["EngineExecutionTimeInMillis", "DataScannedInBytes", "TotalExecutionTimeInMillis",
      "QueryQueueTimeInMillis"] 4 json [engine, scanned, total, queue] ∧
    RendersOptional (RendersInteger 64) statistics.engineExecutionTimeInMillis engine ∧
    RendersOptional (RendersInteger 64) statistics.dataScannedInBytes scanned ∧
    RendersOptional (RendersInteger 64) statistics.totalExecutionTimeInMillis total ∧
    RendersOptional (RendersInteger 64) statistics.queryQueueTimeInMillis queue

theorem ExecutionStatistics.decodes :
    Decodes ExecutionStatistics.decode? ExecutionStatistics.Renders := by
  intro json statistics
  simp only [decode?, Option.bind_eq_bind, Option.bind_eq_some_iff, fields?_eq_some_iff]
  constructor
  · rintro ⟨values, record, h⟩
    split at h
    · simp only [Option.bind_eq_some_iff, optional_integer] at h
      obtain ⟨_, engine, _, scanned, _, total, _, queue, same⟩ := h
      cases same
      exact ⟨_, _, _, _, record, engine, scanned, total, queue⟩
    · cases h
  · rintro ⟨engine, scanned, total, queue, record, engineTime, bytes, totalTime, queueTime⟩
    refine ⟨_, record, ?_⟩
    simp only [optional_integer.mpr engineTime, optional_integer.mpr bytes,
      optional_integer.mpr totalTime, optional_integer.mpr queueTime]
    rfl

def QueryExecution.Renders (execution : QueryExecution) (json : Json) : Prop :=
  ∃ id query statementType status statistics workGroup,
    Record ["QueryExecutionId", "Query", "StatementType", "Status", "Statistics", "WorkGroup"] 6
      json [id, query, statementType, status, statistics, workGroup] ∧
    RendersOptional RendersText execution.queryExecutionId id ∧
    RendersOptional RendersText execution.query query ∧
    RendersOptional RendersText execution.statementType statementType ∧
    RendersOptional ExecutionStatus.Renders execution.status status ∧
    RendersOptional ExecutionStatistics.Renders execution.statistics statistics ∧
    RendersOptional RendersText execution.workGroup workGroup

theorem QueryExecution.decodes : Decodes QueryExecution.decode? QueryExecution.Renders := by
  intro json execution
  simp only [decode?, Option.bind_eq_bind, Option.bind_eq_some_iff, fields?_eq_some_iff]
  constructor
  · rintro ⟨values, record, h⟩
    split at h
    · simp only [Option.bind_eq_some_iff, optional_text, ExecutionStatus.decodes.optional rfl,
        ExecutionStatistics.decodes.optional rfl] at h
      obtain ⟨_, id, _, query, _, statementType, _, status, _, statistics, _, workGroup, same⟩ := h
      cases same
      exact ⟨_, _, _, _, _, _, record, id, query, statementType, status, statistics, workGroup⟩
    · cases h
  · rintro ⟨_, _, _, _, _, _, record, id, query, statementType, status, statistics, workGroup⟩
    refine ⟨_, record, ?_⟩
    simp only [optional_text.mpr id, optional_text.mpr query, optional_text.mpr statementType,
      (ExecutionStatus.decodes.optional rfl).mpr status,
      (ExecutionStatistics.decodes.optional rfl).mpr statistics, optional_text.mpr workGroup]
    rfl

def GetQueryExecutionResponse.Renders (response : GetQueryExecutionResponse) (json : Json) : Prop :=
  ∃ execution, Record ["QueryExecution"] 1 json [execution] ∧
    RendersOptional QueryExecution.Renders response.queryExecution execution

theorem GetQueryExecutionResponse.decodes :
    Decodes GetQueryExecutionResponse.decode? GetQueryExecutionResponse.Renders := by
  intro json response
  simp only [decode?, Option.bind_eq_bind, Option.bind_eq_some_iff, fields?_eq_some_iff]
  constructor
  · rintro ⟨values, record, h⟩
    split at h
    · simp only [Option.bind_eq_some_iff, QueryExecution.decodes.optional rfl] at h
      obtain ⟨_, execution, same⟩ := h
      cases same
      exact ⟨_, record, execution⟩
    · cases h
  · rintro ⟨_, record, execution⟩
    refine ⟨_, record, ?_⟩
    simp only [(QueryExecution.decodes.optional rfl).mpr execution]
    rfl

def ColumnInfo.Renders (info : ColumnInfo) (json : Json) : Prop :=
  ∃ name typeName precision scale nullable label caseSensitive,
    Record ["Name", "Type", "Precision", "Scale", "Nullable", "Label", "CaseSensitive"] 7
      json [name, typeName, precision, scale, nullable, label, caseSensitive] ∧
    RendersRequired RendersText info.name name ∧
    RendersDefaulted RendersText "" info.typeName typeName ∧
    RendersDefaulted (RendersInteger 32) 0 info.precision precision ∧
    RendersDefaulted (RendersInteger 32) 0 info.scale scale ∧
    RendersOptional RendersText info.nullable nullable ∧
    RendersOptional RendersText info.label label ∧
    RendersOptional RendersFlag info.caseSensitive caseSensitive

theorem ColumnInfo.decodes : Decodes ColumnInfo.decode? ColumnInfo.Renders := by
  intro json info
  simp only [decode?, Option.bind_eq_bind, Option.bind_eq_some_iff, fields?_eq_some_iff]
  constructor
  · rintro ⟨values, record, h⟩
    split at h
    · simp only [Option.bind_eq_some_iff, text?_decodes.required, text?_decodes.defaulted,
        (integer?_decodes 32).defaulted, optional_text, flag?_decodes.optional rfl] at h
      obtain ⟨_, name, _, typeName, _, precision, _, scale, _, nullable, _, label, _, caseSensitive,
        same⟩ := h
      cases same
      exact ⟨_, _, _, _, _, _, _, record, name, typeName, precision, scale, nullable, label,
        caseSensitive⟩
    · cases h
  · rintro ⟨_, _, _, _, _, _, _, record, name, typeName, precision, scale, nullable, label,
      caseSensitive⟩
    refine ⟨_, record, ?_⟩
    simp only [text?_decodes.required.mpr name, text?_decodes.defaulted.mpr typeName,
      (integer?_decodes 32).defaulted.mpr precision, (integer?_decodes 32).defaulted.mpr scale,
      optional_text.mpr nullable, optional_text.mpr label,
      (flag?_decodes.optional rfl).mpr caseSensitive]
    rfl

/-- A NULL is a cell whose value is absent or null. -/
def RendersCell (cell : Option String) (json : Json) : Prop :=
  ∃ value, Record ["VarCharValue"] 1 json [value] ∧ RendersOptional RendersText cell value

theorem decodeCell?_decodes : Decodes decodeCell? RendersCell := by
  intro json cell
  simp only [decodeCell?, Option.bind_eq_bind, Option.bind_eq_some_iff, fields?_eq_some_iff]
  constructor
  · rintro ⟨values, record, h⟩
    split at h
    · exact ⟨_, record, optional_text.mp h⟩
    · cases h
  · rintro ⟨_, record, value⟩
    exact ⟨_, record, optional_text.mpr value⟩

/-- As an array, a row may leave its data out. -/
def RendersCells (cells : Cells) (json : Json) : Prop :=
  ∃ data, Record ["Data"] 0 json [data] ∧ RendersDefaulted (RendersList RendersCell) [] cells data

theorem decodeCells?_decodes : Decodes decodeCells? RendersCells := by
  intro json cells
  simp only [decodeCells?, Option.bind_eq_bind, Option.bind_eq_some_iff, fields?_eq_some_iff]
  constructor
  · rintro ⟨values, record, h⟩
    split at h
    · exact ⟨_, record, decodeCell?_decodes.list.defaulted.mp h⟩
    · cases h
  · rintro ⟨_, record, data⟩
    exact ⟨_, record, decodeCell?_decodes.list.defaulted.mpr data⟩

def ResultSetMetadata.Renders (metadata : ResultSetMetadata) (json : Json) : Prop :=
  ∃ columnInfo, Record ["ColumnInfo"] 1 json [columnInfo] ∧
    RendersOptional (RendersList ColumnInfo.Renders) metadata.columnInfo columnInfo

theorem ResultSetMetadata.decodes :
    Decodes ResultSetMetadata.decode? ResultSetMetadata.Renders := by
  intro json metadata
  simp only [decode?, Option.bind_eq_bind, Option.bind_eq_some_iff, fields?_eq_some_iff]
  constructor
  · rintro ⟨values, record, h⟩
    split at h
    · simp only [Option.bind_eq_some_iff, ColumnInfo.decodes.list.optional rfl] at h
      obtain ⟨_, columnInfo, same⟩ := h
      cases same
      exact ⟨_, record, columnInfo⟩
    · cases h
  · rintro ⟨_, record, columnInfo⟩
    refine ⟨_, record, ?_⟩
    simp only [(ColumnInfo.decodes.list.optional rfl).mpr columnInfo]
    rfl

def ResultSet.Renders (resultSet : ResultSet) (json : Json) : Prop :=
  ∃ rows metadata, Record ["Rows", "ResultSetMetadata"] 2 json [rows, metadata] ∧
    RendersOptional (RendersList RendersCells) resultSet.rows rows ∧
    RendersOptional ResultSetMetadata.Renders resultSet.resultSetMetadata metadata

theorem ResultSet.decodes : Decodes ResultSet.decode? ResultSet.Renders := by
  intro json resultSet
  simp only [decode?, Option.bind_eq_bind, Option.bind_eq_some_iff, fields?_eq_some_iff]
  constructor
  · rintro ⟨values, record, h⟩
    split at h
    · simp only [Option.bind_eq_some_iff, decodeCells?_decodes.list.optional rfl,
        ResultSetMetadata.decodes.optional rfl] at h
      obtain ⟨_, rows, _, metadata, same⟩ := h
      cases same
      exact ⟨_, _, record, rows, metadata⟩
    · cases h
  · rintro ⟨_, _, record, rows, metadata⟩
    refine ⟨_, record, ?_⟩
    simp only [(decodeCells?_decodes.list.optional rfl).mpr rows,
      (ResultSetMetadata.decodes.optional rfl).mpr metadata]
    rfl

def GetQueryResultsResponse.Renders (response : GetQueryResultsResponse) (json : Json) : Prop :=
  ∃ resultSet nextToken updateCount,
    Record ["ResultSet", "NextToken", "UpdateCount"] 3 json [resultSet, nextToken, updateCount] ∧
    RendersOptional ResultSet.Renders response.resultSet resultSet ∧
    RendersOptional RendersText response.nextToken nextToken ∧
    RendersOptional (RendersInteger 64) response.updateCount updateCount

theorem GetQueryResultsResponse.decodes :
    Decodes GetQueryResultsResponse.decode? GetQueryResultsResponse.Renders := by
  intro json response
  simp only [decode?, Option.bind_eq_bind, Option.bind_eq_some_iff, fields?_eq_some_iff]
  constructor
  · rintro ⟨values, record, h⟩
    split at h
    · simp only [Option.bind_eq_some_iff, ResultSet.decodes.optional rfl, optional_text,
        optional_integer] at h
      obtain ⟨_, resultSet, _, nextToken, _, updateCount, same⟩ := h
      cases same
      exact ⟨_, _, _, record, resultSet, nextToken, updateCount⟩
    · cases h
  · rintro ⟨_, _, _, record, resultSet, nextToken, updateCount⟩
    refine ⟨_, record, ?_⟩
    simp only [(ResultSet.decodes.optional rfl).mpr resultSet, optional_text.mpr nextToken,
      optional_integer.mpr updateCount]
    rfl

/-- Decoding accepts the texts of renderings, and gives what is rendered. In a record neither the
order of members nor members of other names matter. A cell of the empty text is not rendered as a
NULL is. -/
theorem decoding_exact (body : String) :
    (∀ response, (Json.read? body).bind StartQueryResponse.decode? = some response ↔
      ∃ json, Json.Written json body ∧ response.Renders json) ∧
    (∀ response, (Json.read? body).bind GetQueryExecutionResponse.decode? = some response ↔
      ∃ json, Json.Written json body ∧ response.Renders json) ∧
    (∀ response, (Json.read? body).bind GetQueryResultsResponse.decode? = some response ↔
      ∃ json, Json.Written json body ∧ response.Renders json) ∧
    (∀ names atLeast members others values, SameMembers names members others →
      (∀ member ∈ members, member.1 ≠ none) → (∀ member ∈ others, member.1 ≠ none) →
        (Record names atLeast (.object members) values ↔
          Record names atLeast (.object others) values)) ∧
    ¬ ∃ json, RendersCell (some "") json ∧ RendersCell none json := by
  refine ⟨lawful.decode_eq_some_iff StartQueryResponse.decodes body,
    lawful.decode_eq_some_iff GetQueryExecutionResponse.decodes body,
    lawful.decode_eq_some_iff GetQueryResultsResponse.decodes body,
    fun _ _ _ _ _ => record_congr, ?_⟩
  rintro ⟨json, empty, null⟩
  have decoded := (decodeCell?_decodes json _).mpr empty
  exact nomatch decoded.symm.trans ((decodeCell?_decodes json _).mpr null)

end RemoteQuery.Message
