import RemoteQuery.Proofs.BodyParts
import RemoteQuery.Proofs.MessageShapes
import RemoteQuery.ResultPage

/-!
# Validated pages

A page is compared, part by part, with the body that it comes from. Decoding leaves it to the
validation to say which section is missing, and validation says so of the first one. What is
validated has the columns, the rows and the cells of the body in their order.
-/
namespace RemoteQuery

namespace Section

/-- Where the section stands in its answer. -/
def path : Section → List Json.Slot
  | queryExecutionId => [⟨"QueryExecutionId", 0⟩]
  | queryExecution => [⟨"QueryExecution", 0⟩]
  | status => [⟨"QueryExecution", 0⟩, ⟨"Status", 3⟩]
  | state => [⟨"QueryExecution", 0⟩, ⟨"Status", 3⟩, ⟨"State", 0⟩]
  | resultSet => [⟨"ResultSet", 0⟩]
  | resultSetMetadata => [⟨"ResultSet", 0⟩, ⟨"ResultSetMetadata", 1⟩]
  | columnInfo => [⟨"ResultSet", 0⟩, ⟨"ResultSetMetadata", 1⟩, ⟨"ColumnInfo", 0⟩]
  | rows => [⟨"ResultSet", 0⟩, ⟨"Rows", 0⟩]

def firstMissing? (required : List Section) (body : Json) : Option Section :=
  required.find? fun part => (body.at? part.path).isNone

end Section

section Words

variable {word : Option String}

end Words

/-- The column is the one that the description tells of. Only the words `NOT_NULL` and `NULLABLE`
say something of NULL. -/
structure Column.IsOf (column : Column) (info : Json) : Prop where
  name : info.part? ⟨"Name", 0⟩ = some (.ofString column.name)
  declaredType : (info.part? ⟨"Type", 1⟩).getD (.ofString "") = .ofString column.declaredType
  precision : (info.part? ⟨"Precision", 2⟩).getD (.ofInt 0) = .ofInt column.precision
  scale : (info.part? ⟨"Scale", 3⟩).getD (.ofInt 0) = .ofInt column.scale
  notNull : column.nullable = .notNull ↔
    info.part? ⟨"Nullable", 4⟩ = some (.ofString "NOT_NULL")
  nullable : column.nullable = .nullable ↔
    info.part? ⟨"Nullable", 4⟩ = some (.ofString "NULLABLE")
  unknown : column.nullable = .unknown ↔
    info.part? ⟨"Nullable", 4⟩ ≠ some (.ofString "NOT_NULL") ∧
      info.part? ⟨"Nullable", 4⟩ ≠ some (.ofString "NULLABLE")

/-- The cells are those of the row in order; a cell without a value is a NULL. -/
def AreCellsOf (cells : Cells) (row : Json) : Prop :=
  ∃ data, (row.part? ⟨"Data", 0⟩).getD (.array []) = .array data ∧
    List.Forall₂ (fun cell datum => datum.part? ⟨"VarCharValue", 0⟩ = cell.map .ofString) cells data

structure ResultPage.IsOf (page : ResultPage) (body : Json) : Prop where
  columns : ∃ infos, body.at? Section.columnInfo.path = some (.array infos) ∧
    List.Forall₂ Column.IsOf page.columns infos
  rows : ∃ rows, body.at? Section.rows.path = some (.array rows) ∧
    List.Forall₂ AreCellsOf page.rows rows
  nextToken : body.at? [⟨"NextToken", 1⟩] = page.nextToken.map .ofString
  updateCount : body.at? [⟨"UpdateCount", 2⟩] = page.updateCount.map .ofInt

namespace Message

open Json

theorem RendersCell.part {cell : Option String} {json : Json} (h : RendersCell cell json) :
    json.part? ⟨"VarCharValue", 0⟩ = cell.map ofString := by
  obtain ⟨_, record, value⟩ := h
  rw [record.part? rfl rfl]
  exact spelling_text.optional value

theorem ResultSetMetadata.Renders.columnInfo {metadata : ResultSetMetadata} {json : Json}
    (h : metadata.Renders json) :
    Option.Rel (RendersList ColumnInfo.Renders) metadata.columnInfo
      (json.part? ⟨"ColumnInfo", 0⟩) := by
  obtain ⟨_, record, columnInfo⟩ := h
  rw [record.part? rfl rfl]
  exact columnInfo.part nofun

theorem ResultSet.Renders.rows {resultSet : ResultSet} {json : Json} (h : resultSet.Renders json) :
    Option.Rel (RendersList RendersCells) resultSet.rows (json.part? ⟨"Rows", 0⟩) := by
  obtain ⟨_, _, record, rows, _⟩ := h
  rw [record.part? rfl rfl]
  exact rows.part nofun

theorem ResultSet.Renders.metadata {resultSet : ResultSet} {json : Json}
    (h : resultSet.Renders json) :
    Option.Rel ResultSetMetadata.Renders resultSet.resultSetMetadata
      (json.part? ⟨"ResultSetMetadata", 1⟩) := by
  obtain ⟨_, _, record, _, metadata⟩ := h
  rw [record.part? rfl rfl]
  refine metadata.part ?_
  rintro _ ⟨_, ⟨⟩, _⟩

theorem GetQueryResultsResponse.Renders.resultSet {response : GetQueryResultsResponse} {json : Json}
    (h : response.Renders json) :
    Option.Rel ResultSet.Renders response.resultSet (json.part? ⟨"ResultSet", 0⟩) := by
  obtain ⟨_, _, _, record, resultSet, _⟩ := h
  rw [record.part? rfl rfl]
  refine resultSet.part ?_
  rintro _ ⟨_, _, ⟨⟩, _⟩

theorem GetQueryResultsResponse.Renders.nextToken {response : GetQueryResultsResponse} {json : Json}
    (h : response.Renders json) :
    json.part? ⟨"NextToken", 1⟩ = response.nextToken.map ofString := by
  obtain ⟨_, _, _, record, _, nextToken, _⟩ := h
  rw [record.part? rfl rfl]
  exact spelling_text.optional nextToken

theorem GetQueryResultsResponse.Renders.updateCount {response : GetQueryResultsResponse}
    {json : Json} (h : response.Renders json) :
    json.part? ⟨"UpdateCount", 2⟩ = response.updateCount.map ofInt := by
  obtain ⟨_, _, _, record, _, _, updateCount⟩ := h
  rw [record.part? rfl rfl]
  exact (spelling_integer 64).optional updateCount

end Message

namespace ResultPage

open Message Section

def required : List Section := [.resultSet, .resultSetMetadata, .columnInfo, .rows]

/-- What validation makes of an answer of that body. -/
inductive Validates (body : Json) : Except DataError ResultPage → Prop
  | missing {part : Section} (first : firstMissing? required body = some part) :
      Validates body (.error (.missingSection part))
  | page {page : ResultPage} (complete : firstMissing? required body = none)
      (of : page.IsOf body) : Validates body (.ok page)

end ResultPage

end RemoteQuery
