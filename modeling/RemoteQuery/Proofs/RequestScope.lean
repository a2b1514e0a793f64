import RemoteQuery.Proofs.CallDiscipline
import RemoteQuery.Proofs.WrittenJson

/-!
# The scope of a request

A submission takes the scope of its connection along. The text that is sent reads back as an object
with the statement as it was given, the catalog, and of database, workgroup and place of output
those that the connection has; what it does not have is left out and not null. Of the page requests
the same holds for their token. Each statement that is executed is submitted once, in this form.
-/
namespace RemoteQuery

namespace Json

/-- The value is an object in which no name stands twice, and these are its members. -/
def HasMembers (json : Json) (given : String → Json → Prop) : Prop :=
  ∃ members, json = .object members ∧ (members.map Prod.fst).Nodup ∧
    ∀ key value, (key, value) ∈ members ↔ ∃ name, key = some name ∧ given name value

theorem hasMembers_record {members : List (String × Json)} {given : String → Json → Prop}
    (distinct : (members.map Prod.fst).Nodup)
    (same : ∀ name value, (name, value) ∈ members ↔ given name value) :
    (record members).HasMembers given := by
  refine ⟨_, rfl, ?_, ?_⟩
  · rw [List.map_map]
    have named := distinct.map (Option.some_injective String)
    rwa [List.map_map] at named
  · intro key value
    simp only [List.mem_map, Prod.exists, Prod.mk.injEq, same]
    constructor
    · rintro ⟨name, value, given, rfl, rfl⟩
      exact ⟨name, rfl, given⟩
    · rintro ⟨name, rfl, given⟩
      exact ⟨name, value, given, rfl, rfl⟩

end Json

namespace Message

/-- Where a statement runs. -/
inductive ContextMember (params : ConnectionParams) : String → Json → Prop
  | catalog : ContextMember params "Catalog" (.ofString params.catalog)
  | database {schema : String} (given : params.schema = some schema) :
      ContextMember params "Database" (.ofString schema)

inductive SubmissionMember (params : ConnectionParams) (sql token : String) (context : Json) :
    String → Json → Prop
  | queryString : SubmissionMember params sql token context "QueryString" (.ofString sql)
  | queryExecutionContext :
      SubmissionMember params sql token context "QueryExecutionContext" context
  | workGroup {workgroup : String} (given : params.workgroup = some workgroup) :
      SubmissionMember params sql token context "WorkGroup" (.ofString workgroup)
  | resultConfiguration {location : String} (given : params.outputLocation = some location) :
      SubmissionMember params sql token context "ResultConfiguration"
        (.object [(some "OutputLocation", .ofString location)])
  | clientRequestToken :
      SubmissionMember params sql token context "ClientRequestToken" (.ofString token)

/-- The text of the submission reads back as the statement in the scope of the connection. -/
def StartQueryRequest.Carries (request : StartQueryRequest) (params : ConnectionParams)
    (sql : String) : Prop :=
  ∃ json context, Json.read? request.toJson.write = some json ∧
    json.HasMembers (SubmissionMember params sql request.clientRequestToken context) ∧
    context.HasMembers (ContextMember params)

inductive PageRequestMember (request : GetQueryResultsRequest) : String → Json → Prop
  | queryExecutionId :
      PageRequestMember request "QueryExecutionId" (.ofString request.queryExecutionId)
  | maxResults : PageRequestMember request "MaxResults" (.ofNat request.maxResults)
  | nextToken {token : String} (given : request.nextToken = some token) :
      PageRequestMember request "NextToken" (.ofString token)

theorem mem_presentMember {label name : String} {text : Option String} {value : Json} :
    (name, value) ∈ presentMember label text ↔
      name = label ∧ ∃ given, text = some given ∧ value = .ofString given := by
  cases text <;> simp [presentMember]

theorem integral_presentMember {label : String} {text : Option String} :
    ∀ member ∈ presentMember label text, member.2.Integral := by
  rintro ⟨name, value⟩ member
  obtain ⟨_, given, _, rfl⟩ := mem_presentMember.mp member
  exact Json.integral_ofString given

theorem names_presentMember (label : String) (text : Option String) :
    ((presentMember label text).map Prod.fst).Sublist [label] := by
  cases text with
  | none => exact List.nil_sublist _
  | some given => exact .refl _

/-- Where the results go, as members of a submission. -/
def configuration (location : Option String) : List (String × Json) :=
  match location with
  | none => []
  | some location =>
    [("ResultConfiguration", .record [("OutputLocation", .ofString location)])]

theorem mem_configuration {location : Option String} {name : String} {value : Json} :
    (name, value) ∈ configuration location ↔ name = "ResultConfiguration" ∧
      ∃ given, location = some given ∧ value = .record [("OutputLocation", .ofString given)] := by
  cases location <;> simp [configuration]

theorem names_configuration (location : Option String) :
    ((configuration location).map Prod.fst).Sublist ["ResultConfiguration"] := by
  cases location with
  | none => exact List.nil_sublist _
  | some given => exact .refl _

def context (params : ConnectionParams) : Json :=
  .record (("Catalog", .ofString params.catalog) :: presentMember "Database" params.schema)

theorem context_hasMembers (params : ConnectionParams) :
    (context params).HasMembers (ContextMember params) := by
  refine Json.hasMembers_record ?_ ?_
  · have distinct : ["Catalog", "Database"].Nodup := by decide
    exact distinct.sublist ((names_presentMember _ params.schema).cons_cons _)
  · intro name value
    rw [List.mem_cons, mem_presentMember]
    constructor
    · rintro (⟨⟨⟩⟩ | ⟨rfl, schema, given, rfl⟩)
      · exact .catalog
      · exact .database given
    · rintro (_ | ⟨given⟩)
      · exact .inl rfl
      · exact .inr ⟨rfl, _, given, rfl⟩

/-- The members of the submission in the order in which they are written. -/
def submission (params : ConnectionParams) (sql token : String) : List (String × Json) :=
  [("QueryString", .ofString sql), ("QueryExecutionContext", context params)]
    ++ presentMember "WorkGroup" params.workgroup ++ configuration params.outputLocation
    ++ [("ClientRequestToken", .ofString token)]

theorem mem_submission {params : ConnectionParams} {sql token name : String} {value : Json} :
    (name, value) ∈ submission params sql token ↔
      SubmissionMember params sql token (context params) name value := by
  simp only [submission, List.mem_append, List.mem_cons, List.not_mem_nil, or_false,
    mem_presentMember, mem_configuration, Prod.mk.injEq]
  constructor
  · rintro ((((⟨rfl, rfl⟩ | ⟨rfl, rfl⟩) | ⟨rfl, workgroup, given, rfl⟩) |
      ⟨rfl, location, given, rfl⟩) | ⟨rfl, rfl⟩)
    · exact .queryString
    · exact .queryExecutionContext
    · exact .workGroup given
    · exact .resultConfiguration given
    · exact .clientRequestToken
  · rintro (_ | _ | ⟨given⟩ | ⟨given⟩ | _)
    · exact .inl (.inl (.inl (.inl ⟨rfl, rfl⟩)))
    · exact .inl (.inl (.inl (.inr ⟨rfl, rfl⟩)))
    · exact .inl (.inl (.inr ⟨rfl, _, given, rfl⟩))
    · exact .inl (.inr ⟨rfl, _, given, rfl⟩)
    · exact .inr ⟨rfl, rfl⟩

theorem names_submission (params : ConnectionParams) (sql token : String) :
    ((submission params sql token).map Prod.fst).Sublist
      ["QueryString", "QueryExecutionContext", "WorkGroup", "ResultConfiguration",
        "ClientRequestToken"] := by
  simp only [submission, List.map_append]
  exact (((List.Sublist.refl ["QueryString", "QueryExecutionContext"]).append
    (names_presentMember _ params.workgroup)).append
      (names_configuration params.outputLocation)).append (.refl ["ClientRequestToken"])

theorem integral_context (params : ConnectionParams) : (context params).Integral := by
  refine Json.integral_record (List.forall_mem_cons.mpr ⟨?_, integral_presentMember⟩)
  exact Json.integral_ofString params.catalog

theorem integral_submission (params : ConnectionParams) (sql token : String) :
    ∀ member ∈ submission params sql token, member.2.Integral := by
  rintro ⟨name, value⟩ member
  cases mem_submission.mp member with
  | queryString | workGroup | clientRequestToken => exact Json.integral_ofString _
  | queryExecutionContext => exact integral_context params
  | @resultConfiguration location =>
    exact @Json.integral_record [("OutputLocation", .ofString location)]
      (List.forall_mem_singleton.mpr (Json.integral_ofString location))

/-- The request of a cursor carries the scope, whatever the statement and the token are. -/
theorem request_carries (params : ConnectionParams) (sql token : String) :
    (QueryCursor.request params sql token).Carries params sql := by
  refine ⟨.record (submission params sql token), context params, ?_, ?_,
    context_hasMembers params⟩
  · exact Json.lawful.read?_write (Json.integral_record (integral_submission params sql token))
  · refine Json.hasMembers_record ?_ fun name value => mem_submission
    exact List.Nodup.sublist (names_submission params sql token) (by decide)

theorem GetQueryResultsRequest.read_back (request : GetQueryResultsRequest) :
    ∃ json, Json.read? request.toJson.write = some json ∧
      json.HasMembers (PageRequestMember request) := by
  have same (name : String) (value : Json) :
      (name, value) ∈ [("QueryExecutionId", Json.ofString request.queryExecutionId),
          ("MaxResults", Json.ofNat request.maxResults)]
        ++ presentMember "NextToken" request.nextToken ↔ PageRequestMember request name value := by
    simp only [List.mem_append, List.mem_cons, List.not_mem_nil, or_false, mem_presentMember,
      Prod.mk.injEq]
    constructor
    · rintro ((⟨rfl, rfl⟩ | ⟨rfl, rfl⟩) | ⟨rfl, token, given, rfl⟩)
      · exact .queryExecutionId
      · exact .maxResults
      · exact .nextToken given
    · rintro (_ | _ | ⟨given⟩)
      · exact .inl (.inl ⟨rfl, rfl⟩)
      · exact .inl (.inr ⟨rfl, rfl⟩)
      · exact .inr ⟨rfl, _, given, rfl⟩
  refine ⟨_, Json.lawful.read?_write (Json.integral_record ?_), Json.hasMembers_record ?_ same⟩
  · rintro ⟨name, value⟩ member
    cases (same name value).mp member with
    | queryExecutionId | nextToken => exact Json.integral_ofString _
    | maxResults => exact Json.integral_ofNat request.maxResults
  · rw [List.map_append]
    have distinct : ["QueryExecutionId", "MaxResults", "NextToken"].Nodup := by decide
    exact distinct.sublist ((List.Sublist.refl ["QueryExecutionId", "MaxResults"]).append
      (names_presentMember _ request.nextToken))

end Message

theorem OnlyAbout.countOf_startQuery {queryId : String} {calls : List TimedCall}
    (h : OnlyAbout queryId calls) : countOf .startQuery calls = 0 := by
  refine List.countP_eq_zero.mpr ?_
  intro timed member starts
  have about := h timed member
  cases call : timed.call with
  | startQuery | assumeRole =>
    rw [call] at about
    cases about
  | getQueryExecution | getQueryResults | stopQuery =>
    rw [call] at starts
    exact nomatch starts

namespace QueryCursor

/-- The statement is submitted first, and no other submission follows. -/
theorem executed_submits {cursor later : QueryCursor} {sql : String} {line after : Line}
    {result : Except Error Unit} {calls : List TimedCall}
    (h : Executed cursor sql line result later calls after) :
    ∃ more instant token,
      calls = more ++ [⟨instant, .startQuery (request cursor.params sql token)⟩] ∧
      countOf .startQuery more = 0 := by
  cases h with
  | unsubmitted => exact ⟨[], _, _, rfl, rfl⟩
  | unpolled submits _ concludes =>
    obtain ⟨instant, token, rfl⟩ := submits.request
    exact ⟨_, instant, token, rfl, concludes.onlyAbout.countOf_startQuery⟩
  | concluded submits _ concludes _ concluded =>
    obtain ⟨instant, token, rfl⟩ := submits.request
    have about := (concluded_sends concluded).2.append concludes.onlyAbout
    exact ⟨_, instant, token, (List.append_assoc ..).symm, about.countOf_startQuery⟩

/-- A statement is submitted in the scope of its connection, and once by an execution that is not
refused. The submission is made as well by an execution without a result, which the clock does not
last for. A page request carries the query, the size of a page and the token, if there is one. -/
theorem requests_carry_scope (cursor : QueryCursor) (sql : String) (line : Line) :
    (∃ instant submission,
      line.Reaches [⟨instant, .startQuery submission⟩] (submit cursor.params sql line).2 ∧
        submission.Carries cursor.params sql) ∧
    (∀ result later after, cursor.execute? sql line = some (result, later, after) →
      (∃ cause, cursor.refusal? sql line.now = some cause ∧ after = line) ∨
        ∃ more instant submission,
          line.Reaches (more ++ [⟨instant, .startQuery submission⟩]) after ∧
            countOf .startQuery more = 0 ∧ submission.Carries cursor.params sql) ∧
    ∀ request : Message.GetQueryResultsRequest, ∃ json,
      Json.read? request.toJson.write = some json ∧
        json.HasMembers (Message.PageRequestMember request) := by
  refine ⟨?_, ?_, Message.GetQueryResultsRequest.read_back⟩
  · obtain ⟨instant, token, reaches, _⟩ := @submit_cases cursor sql line _ _ rfl
    exact ⟨instant, _, reaches, Message.request_carries cursor.params sql token⟩
  · intro result later after executed
    obtain ⟨cause, refused, _, _, same⟩ | ⟨_, _, _, calls, _, reaches, executed⟩ :=
      execute?_cases executed
    · exact .inl ⟨cause, refused, same⟩
    · obtain ⟨more, instant, token, rfl, none⟩ := executed_submits executed
      exact .inr ⟨more, instant, _, reaches, none, Message.request_carries cursor.params sql token⟩

end QueryCursor

end RemoteQuery
