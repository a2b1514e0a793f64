import RemoteQuery.Lifecycle

/-!
# Errors

Five kinds of error reach the caller, told apart by who can mend them: the caller misused the
interface, the query or the way to the service failed, an answer of the service was malformed, the
service refused a statement, or no connection could be made. Each error is a cause; its wording is
in the `message` function of its type.
-/
namespace RemoteQuery

inductive Operation
  | startQuery
  | getQueryExecution
  | getQueryResults
  | stopQuery
  deriving DecidableEq, Repr

namespace Operation

def all : List Operation := [startQuery, getQueryExecution, getQueryResults, stopQuery]

def name : Operation → String
  | startQuery => "StartQueryExecution"
  | getQueryExecution => "GetQueryExecution"
  | getQueryResults => "GetQueryResults"
  | stopQuery => "StopQueryExecution"

end Operation

inductive TransportError
  | service (code text : String)
  | throttled (text : String)
  | network (text : String)
  | serialization (text : String)
  deriving DecidableEq, Repr

def TransportError.message : TransportError → String
  | service code text => "Service error " ++ code ++ ": " ++ text
  | throttled text => "Request throttled: " ++ text
  | network text => "Network I/O error: " ++ text
  | serialization text => "Serialization error: " ++ text

inductive ProgrammingError
  | noResultSet
  | cursorClosed
  | connectionClosed
  | emptyQuery
  | missingQueryId
  | interruptFired
  | invalidArgument (parameter text : String)
  deriving DecidableEq, Repr

def ProgrammingError.message : ProgrammingError → String
  | noResultSet => "No result set: execute a query that succeeds before fetching"
  | cursorClosed => "Cursor is closed"
  | connectionClosed => "Connection is closed"
  | emptyQuery => "Query text must not be empty"
  | missingQueryId => "No query id available"
  | interruptFired => "Interrupt signal already fired; set a new token before executing"
  | invalidArgument parameter text => "Invalid argument '" ++ parameter ++ "': " ++ text

inductive OperationalError
  | transport (operation : Operation) (source : TransportError)
  | queryFailed (queryId : String) (state : Lifecycle) (reason : Option String)
  | timedOut (queryId : String) (timeoutSeconds : Nat)
  | interrupted (queryId : String) (state : Option Lifecycle)
  deriving DecidableEq, Repr

namespace OperationalError

def message : OperationalError → String
  | transport operation source => operation.name ++ " failed: " ++ source.message
  | queryFailed queryId state reason =>
    "Query " ++ queryId ++ " " ++ state.word ++ ": " ++ reason.getD "no reason given"
  | timedOut queryId timeoutSeconds =>
    "Query " ++ queryId ++ " timed out after " ++ toString timeoutSeconds ++ "s and was stopped"
  | interrupted queryId state =>
    "Query " ++ queryId ++ " interrupted while polling (last state: "
      ++ (state.map Lifecycle.word).getD "unknown" ++ ")"

def queryId? : OperationalError → Option String
  | transport _ _ => none
  | queryFailed queryId _ _ => some queryId
  | timedOut queryId _ => some queryId
  | interrupted queryId _ => some queryId

def isTimeout : OperationalError → Bool
  | timedOut _ _ => true
  | _ => false

end OperationalError

/-- The parts of an answer that must be there. -/
inductive Section
  | queryExecutionId
  | queryExecution
  | status
  | state
  | resultSet
  | resultSetMetadata
  | columnInfo
  | rows
  deriving DecidableEq, Repr

namespace Section

def all : List Section :=
  [queryExecutionId, queryExecution, status, state, resultSet, resultSetMetadata, columnInfo, rows]

def name : Section → String
  | queryExecutionId => "QueryExecutionId"
  | queryExecution => "QueryExecution"
  | status => "QueryExecution.Status"
  | state => "QueryExecution.Status.State"
  | resultSet => "ResultSet"
  | resultSetMetadata => "ResultSetMetadata"
  | columnInfo => "ColumnInfo"
  | rows => "Rows"

end Section

inductive DataError
  | missingSection (part : Section)
  | unknownState (word : String)
  | rowWidthMismatch (row expected actual : Nat)
  | conversion (row : Nat) (column text : String)
  deriving DecidableEq, Repr

def DataError.message : DataError → String
  | missingSection part => "Malformed response: missing " ++ part.name
  | unknownState word => "Malformed response: unknown query state '" ++ word ++ "'"
  | rowWidthMismatch row expected actual =>
    "Malformed response: row " ++ toString row ++ " has " ++ toString actual
      ++ " values, expected " ++ toString expected
  | conversion row column text =>
    "Failed to convert value at row " ++ toString row ++ ", column '" ++ column ++ "': " ++ text

inductive DatabaseError
  | submitFailed (source : TransportError)
  deriving DecidableEq, Repr

def DatabaseError.message : DatabaseError → String
  | submitFailed source => "Failed to submit query: " ++ source.message

inductive ConnectionError
  | invalidParameter (parameter text : String)
  | malformed (text : String)
  | credentials (roleArn text : String)
  deriving DecidableEq, Repr

def ConnectionError.message : ConnectionError → String
  | invalidParameter parameter text =>
    "Invalid connection parameter '" ++ parameter ++ "': " ++ text
  | malformed text => "Failed to parse connection string: " ++ text
  | credentials roleArn text => "Failed to assume role " ++ roleArn ++ ": " ++ text

inductive ErrorKind
  | programming
  | operational
  | data
  | database
  | connection
  deriving DecidableEq, Repr

def ErrorKind.word : ErrorKind → String
  | programming => "PROGRAMMING"
  | operational => "OPERATIONAL"
  | data => "DATA"
  | database => "DATABASE"
  | connection => "CONNECTION"

inductive Error
  | programming (cause : ProgrammingError)
  | operational (cause : OperationalError)
  | data (cause : DataError)
  | database (cause : DatabaseError)
  | connection (cause : ConnectionError)
  deriving DecidableEq, Repr

namespace Error

def message : Error → String
  | programming cause => cause.message
  | operational cause => cause.message
  | data cause => cause.message
  | database cause => cause.message
  | connection cause => cause.message

def kind : Error → ErrorKind
  | programming _ => .programming
  | operational _ => .operational
  | data _ => .data
  | database _ => .database
  | connection _ => .connection

def isTimeout : Error → Bool
  | operational cause => cause.isTimeout
  | _ => false

def queryId? : Error → Option String
  | operational cause => cause.queryId?
  | _ => none

/-- The messages of the errors that lie behind this one, nearest first. -/
def sources : Error → List String
  | operational (.transport _ source) => [source.message]
  | database (.submitFailed source) => [source.message]
  | _ => []

end Error

section Steps

variable {ε α β : Type} {first : Except ε α} {next : α → Except ε β}

theorem bind_eq_ok_iff {b : β} :
    (first >>= next) = .ok b ↔ ∃ a, first = .ok a ∧ next a = .ok b := by
  constructor
  · intro h
    cases first with
    | error => cases h
    | ok a => exact ⟨a, rfl, h⟩
  · rintro ⟨a, rfl, h⟩
    exact h

theorem bind_eq_error_iff {error : ε} :
    (first >>= next) = .error error ↔
      first = .error error ∨ ∃ a, first = .ok a ∧ next a = .error error := by
  constructor
  · intro h
    cases first with
    | error =>
      cases h
      exact .inl rfl
    | ok a => exact .inr ⟨a, rfl, h⟩
  · rintro (rfl | ⟨a, rfl, h⟩)
    · rfl
    · exact h

end Steps

end RemoteQuery
