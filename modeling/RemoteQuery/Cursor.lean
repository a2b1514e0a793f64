import RemoteQuery.Columnar.Batch
import RemoteQuery.Connection.Params
import RemoteQuery.Polling
import RemoteQuery.ResultSet

/-!
# Query cursors

A cursor runs one statement at a time. To execute a statement it submits it, polls until the query
is in a terminal state, and opens the results. What an earlier statement left behind is dropped as
soon as a new one is about to be submitted, and kept if the call is refused before that. Rows are
fetched from the open result set; a closed cursor refuses everything but to cancel.
-/
namespace RemoteQuery

inductive CursorState
  | idle
  | submitted
  | polling
  | succeeded
  | failed
  | cancelled
  | timedOut
  | interrupted
  deriving DecidableEq, Repr

namespace CursorState

def isFinished : CursorState → Bool
  | idle | submitted | polling => false
  | succeeded | failed | cancelled | timedOut | interrupted => true

def word : CursorState → String
  | idle => "IDLE"
  | submitted => "SUBMITTED"
  | polling => "POLLING"
  | succeeded => "SUCCEEDED"
  | failed => "FAILED"
  | cancelled => "CANCELLED"
  | timedOut => "TIMED_OUT"
  | interrupted => "INTERRUPTED"

def name : CursorState → String
  | idle => "Idle"
  | submitted => "Submitted"
  | polling => "Polling"
  | succeeded => "Succeeded"
  | failed => "Failed"
  | cancelled => "Cancelled"
  | timedOut => "TimedOut"
  | interrupted => "Interrupted"

end CursorState

structure CursorOptions where
  pollInterval : Duration := .ofSeconds 1
  cancelOnInterrupt : Bool := true
  pageSize : Nat := ResultSet.maxPageSize
  arraySize : Nat := 1
  interrupt : Option Signal := none
  deriving DecidableEq, Repr

namespace CursorOptions

def withPageSize (options : CursorOptions) (size : Nat) : CursorOptions :=
  { options with pageSize := ResultSet.clampPageSize size }

def zeroArraySize : ProgrammingError :=
  .invalidArgument "array_size" "Array size must be at least 1"

def validate (options : CursorOptions) : Except ProgrammingError Unit :=
  if options.pollInterval.isZero then
    .error (.invalidArgument "poll_interval" "Poll interval must be greater than 0")
  else if options.arraySize = 0 then .error zeroArraySize
  else .ok ()

end CursorOptions

structure QueryCursor where
  client : Client
  params : ConnectionParams
  options : CursorOptions
  state : CursorState := .idle
  queryId : Option String := none
  execution : Option Snapshot := none
  resultSet : Option ResultSet := none
  closed : Bool := false
  deriving DecidableEq, Repr

namespace QueryCursor

/-- The line as this cursor uses it: what is fired meanwhile is the signal of the cursor. -/
def attach (cursor : QueryCursor) (line : Line) : Line :=
  { line with interrupt := cursor.options.interrupt }

def detach (cursor : QueryCursor) (line : Line) : QueryCursor :=
  { cursor with options := { cursor.options with interrupt := line.interrupt } }

def setInterrupt (cursor : QueryCursor) (signal : Option Signal) : QueryCursor :=
  { cursor with options := { cursor.options with interrupt := signal } }

def fireAt (cursor : QueryCursor) (instant : Nat) : QueryCursor :=
  cursor.setInterrupt (cursor.options.interrupt.map fun signal => signal.fireAt instant)

/-- Calls off a firing of the signal that is still to come. -/
def disarm (cursor : QueryCursor) (now : Nat) : QueryCursor :=
  cursor.setInterrupt (cursor.options.interrupt.map fun signal => signal.disarm now)

/-- Why a statement is refused before anything is sent. -/
def refusal? (cursor : QueryCursor) (sql : String) (now : Nat) : Option ProgrammingError :=
  if cursor.closed then some .cursorClosed
  else if Text.isBlankText sql then some .emptyQuery
  else
    match cursor.options.interrupt with
    | some signal => if signal.firedBy now then some .interruptFired else none
    | none => none

def reset (cursor : QueryCursor) : QueryCursor :=
  { cursor with state := .idle, queryId := none, execution := none, resultSet := none }

/-- The request that submits a statement in the scope of the connection. -/
def request (params : ConnectionParams) (sql token : String) : Message.StartQueryRequest :=
  { queryString := sql
    catalog := params.catalog
    database := params.schema
    workGroup := params.workgroup
    outputLocation := params.outputLocation
    clientRequestToken := token }

/-- Submits the statement; the answer is the identifier of the query, which must not be empty. -/
def submit (params : ConnectionParams) (sql : String) (line : Line) : Except Error String × Line :=
  let token := line.service.requestToken line.started
  match line.startQuery (request params sql token) with
  | (.error source, line) => (.error (.database (.submitFailed source)), line)
  | (.ok response, line) =>
    if response.queryExecutionId.isEmpty then
      (.error (.data (.missingSection .queryExecutionId)), line)
    else (.ok response.queryExecutionId, line)

def policy (cursor : QueryCursor) : PollPolicy :=
  { interval := cursor.options.pollInterval
    timeout := cursor.params.timeout
    cancelOnInterrupt := cursor.options.cancelOnInterrupt }

def unsuccessful (cursor : QueryCursor) (state : CursorState) (queryId : String)
    (snapshot : Snapshot) : Except Error Unit × QueryCursor :=
  (.error (.operational (.queryFailed queryId snapshot.state snapshot.reason)),
    { cursor with state := state, execution := some snapshot })

/-- Takes in the terminal snapshot of the query, and opens the results of one that succeeded. -/
def finish (cursor : QueryCursor) (queryId : String) (snapshot : Snapshot) (line : Line) :
    Except Error Unit × QueryCursor × Line :=
  match snapshot.state with
  | .succeeded =>
    let cursor := { cursor with state := .succeeded, execution := some snapshot }
    match ResultSet.openFor line queryId cursor.options.pageSize with
    | (.error error, line) => (.error error, cursor, line)
    | (.ok set, line) => (.ok (), { cursor with resultSet := some set }, line)
  | .failed =>
    let (result, cursor) := cursor.unsuccessful .failed queryId snapshot
    (result, cursor, line)
  | .cancelled =>
    let (result, cursor) := cursor.unsuccessful .cancelled queryId snapshot
    (result, cursor, line)
  | .queued | .running =>
    (.error (.data (.unknownState snapshot.state.word)),
      { cursor with execution := some snapshot }, line)

def conclude (cursor : QueryCursor) (queryId : String) (line : Line) :
    PollOutcome → Except Error Unit × QueryCursor × Line
  | .terminal snapshot => cursor.finish queryId snapshot line
  | .timedOut last =>
    (.error (.operational (.timedOut queryId cursor.params.timeout.wholeSeconds)),
      { cursor with state := .timedOut, execution := last }, line)
  | .interrupted state =>
    (.error (.operational (.interrupted queryId (state.map Snapshot.state))),
      { cursor with state := .interrupted, execution := state }, line)

/-- Submits a statement and waits for its end, on a cursor that has been reset. There is no result
if the clock ends before the timeout does. -/
def run? (cursor : QueryCursor) (sql : String) (line : Line) :
    Option (Except Error Unit × QueryCursor × Line) :=
  match submit cursor.params sql line with
  | (.error error, line) => some (.error error, cursor, line)
  | (.ok queryId, line) =>
    let cursor := { cursor with state := .polling, queryId := some queryId }
    (Polling.pollUntilTerminal? line queryId cursor.policy).map fun
      | (.error error, line) => (.error error, cursor, line)
      | (.ok outcome, line) => cursor.conclude queryId line outcome

def perform? (cursor : QueryCursor) (sql : String) (line : Line) :
    Option (Except Error Unit × QueryCursor × Line) :=
  (cursor.reset.run? sql (cursor.attach line)).map fun (result, cursor, line) =>
    (result, cursor.detach line, line)

/-- Executes a statement. There is no result if the clock ends before the timeout does. -/
def execute? (cursor : QueryCursor) (sql : String) (line : Line) :
    Option (Except Error Unit × QueryCursor × Line) :=
  match cursor.refusal? sql line.now with
  | some cause => some (.error (.programming cause), cursor, line)
  | none => cursor.perform? sql line

/-- Executes a statement with the signal of the cursor set to be fired at an instant. A statement
that is refused does not set it, and one that ends before the instant calls the firing off. -/
def executeUntil? (cursor : QueryCursor) (sql : String) (instant : Nat) (line : Line) :
    Option (Except Error Unit × QueryCursor × Line) :=
  match cursor.refusal? sql line.now with
  | some cause => some (.error (.programming cause), cursor, line)
  | none =>
    ((cursor.fireAt instant).perform? sql line).map fun (result, cursor, line) =>
      (result, cursor.disarm line.now, line)

def withResultSet {α : Type} (cursor : QueryCursor) (line : Line)
    (fetch : ResultSet → Line → Except Error α × ResultSet × Line) :
    Except Error α × QueryCursor × Line :=
  if cursor.closed then (.error (.programming .cursorClosed), cursor, line)
  else
    match cursor.resultSet with
    | none => (.error (.programming .noResultSet), cursor, line)
    | some set =>
      let (result, set, line) := fetch set (cursor.attach line)
      (result, { cursor with resultSet := some set }.detach line, line)

def fetchOne (cursor : QueryCursor) (line : Line) :
    Except Error (Option Row) × QueryCursor × Line :=
  cursor.withResultSet line ResultSet.fetchOne

def fetchMany (cursor : QueryCursor) (count : Nat) (line : Line) :
    Except Error (List Row) × QueryCursor × Line :=
  cursor.withResultSet line (ResultSet.fetch (.rows count))

def fetchBatch (cursor : QueryCursor) (line : Line) :
    Except Error (List Row) × QueryCursor × Line :=
  cursor.fetchMany cursor.options.arraySize line

def fetchAll (cursor : QueryCursor) (line : Line) :
    Except Error (List Row) × QueryCursor × Line :=
  cursor.withResultSet line (ResultSet.fetch .all)

/-- All the rows that are left as a batch. Rows that cannot be converted stay pending. -/
def arrowOf (set : ResultSet) (line : Line) : Except Error Columnar.Batch × ResultSet × Line :=
  match set.fetch .all line with
  | (.error error, set, line) => (.error error, set, line)
  | (.ok rows, taken, line) =>
    match Columnar.convert set.columns (rows.map Row.values) with
    | .ok batch => (.ok batch, taken, line)
    | .error cause => (.error (.data cause), taken.unread rows, line)

/-- The rows that are left are fetched, and making a batch of them has no result. -/
def overruns (cursor : QueryCursor) (line : Line) : Bool :=
  match cursor.resultSet with
  | none => false
  | some set =>
    match set.fetch .all (cursor.attach line) with
    | (.error _, _, _) => false
    | (.ok rows, _, _) => !cursor.closed && Columnar.overruns set.columns (rows.map Row.values)

def fetchArrow? (cursor : QueryCursor) (line : Line) :
    Option (Except Error Columnar.Batch × QueryCursor × Line) :=
  if cursor.overruns line then none else some (cursor.withResultSet line arrowOf)

/-- Asks the service to stop the query. What the cursor knows of it stays as it is. -/
def cancel (cursor : QueryCursor) (line : Line) : Except Error Unit × QueryCursor × Line :=
  match cursor.queryId with
  | none => (.error (.programming .missingQueryId), cursor, line)
  | some queryId =>
    match (cursor.attach line).stopQuery queryId with
    | (.ok _, line) => (.ok (), cursor.detach line, line)
    | (.error source, line) =>
      (.error (.operational (.transport .stopQuery source)), cursor.detach line, line)

def close (cursor : QueryCursor) : QueryCursor := { cursor with resultSet := none, closed := true }

def setArraySize (cursor : QueryCursor) (size : Nat) : Except ProgrammingError QueryCursor :=
  if size = 0 then .error CursorOptions.zeroArraySize
  else .ok { cursor with options := { cursor.options with arraySize := size } }

def description (cursor : QueryCursor) : Option (List Column) :=
  cursor.resultSet.map ResultSet.columns

def rowNumber (cursor : QueryCursor) : Option Nat := cursor.resultSet.map ResultSet.rowsReturned

/-- How many rows the statement changed. -/
def rowCount (cursor : QueryCursor) : Option Int := cursor.resultSet.bind ResultSet.updateCount

def describe (cursor : QueryCursor) : String :=
  let set :=
    match cursor.resultSet with
    | none => "None"
    | some set => "Some(" ++ set.describe ++ ")"
  "QueryCursor \x7b state: " ++ cursor.state.name
    ++ ", query_id: " ++ Text.quotedOption cursor.queryId
    ++ ", result_set: " ++ set
    ++ ", closed: " ++ toString cursor.closed ++ " \x7d"

end QueryCursor

end RemoteQuery
