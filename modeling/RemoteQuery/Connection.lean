import RemoteQuery.Cursor
import RemoteQuery.Connection.SessionLabel

/-!
# Connections

A connection obtains a client of the service when one is first needed, from a provider that assumes
the role of the parameters. A failed attempt leaves the connection able to try again; a client that
has been obtained is kept and shared by all cursors. A closed connection makes no more cursors.
-/
namespace RemoteQuery

structure Connection where
  params : ConnectionParams
  /-- The client, once it has been obtained. -/
  client : Option Client := none
  closed : Bool := false
  deriving DecidableEq, Repr

namespace Connection

def sessionLabel (connection : Connection) (line : Line) : String :=
  SessionLabel.make connection.params.sessionName (line.service.labelSuffix line.attempts)

def obtainClient (connection : Connection) (line : Line) :
    Except ConnectionError Client × Connection × Line :=
  match connection.client with
  | some client => (.ok client, connection, line)
  | none =>
    let params := connection.params
    match line.assumeRole params.roleArn (connection.sessionLabel line) params.region with
    | (.error error, line) => (.error error, connection, line)
    | (.ok client, line) => (.ok client, { connection with client := some client }, line)

def cursorWith (connection : Connection) (options : CursorOptions) (line : Line) :
    Except Error QueryCursor × Connection × Line :=
  if connection.closed then (.error (.programming .connectionClosed), connection, line)
  else
    match options.validate with
    | .error cause => (.error (.programming cause), connection, line)
    | .ok _ =>
      match connection.obtainClient line with
      | (.error cause, connection, line) => (.error (.connection cause), connection, line)
      | (.ok client, connection, line) =>
        (.ok { client, params := connection.params, options }, connection, line)

/-- A cursor that polls as often as the parameters say. -/
def cursor (connection : Connection) (line : Line) : Except Error QueryCursor × Connection × Line :=
  connection.cursorWith { pollInterval := connection.params.pollInterval } line

/-- Executes a statement on a cursor of its own. There is no result if the clock ends before the
timeout does. -/
def execute? (connection : Connection) (sql : String) (line : Line) :
    Option (Except Error QueryCursor × Connection × Line) :=
  match connection.cursor line with
  | (.error error, connection, line) => some (.error error, connection, line)
  | (.ok cursor, connection, line) =>
    (cursor.execute? sql line).map fun
      | (.error error, _, line) => (.error error, connection, line)
      | (.ok _, cursor, line) => (.ok cursor, connection, line)

/-- Executes a statement, lets the cursor answer, and closes it. -/
def answer? {α : Type} (connection : Connection) (sql : String) (line : Line)
    (fetch? : QueryCursor → Line → Option (Except Error α × QueryCursor × Line)) :
    Option (Except Error α × Connection × Line) :=
  (connection.execute? sql line).bind fun
    | (.error error, connection, line) => some (.error error, connection, line)
    | (.ok cursor, connection, line) =>
      (fetch? cursor line).map fun (result, _, line) => (result, connection, line)

def query? (connection : Connection) (sql : String) (line : Line) :
    Option (Except Error (List Row) × Connection × Line) :=
  connection.answer? sql line fun cursor line => some (cursor.fetchAll line)

def queryArrow? (connection : Connection) (sql : String) (line : Line) :
    Option (Except Error Columnar.Batch × Connection × Line) :=
  connection.answer? sql line QueryCursor.fetchArrow?

/-- Executes a statement and answers how many rows it changed. -/
def executeUpdate? (connection : Connection) (sql : String) (line : Line) :
    Option (Except Error (Option Int) × Connection × Line) :=
  connection.answer? sql line fun cursor line => some (.ok cursor.rowCount, cursor, line)

def close (connection : Connection) : Connection := { connection with closed := true }

def describe (connection : Connection) : String :=
  "Connection \x7b params: " ++ connection.params.describe
    ++ ", client_initialized: " ++ toString connection.client.isSome
    ++ ", closed: " ++ toString connection.closed ++ " \x7d"

end Connection

end RemoteQuery
