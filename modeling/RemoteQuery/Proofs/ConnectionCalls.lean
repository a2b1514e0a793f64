import RemoteQuery.Proofs.ProviderAttempts

/-!
# What one call of a connection does

A call that makes a cursor is first checked, then obtains the client, and only then works on the
cursor. A refused call asks for nothing; one that has no client makes one attempt, whose failure is
its answer and leaves the connection as it was; and a client that is held is used without asking.
-/
namespace RemoteQuery.Connection

inductive Action
  | client
  | cursor
  | cursorWith (options : CursorOptions)
  | execute (sql : String)
  | query (sql : String)
  | queryArrow (sql : String)
  | executeUpdate (sql : String)
  | close
  deriving DecidableEq, Repr

inductive Answer
  | client (result : Except ConnectionError Client)
  | cursor (result : Except Error QueryCursor)
  | rows (result : Except Error (List Row))
  | batch (result : Except Error Columnar.Batch)
  | count (result : Except Error (Option Int))
  | closed

def answered {α : Type} (form : α → Answer) : α × Connection × Line → Answer × Connection × Line
  | (result, connection, line) => (form result, connection, line)

theorem answered_eq_some {α : Type} {form : α → Answer} (found : Option (α × Connection × Line))
    {answer : Answer} {later : Connection} {after : Line}
    (h : found.map (answered form) = some (answer, later, after)) :
    ∃ result, found = some (result, later, after) ∧ answer = form result := by
  obtain ⟨⟨result, kept, reached⟩, came, same⟩ := Option.map_eq_some_iff.mp h
  cases same
  exact ⟨result, came, rfl⟩

def act? (connection : Connection) (line : Line) : Action → Option (Answer × Connection × Line)
  | .client => some (answered .client (connection.obtainClient line))
  | .cursor => some (answered .cursor (connection.cursor line))
  | .cursorWith options => some (answered .cursor (connection.cursorWith options line))
  | .execute sql => (connection.execute? sql line).map (answered .cursor)
  | .query sql => (connection.query? sql line).map (answered .rows)
  | .queryArrow sql => (connection.queryArrow? sql line).map (answered .batch)
  | .executeUpdate sql => (connection.executeUpdate? sql line).map (answered .count)
  | .close => some (.closed, connection.close, line)

/-- The options of a cursor for which none are given. -/
def standardOptions (params : ConnectionParams) : CursorOptions :=
  { pollInterval := params.pollInterval }

/-- The options of the cursor that an action makes, if it makes one. -/
def Action.options? (params : ConnectionParams) : Action → Option CursorOptions
  | .cursorWith options => some options
  | .cursor | .execute _ | .query _ | .queryArrow _ | .executeUpdate _ =>
    some (standardOptions params)
  | .client | .close => none

/-- The statement that an action executes on the cursor that it makes. -/
def Action.statement? : Action → Option String
  | .execute sql | .query sql | .queryArrow sql | .executeUpdate sql => some sql
  | .client | .cursor | .cursorWith _ | .close => none

/-- The error as the answer to an action, if it is one that makes a cursor. -/
def Action.failed? (error : Error) : Action → Option Answer
  | .cursor | .cursorWith _ | .execute _ => some (.cursor (.error error))
  | .query _ => some (.rows (.error error))
  | .queryArrow _ => some (.batch (.error error))
  | .executeUpdate _ => some (.count (.error error))
  | .client | .close => none

/-- The failure of the provider as the answer to an action, if it is one that needs the client. -/
def Action.unprovided? (cause : ConnectionError) : Action → Option Answer
  | .client => some (.client (.error cause))
  | action => action.failed? (.connection cause)

/-- Why no cursor is made with the options, in the order in which it is checked. -/
inductive Refuses (connection : Connection) (options : CursorOptions) : ProgrammingError → Prop
  | closed (closed : connection.closed = true) : Refuses connection options .connectionClosed
  | pollInterval (opened : connection.closed = false)
      (zero : options.pollInterval.isZero = true) :
      Refuses connection options
        (.invalidArgument "poll_interval" "Poll interval must be greater than 0")
  | arraySize (opened : connection.closed = false) (positive : options.pollInterval.isZero = false)
      (zero : options.arraySize = 0) :
      Refuses connection options (.invalidArgument "array_size" "Array size must be at least 1")

/-- The connection does not refuse the action, which needs the client. -/
def Accepts (connection : Connection) (action : Action) : Prop :=
  action ≠ .close ∧ ∀ options, action.options? connection.params = some options →
    ∀ cause, ¬ connection.Refuses options cause

/-- The call that asks the provider for a client. -/
def attempt (connection : Connection) (line : Line) : TimedCall :=
  ⟨line.now,
    .assumeRole connection.params.roleArn (connection.sessionLabel line) connection.params.region⟩

/-- How a client is obtained: one that is held is taken, and otherwise the provider is asked once. A
failure leaves the connection as it was. -/
inductive Obtains (provider : Nat → Reply ConnectionError Client) (connection : Connection)
    (line : Line) : Except ConnectionError Client → List TimedCall → Connection → Line → Prop
  | held {client : Client} (held : connection.client = some client) :
      Obtains provider connection line (.ok client) [] connection line
  | failed {cause : ConnectionError} {after : Line} (missing : connection.client = none)
      (failure : (provider line.attempts).result = .error cause)
      (asked : line.Reaches [connection.attempt line] after) :
      Obtains provider connection line (.error cause) [connection.attempt line] connection after
  | granted {client : Client} {after : Line} (missing : connection.client = none)
      (granted : (provider line.attempts).result = .ok client)
      (asked : line.Reaches [connection.attempt line] after) :
      Obtains provider connection line (.ok client) [connection.attempt line]
        { connection with client := some client } after

def fresh (params : ConnectionParams) (client : Client) (options : CursorOptions) : QueryCursor :=
  { client, params, options }

/-- What an action does once the client is there, in terms of actions on a cursor of its own. -/
inductive Serves (params : ConnectionParams) (client : Client) (line : Line) :
    Action → Answer → Line → Prop
  | client : Serves params client line .client (.client (.ok client)) line
  | cursor :
      Serves params client line .cursor
        (.cursor (.ok (fresh params client (standardOptions params)))) line
  | cursorWith {options : CursorOptions} :
      Serves params client line (.cursorWith options)
        (.cursor (.ok (fresh params client options))) line
  | unexecuted {action : Action} {answer : Answer} {sql : String} {error : Error}
      {cursor : QueryCursor} {after : Line} (states : action.statement? = some sql)
      (executed : (fresh params client (standardOptions params)).act? line (.execute sql) =
        some (.done (.error error), cursor, after))
      (fails : action.failed? error = some answer) : Serves params client line action answer after
  | executed {sql : String} {cursor : QueryCursor} {after : Line}
      (executed : (fresh params client (standardOptions params)).act? line (.execute sql) =
        some (.done (.ok ()), cursor, after)) :
      Serves params client line (.execute sql) (.cursor (.ok cursor)) after
  | queried {sql : String} {cursor later : QueryCursor} {reached after : Line}
      {result : Except Error (List Row)}
      (executed : (fresh params client (standardOptions params)).act? line (.execute sql) =
        some (.done (.ok ()), cursor, reached))
      (fetched : cursor.act? reached .fetchAll = some (.rows result, later, after)) :
      Serves params client line (.query sql) (.rows result) after
  | queriedArrow {sql : String} {cursor later : QueryCursor} {reached after : Line}
      {result : Except Error Columnar.Batch}
      (executed : (fresh params client (standardOptions params)).act? line (.execute sql) =
        some (.done (.ok ()), cursor, reached))
      (fetched : cursor.act? reached .fetchArrow = some (.batch result, later, after)) :
      Serves params client line (.queryArrow sql) (.batch result) after
  | updated {sql : String} {cursor : QueryCursor} {after : Line}
      (executed : (fresh params client (standardOptions params)).act? line (.execute sql) =
        some (.done (.ok ()), cursor, after)) :
      Serves params client line (.executeUpdate sql) (.count (.ok cursor.rowCount)) after

/-- All that one call can do, with the calls that it makes, latest first. -/
inductive Acts (provider : Nat → Reply ConnectionError Client) (connection : Connection)
    (line : Line) : Action → Answer → List TimedCall → Connection → Line → Prop
  | closed : Acts provider connection line .close .closed [] connection.close line
  | refused {action : Action} {answer : Answer} {options : CursorOptions} {cause : ProgrammingError}
      (asks : action.options? connection.params = some options)
      (grounds : connection.Refuses options cause)
      (fails : action.failed? (.programming cause) = some answer) :
      Acts provider connection line action answer [] connection line
  | unprovided {action : Action} {answer : Answer} {cause : ConnectionError}
      {calls : List TimedCall} {kept : Connection} {after : Line}
      (accepted : connection.Accepts action)
      (obtains : Obtains provider connection line (.error cause) calls kept after)
      (fails : action.unprovided? cause = some answer) :
      Acts provider connection line action answer calls kept after
  | served {action : Action} {answer : Answer} {client : Client} {first more : List TimedCall}
      {kept : Connection} {reached after : Line} (accepted : connection.Accepts action)
      (obtains : Obtains provider connection line (.ok client) first kept reached)
      (onward : reached.Reaches more after) (quiet : attemptsIn more = 0)
      (serves : Serves connection.params client reached action answer after) :
      Acts provider connection line action answer (more ++ first) kept after

/-- A cursor is refused, or the client cannot be obtained, or the cursor is made. -/
inductive Making (provider : Nat → Reply ConnectionError Client) (connection : Connection)
    (options : CursorOptions) (line : Line) :
    Except Error QueryCursor → List TimedCall → Connection → Line → Prop
  | refused {cause : ProgrammingError} (grounds : connection.Refuses options cause) :
      Making provider connection options line (.error (.programming cause)) [] connection line
  | unprovided {cause : ConnectionError} {calls : List TimedCall} {kept : Connection} {after : Line}
      (accepted : ∀ cause, ¬ connection.Refuses options cause)
      (obtains : Obtains provider connection line (.error cause) calls kept after) :
      Making provider connection options line (.error (.connection cause)) calls kept after
  | made {client : Client} {calls : List TimedCall} {kept : Connection} {after : Line}
      (accepted : ∀ cause, ¬ connection.Refuses options cause)
      (obtains : Obtains provider connection line (.ok client) calls kept after) :
      Making provider connection options line (.ok (fresh connection.params client options)) calls
        kept after

end RemoteQuery.Connection
