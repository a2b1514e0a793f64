import RemoteQuery.Connection
import RemoteQuery.Proofs.Loading

/-!
# Runs of a cursor

The holder of a cursor acts on it in any order: executes statements, fetches, cancels, closes, and
sets the signal and the size of a batch. Between two actions time may pass and the signal may be
fired. A run is a sequence of such actions on one line, with what was answered to each.

A statement whose deadline lies beyond the end of the clock has no answer, so no run goes on after
it.
-/
namespace RemoteQuery.QueryCursor

inductive Action
  | execute (sql : String)
  | fetchOne
  | fetchMany (count : Nat)
  | fetchBatch
  | fetchAll
  | fetchArrow
  | cancel
  | close
  | setInterrupt (signal : Option Signal)
  | setArraySize (size : Nat)
  /-- The signal is fired at the present instant. -/
  | fire
  | pass (ticks : Nat)
  deriving DecidableEq, Repr

inductive Answer
  | done (result : Except Error Unit)
  | row (result : Except Error (Option Row))
  | rows (result : Except Error (List Row))
  | batch (result : Except Error Columnar.Batch)

def answered {α : Type} (form : Except Error α → Answer) :
    Except Error α × QueryCursor × Line → Answer × QueryCursor × Line
  | (result, cursor, line) => (form result, cursor, line)

def act? (cursor : QueryCursor) (line : Line) : Action → Option (Answer × QueryCursor × Line)
  | .execute sql => (cursor.execute? sql line).map (answered .done)
  | .fetchOne => some (answered .row (cursor.fetchOne line))
  | .fetchMany count => some (answered .rows (cursor.fetchMany count line))
  | .fetchBatch => some (answered .rows (cursor.fetchBatch line))
  | .fetchAll => some (answered .rows (cursor.fetchAll line))
  | .fetchArrow => (cursor.fetchArrow? line).map (answered .batch)
  | .cancel => some (answered .done (cursor.cancel line))
  | .close => some (.done (.ok ()), cursor.close, line)
  | .setInterrupt signal => some (.done (.ok ()), cursor.setInterrupt signal, line)
  | .setArraySize size =>
    match cursor.setArraySize size with
    | .ok cursor => some (.done (.ok ()), cursor, line)
    | .error cause => some (.done (.error (.programming cause)), cursor, line)
  | .fire => some (.done (.ok ()), cursor.fireAt line.now, line)
  | .pass ticks => some (.done (.ok ()), cursor, line.wait ticks)

theorem act?_fetchArrow {cursor : QueryCursor} {line : Line} {found : Answer × QueryCursor × Line}
    (h : cursor.act? line .fetchArrow = some found) :
    answered .batch (cursor.withResultSet line arrowOf) = found := by
  obtain ⟨fetched, came, rfl⟩ := Option.map_eq_some_iff.mp h
  unfold fetchArrow? at came
  split at came
  · cases came
  · rw [Option.some.inj came]

/-- The actions of a history, earliest first, lead from one cursor and line to the others. -/
inductive Run (cursor : QueryCursor) (line : Line) :
    List (Action × Answer) → QueryCursor → Line → Prop
  | start : Run cursor line [] cursor line
  | act {history : List (Action × Answer)} {current later : QueryCursor} {now after : Line}
      {action : Action} {answer : Answer} (run : Run cursor line history current now)
      (acted : current.act? now action = some (answer, later, after)) :
      Run cursor line (history ++ [(action, answer)]) later after

def Action.isFetch : Action → Bool
  | .fetchOne | .fetchMany _ | .fetchBatch | .fetchAll | .fetchArrow => true
  | _ => false

def Action.refused (cause : ProgrammingError) : Action → Answer
  | .fetchOne => .row (.error (.programming cause))
  | .fetchMany _ | .fetchBatch | .fetchAll => .rows (.error (.programming cause))
  | .fetchArrow => .batch (.error (.programming cause))
  | _ => .done (.error (.programming cause))

/-- The rows that an answer hands out. Those of a batch are rows of which it is the conversion. -/
def Answer.HandsOut (columns : List Column) (cells : List Cells) : Answer → Prop
  | row (.ok found) => found.toList = cells.map (Row.mk columns)
  | rows (.ok found) => found = cells.map (Row.mk columns)
  | batch (.ok found) => Columnar.convert columns cells = .ok found
  | _ => cells = []

/-- The answer says that no row is left. -/
def Answer.ReportsEnd (arraySize : Nat) : Action → Answer → Prop
  | .fetchOne, row (.ok found) => found = none
  | .fetchMany count, rows (.ok found) => found.length < count
  | .fetchBatch, rows (.ok found) => found.length < arraySize
  | .fetchAll, rows (.ok _) => True
  | .fetchArrow, batch (.ok _) => True
  | _, _ => False

theorem reaches_attach {cursor : QueryCursor} {line after : Line} {calls : List TimedCall} :
    (cursor.attach line).Reaches calls after ↔ line.Reaches calls after :=
  ⟨fun h => ⟨h.service, h.clock, h.noted, h.pages, h.started, h.polled, h.stopped, h.now⟩,
    fun h => ⟨h.service, h.clock, h.noted, h.pages, h.started, h.polled, h.stopped, h.now⟩⟩

theorem delivers_attach {cursor : QueryCursor} {line after : Line} {queryId : String}
    {pages : List ResultPage} :
    (cursor.attach line).Delivers queryId pages after ↔ line.Delivers queryId pages after := by
  simp only [Line.Delivers, reaches_attach]
  rfl

inductive Serves (arraySize : Nat) (action : Action) (set : ResultSet) (line : Line) :
    Answer → ResultSet → Line → Prop
  | intro {answer : Answer} {pages : List ResultPage} {cells : List Cells} {last : ResultSet}
      {after : Line} (delivers : line.Delivers set.queryId pages after)
      (yields : set.Yields pages cells last) (handsOut : answer.HandsOut set.columns cells)
      (ended : answer.ReportsEnd arraySize action → last.pending = [] ∧ last.nextToken = none) :
      Serves arraySize action set line answer last after

theorem serves_fetch {arraySize : Nat} {action : Action} {demand : Demand} {set last : ResultSet}
    {line after : Line} {result : Except Error (List Row)} (opened : set.closed = false)
    (h : set.fetch demand line = (result, last, after))
    (failing : ∀ error, ¬ (Answer.rows (.error error)).ReportsEnd arraySize action)
    (short : ∀ rows, (Answer.rows (.ok rows)).ReportsEnd arraySize action →
      demand.metBy rows.length = false) :
    Serves arraySize action set line (.rows result) last after := by
  cases ResultSet.fetch_fetches opened h with
  | failed delivers yields => exact .intro delivers yields rfl fun ends => (failing _ ends).elim
  | handed delivers yields _ ended =>
    exact .intro delivers yields rfl fun ends => ended (by simpa using short _ ends)

theorem serves_fetchOne {arraySize : Nat} {set last : ResultSet} {line after : Line}
    {result : Except Error (Option Row)} (opened : set.closed = false)
    (h : set.fetchOne line = (result, last, after)) :
    Serves arraySize .fetchOne set line (.row result) last after := by
  unfold ResultSet.fetchOne at h
  generalize fetched : set.fetch (.rows 1) line = found at h
  obtain ⟨rows, _, _⟩ := found
  cases h
  cases ResultSet.fetch_fetches opened fetched with
  | failed delivers yields => exact .intro delivers yields rfl False.elim
  | @handed _ cells _ _ delivers yields bounded ended =>
    have single := bounded 1 rfl
    refine .intro delivers yields ?_ ?_
    · match cells with
      | [] | [_] => rfl
      | _ :: _ :: _ => simp at single
    · intro none
      have empty : cells = [] := by simpa using List.head?_eq_none_iff.mp none
      exact ended (by rw [empty]; rfl)

theorem serves_arrowOf {arraySize : Nat} {set last : ResultSet} {line after : Line}
    {result : Except Error Columnar.Batch} (opened : set.closed = false)
    (h : arrowOf set line = (result, last, after)) :
    Serves arraySize .fetchArrow set line (.batch result) last after := by
  unfold arrowOf at h
  generalize fetched : set.fetch .all line = found at h
  obtain ⟨rows, taken, _⟩ := found
  cases ResultSet.fetch_fetches opened fetched with
  | failed delivers yields =>
    cases h
    exact .intro delivers yields rfl False.elim
  | @handed _ cells _ _ delivers yields _ ended =>
    have values : (cells.map (Row.mk set.columns)).map Row.values = cells := by
      simp [Function.comp_def]
    simp only [values] at h
    split at h
    · rename_i batch converted
      cases h
      exact .intro delivers yields converted fun _ => ended rfl
    · cases h
      exact .intro delivers (ResultSet.yields_unread yields _) rfl False.elim

/-- What a fetch of a cursor does: it is refused, or it is a fetch of the result set. -/
inductive Fetched (cursor : QueryCursor) (line : Line) (action : Action) :
    Answer → QueryCursor → Line → Prop
  | closed (closed : cursor.closed = true) :
      Fetched cursor line action (action.refused .cursorClosed) cursor line
  | missing (opened : cursor.closed = false) (missing : cursor.resultSet = none) :
      Fetched cursor line action (action.refused .noResultSet) cursor line
  | served {set last : ResultSet} {answer : Answer} {after : Line} (opened : cursor.closed = false)
      (holds : cursor.resultSet = some set)
      (serves : Serves cursor.options.arraySize action set line answer last after) :
      Fetched cursor line action answer ({ cursor with resultSet := some last }.detach after) after

theorem withResultSet_fetched {α : Type} {form : Except Error α → Answer} {action : Action}
    {fetch : ResultSet → Line → Except Error α × ResultSet × Line} {cursor later : QueryCursor}
    {line after : Line} {answer : Answer}
    (sound : ∀ set, cursor.resultSet = some set → set.closed = false)
    (refused : ∀ cause, form (.error (.programming cause)) = action.refused cause)
    (serves : ∀ {set last : ResultSet} {now reached : Line} {result : Except Error α},
      set.closed = false → fetch set now = (result, last, reached) →
        Serves cursor.options.arraySize action set now (form result) last reached)
    (h : answered form (cursor.withResultSet line fetch) = (answer, later, after)) :
    Fetched cursor line action answer later after := by
  unfold withResultSet at h
  split at h
  · rename_i closed
    cases h
    rw [refused]
    exact .closed closed
  · rename_i opened
    have opened : cursor.closed = false := by simpa using opened
    split at h
    · rename_i missing
      cases h
      rw [refused]
      exact .missing opened missing
    · rename_i set holds
      generalize fetched : fetch set (cursor.attach line) = found at h
      obtain ⟨result, last, reached⟩ := found
      cases h
      obtain ⟨delivers, yields, handsOut, ended⟩ := serves (sound set holds) fetched
      exact .served opened holds (.intro (delivers_attach.mp delivers) yields handsOut ended)

theorem act?_fetched {cursor later : QueryCursor} {line after : Line} {action : Action}
    {answer : Answer} (fetch : action.isFetch = true)
    (sound : ∀ set, cursor.resultSet = some set → set.closed = false)
    (h : cursor.act? line action = some (answer, later, after)) :
    Fetched cursor line action answer later after := by
  cases action with
  | fetchOne =>
    exact withResultSet_fetched sound (fun _ => rfl) serves_fetchOne (Option.some.inj h)
  | fetchMany count =>
    refine withResultSet_fetched sound (fun _ => rfl) ?_ (Option.some.inj h)
    intro _ _ _ _ _ opened fetched
    exact serves_fetch opened fetched (fun _ => id) fun _ short =>
      decide_eq_false (Nat.not_le.mpr short)
  | fetchBatch =>
    have h := Option.some.inj h
    rw [fetchBatch, fetchMany] at h
    refine withResultSet_fetched sound (fun _ => rfl) ?_ h
    intro _ _ _ _ _ opened fetched
    exact serves_fetch opened fetched (fun _ => id) fun _ short =>
      decide_eq_false (Nat.not_le.mpr short)
  | fetchAll =>
    refine withResultSet_fetched sound (fun _ => rfl) ?_ (Option.some.inj h)
    intro _ _ _ _ _ opened fetched
    exact serves_fetch opened fetched (fun _ => id) fun _ _ => rfl
  | fetchArrow =>
    exact withResultSet_fetched sound (fun _ => rfl) serves_arrowOf (act?_fetchArrow h)
  | _ => cases fetch

/-- The reply with a page of one column. -/
def pageReply (rows : List Cells) (nextToken : Option String) :
    Reply TransportError Message.GetQueryResultsResponse :=
  { result := .ok {
      resultSet := some {
        rows := some rows
        resultSetMetadata := some { columnInfo := some [{ name := "n" }] } }
      nextToken := nextToken } }

def promptLine : Line :=
  { service := promptService
    pages := [pageReply [[some "n"], [some "1"]] (some "more"), pageReply [[some "2"]] none] }

def plainConnection : Connection :=
  { params := {
      roleArn := "role", region := "region", workgroup := none, catalog := "catalog"
      schema := none, outputLocation := none, timeout := .ofSeconds 60
      pollInterval := .ofSeconds 1, sessionName := "session" } }

def plainCursor : QueryCursor := { client := ⟨0⟩, params := plainConnection.params, options := {} }

def openedCursor : QueryCursor :=
  { plainCursor with
    state := .succeeded
    queryId := some "q-1"
    execution := some { queryId := "q-1", queryText := "", state := .succeeded }
    resultSet := some {
      queryId := "q-1", pageSize := 1000
      columns := [{ name := "n", declaredType := "" }], pending := [[some "1"]]
      nextToken := some "more", updateCount := none, pagesFetched := 1, rowsReturned := 0 } }

def openedLine : Line :=
  { promptLine with
    pages := [pageReply [[some "2"]] none]
    calls := [⟨0, .getQueryResults ⟨"q-1", 1000, none⟩⟩, ⟨0, .getQueryExecution "q-1"⟩,
      ⟨0, .startQuery (request plainConnection.params "SELECT n" "token")⟩]
    started := 1
    polled := 1 }

theorem plainCursor_execute :
    plainCursor.execute? "SELECT n" promptLine = some (.ok (), openedCursor, openedLine) := by
  have result : (plainCursor.execute? "SELECT n" promptLine).map (fun found => found.1) =
    some (.ok ()) := rfl
  have cursor : (plainCursor.execute? "SELECT n" promptLine).map (fun found => found.2.1) =
    some openedCursor := rfl
  have line : (plainCursor.execute? "SELECT n" promptLine).map (fun found => found.2.2) =
    some openedLine := rfl
  generalize plainCursor.execute? "SELECT n" promptLine = found at result cursor line
  obtain _ | ⟨_, _, _⟩ := found
  · cases result
  · cases result
    cases cursor
    cases line
    rfl

def stumblingLine : Line :=
  { service := promptService
    pages := [pageReply [[some "n"], [some "1"]] (some "more"),
      { result := .error (.throttled "slow down") }, pageReply [[some "2"]] none] }

def stumblingSet : ResultSet :=
  { queryId := "q-1", pageSize := 1000
    columns := [{ name := "n", declaredType := "" }], pending := [[some "1"]]
    nextToken := some "more", updateCount := none, pagesFetched := 1, rowsReturned := 0 }

def stumblingStart : Line :=
  { stumblingLine with
    pages := stumblingLine.pages.tail
    calls := [⟨0, .getQueryResults ⟨"q-1", 1000, none⟩⟩] }

end RemoteQuery.QueryCursor
