import RemoteQuery.Line

/-!
# Transcripts of a line

The calls that are made on a line determine what they leave of it: the service is the same, each
operation has used up as many replies as it was called, and each page request has taken one reply
off the pages. What they do to the clock and to the signal is not recorded here, only that the clock
does not go back.
-/
namespace RemoteQuery

namespace Call

/-- The operation on queries that is called; to assume a role is none. -/
def operation? : Call → Option Operation
  | startQuery _ => some .startQuery
  | getQueryExecution _ => some .getQueryExecution
  | getQueryResults _ => some .getQueryResults
  | stopQuery _ => some .stopQuery
  | assumeRole .. => none

/-- The query that the call is about. -/
def queryId? : Call → Option String
  | getQueryExecution queryId | stopQuery queryId => some queryId
  | getQueryResults request => some request.queryExecutionId
  | startQuery _ | assumeRole .. => none

end Call

/-- How many of the calls are calls of an operation. -/
def countOf (operation : Operation) (calls : List TimedCall) : Nat :=
  calls.countP fun timed => timed.call.operation? == some operation

@[simp] theorem countOf_nil (operation : Operation) : countOf operation [] = 0 := rfl

@[simp] theorem countOf_cons (operation : Operation) (timed : TimedCall)
    (calls : List TimedCall) :
    countOf operation (timed :: calls) =
      countOf operation calls + if timed.call.operation? = some operation then 1 else 0 := by
  simp [countOf, List.countP_cons]

@[simp] theorem countOf_append (operation : Operation) (later earlier : List TimedCall) :
    countOf operation (later ++ earlier) = countOf operation later + countOf operation earlier :=
  List.countP_append

namespace Line

/-- `after` is what the calls, latest first, leave of the line `before`. -/
structure Reaches (before : Line) (calls : List TimedCall) (after : Line) : Prop where
  service : after.service = before.service
  clock : after.clock = before.clock
  noted : after.calls = calls ++ before.calls
  pages : after.pages = before.pages.drop (countOf .getQueryResults calls)
  started : after.started = before.started + countOf .startQuery calls
  polled : after.polled = before.polled + countOf .getQueryExecution calls
  stopped : after.stopped = before.stopped + countOf .stopQuery calls
  now : before.now ≤ after.now

theorem Reaches.refl (line : Line) : line.Reaches [] line :=
  ⟨rfl, rfl, rfl, rfl, rfl, rfl, rfl, Nat.le_refl _⟩

theorem Reaches.trans {before middle after : Line} {calls more : List TimedCall}
    (first : before.Reaches calls middle) (second : middle.Reaches more after) :
    before.Reaches (more ++ calls) after where
  service := second.service.trans first.service
  clock := second.clock.trans first.clock
  noted := by rw [second.noted, first.noted, List.append_assoc]
  pages := by rw [second.pages, first.pages, List.drop_drop, countOf_append, Nat.add_comm]
  started := by rw [second.started, first.started, countOf_append]; omega
  polled := by rw [second.polled, first.polled, countOf_append]; omega
  stopped := by rw [second.stopped, first.stopped, countOf_append]; omega
  now := Nat.le_trans first.now second.now

theorem reaches_advanceTo (line : Line) (instant : Nat) :
    line.Reaches [] (line.advanceTo instant) :=
  ⟨rfl, rfl, rfl, rfl, rfl, rfl, rfl, Nat.le_max_left _ _⟩

theorem reaches_wait (line : Line) (delay : Nat) : line.Reaches [] (line.wait delay) :=
  ⟨rfl, rfl, rfl, rfl, rfl, rfl, rfl, Nat.le_add_right _ _⟩

theorem reaches_startQuery (line : Line) (request : Message.StartQueryRequest) :
    line.Reaches [⟨line.now, .startQuery request⟩] (line.startQuery request).2 :=
  ⟨rfl, rfl, rfl, rfl, rfl, rfl, rfl, Nat.le_add_right _ _⟩

theorem reaches_getQueryExecution (line : Line) (queryId : String) :
    line.Reaches [⟨line.now, .getQueryExecution queryId⟩] (line.getQueryExecution queryId).2 :=
  ⟨rfl, rfl, rfl, rfl, rfl, rfl, rfl, Nat.le_add_right _ _⟩

theorem reaches_stopQuery (line : Line) (queryId : String) :
    line.Reaches [⟨line.now, .stopQuery queryId⟩] (line.stopQuery queryId).2 :=
  ⟨rfl, rfl, rfl, rfl, rfl, rfl, rfl, Nat.le_add_right _ _⟩

theorem reaches_getQueryResults (line : Line) (request : Message.GetQueryResultsRequest) :
    line.Reaches [⟨line.now, .getQueryResults request⟩] (line.getQueryResults request).2 := by
  unfold getQueryResults
  cases pages : line.pages with
  | nil =>
    exact ⟨rfl, rfl, rfl, by simp [ask, begin, wait, pages], rfl, rfl, rfl, Nat.le_add_right _ _⟩
  | cons reply rest =>
    exact ⟨rfl, rfl, rfl, by simp [ask, begin, wait, pages, Call.operation?], rfl, rfl, rfl,
      Nat.le_add_right _ _⟩

end Line

/-- A service that has every statement succeed at once. -/
def promptService : Service where
  start _ := { result := .ok ⟨"q-1"⟩ }
  execution _ _ :=
    { result := .ok { queryExecution := some { status := some { state := some "SUCCEEDED" } } } }
  stop _ := { result := .ok () }
  noPage := .network "no page"
  requestToken _ := "token"
  labelSuffix _ := "label"

end RemoteQuery
