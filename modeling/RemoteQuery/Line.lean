import RemoteQuery.Clock
import RemoteQuery.Duration
import RemoteQuery.Error
import RemoteQuery.Message.Execution
import RemoteQuery.Message.Results
import RemoteQuery.Signal

/-!
# The line to the service

A service is given by its replies: the n-th call of an operation, counted from zero, has the n-th
reply. A reply comes after a delay, and the interrupt signal of the caller may be fired while the
call begins. The replies to page requests are a list; when it is used up the service refuses.

A line is a service together with the time on the clock, the calls that have been made, and the
interrupt signal of the one who is calling. The random parts of requests are drawn from the
service too, so that a run is determined by the line.

The clock does not last for ever. A run that needs a later instant has no result at all, not even an
error.
-/
namespace RemoteQuery

structure Reply (ε α : Type) where
  delay : Nat := 0
  interrupts : Bool := false
  result : Except ε α

/-- A client of the service, by which its holder is known to the service. -/
structure Client where
  handle : Nat
  deriving DecidableEq, Repr

structure Service where
  start : Nat → Reply TransportError Message.StartQueryResponse
  /-- The reply may depend on the query that is asked for. -/
  execution : Nat → String → Reply TransportError Message.GetQueryExecutionResponse
  stop : Nat → Reply TransportError Unit
  /-- The error of a page request when no page is left. -/
  noPage : TransportError
  /-- How the credential provider answers, or `none` for a provider that always has a client. -/
  credentials : Option (Nat → Reply ConnectionError Client) := none
  requestToken : Nat → String
  labelSuffix : Nat → String

inductive Call
  | startQuery (request : Message.StartQueryRequest)
  | getQueryExecution (queryId : String)
  | getQueryResults (request : Message.GetQueryResultsRequest)
  | stopQuery (queryId : String)
  | assumeRole (roleArn sessionLabel region : String)
  deriving DecidableEq, Repr

structure TimedCall where
  instant : Nat
  call : Call
  deriving DecidableEq, Repr

structure Line where
  service : Service
  /-- The replies to page requests that are still to come. -/
  pages : List (Reply TransportError Message.GetQueryResultsResponse)
  clock : Clock := {}
  now : Nat := 0
  /-- The calls made so far, latest first. -/
  calls : List TimedCall := []
  started : Nat := 0
  polled : Nat := 0
  stopped : Nat := 0
  attempts : Nat := 0
  /-- The signal of the caller; `none` for a caller that cannot be interrupted. -/
  interrupt : Option Signal := none

namespace Line

/-- The call is noted and, if the reply says so, the signal is fired. -/
def begin (line : Line) (call : Call) (interrupts : Bool) : Line :=
  { line with
    calls := ⟨line.now, call⟩ :: line.calls
    interrupt := line.interrupt.map fun signal =>
      if interrupts then signal.fireAt line.now else signal }

def wait (line : Line) (delay : Nat) : Line := { line with now := line.now + delay }

def ask {ε α : Type} (line : Line) (call : Call) (reply : Reply ε α) : Except ε α × Line :=
  (reply.result, (line.begin call reply.interrupts).wait reply.delay)

def interruptedBy (line : Line) (instant : Nat) : Bool :=
  match line.interrupt with
  | some signal => signal.firedBy instant
  | none => false

/-- The instant at which the signal is fired; the present, if nobody fires it. -/
def firing (line : Line) : Nat := (line.interrupt.bind Signal.firesAt).getD line.now

def advanceTo (line : Line) (instant : Nat) : Line := { line with now := max line.now instant }

/-- The instant at which a time that begins now is over, if the clock lasts so long. -/
def deadline? (line : Line) (time : Duration) : Option Nat :=
  line.clock.instant? (line.now + time.ticks)

theorem deadline?_eq_some_iff {line : Line} {time : Duration} {instant : Nat} :
    line.deadline? time = some instant ↔
      instant = line.now + time.ticks ∧ line.now + time.ticks < line.clock.limit :=
  Clock.instant?_eq_some_iff

theorem deadline?_eq_none_iff {line : Line} {time : Duration} :
    line.deadline? time = none ↔ line.clock.limit ≤ line.now + time.ticks :=
  Clock.instant?_eq_none_iff

def startQuery (line : Line) (request : Message.StartQueryRequest) :
    Except TransportError Message.StartQueryResponse × Line :=
  { line with started := line.started + 1 }.ask (.startQuery request)
    (line.service.start line.started)

def getQueryExecution (line : Line) (queryId : String) :
    Except TransportError Message.GetQueryExecutionResponse × Line :=
  { line with polled := line.polled + 1 }.ask (.getQueryExecution queryId)
    (line.service.execution line.polled queryId)

def stopQuery (line : Line) (queryId : String) : Except TransportError Unit × Line :=
  { line with stopped := line.stopped + 1 }.ask (.stopQuery queryId)
    (line.service.stop line.stopped)

def exhausted (line : Line) : Reply TransportError Message.GetQueryResultsResponse :=
  { result := .error line.service.noPage }

def getQueryResults (line : Line) (request : Message.GetQueryResultsRequest) :
    Except TransportError Message.GetQueryResultsResponse × Line :=
  match line.pages with
  | [] => line.ask (.getQueryResults request) line.exhausted
  | reply :: pages => { line with pages := pages }.ask (.getQueryResults request) reply

def fixedClient : Client := ⟨0⟩

/-- A client is asked of the provider. A provider that always has one is not called. -/
def assumeRole (line : Line) (roleArn sessionLabel region : String) :
    Except ConnectionError Client × Line :=
  match line.service.credentials with
  | none => (.ok fixedClient, line)
  | some replies =>
    { line with attempts := line.attempts + 1 }.ask (.assumeRole roleArn sessionLabel region)
      (replies line.attempts)

end Line

end RemoteQuery
