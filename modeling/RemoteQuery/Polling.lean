import RemoteQuery.Line
import RemoteQuery.Snapshot

/-!
# Polling

A query is asked for until it is in a terminal state. Three things race: the interrupt signal, the
deadline, and the next poll with its answer; of those due at one instant the one named first wins.
An answer that comes without delay is taken together with its poll. A poll that is under way is
dropped when the signal or the deadline wins, so that the loop also ends if an answer never comes.

At the deadline the query is stopped, whatever comes of that. After an interrupt it is stopped if
the policy says so, and if that went well its state is asked for once more.

There is no result if the deadline is no instant of the clock, if a wait is to begin that would be
over at none, or if more answers come than the loop can count.
-/
namespace RemoteQuery

structure PollPolicy where
  interval : Duration := .ofSeconds 1
  timeout : Duration := .ofSeconds 3600
  cancelOnInterrupt : Bool := true
  deriving DecidableEq, Repr

inductive PollOutcome
  | terminal (snapshot : Snapshot)
  | timedOut (last : Option Snapshot)
  | interrupted (state : Option Snapshot)
  deriving DecidableEq, Repr

namespace Polling

def snapshotOf (queryId : String) :
    Except TransportError Message.GetQueryExecutionResponse → Except Error Snapshot
  | .error source => .error (.operational (.transport .getQueryExecution source))
  | .ok response =>
    match Snapshot.ofResponse queryId response with
    | .ok snapshot => .ok snapshot
    | .error cause => .error (.data cause)

def pollOnce (line : Line) (queryId : String) : Except Error Snapshot × Line :=
  let (reply, line) := line.getQueryExecution queryId
  (snapshotOf queryId reply, line)

/-- What ends a wait: the signal, the deadline, or that its time has elapsed. -/
inductive Winner
  | interrupt
  | deadline
  | elapsed
  deriving DecidableEq, Repr

/-- What ends a wait until an instant, which may never come. -/
def winner (line : Line) (deadline : Nat) (instant : Option Nat) : Winner :=
  if line.interruptedBy ((instant.map (min deadline)).getD deadline) then .interrupt
  else
    match instant with
    | some instant => if deadline ≤ instant then .deadline else .elapsed
    | none => .deadline

inductive Round
  | interrupted
  | deadline
  | answered (result : Except Error Snapshot)
  /-- The wait for the poll would be over at no instant of the clock. -/
  | lost

def waitUntil (line : Line) (deadline : Nat) (instant : Option Nat)
    (follow : Line → Round × Line) : Round × Line :=
  match winner line deadline instant with
  | .interrupt => (.interrupted, line.advanceTo line.firing)
  | .deadline => (.deadline, line.advanceTo deadline)
  | .elapsed => follow (line.advanceTo (instant.getD line.now))

/-- The replies to the polls of a query by the number of the call; `none` for one that never
comes. -/
abbrev Replies := Nat → Option (Reply TransportError Message.GetQueryExecutionResponse)

def poll (replies : Replies) (queryId : String) (deadline : Nat) (line : Line) : Round × Line :=
  let reply? := replies line.polled
  let interrupts := (reply?.map Reply.interrupts).getD false
  let line := { line with polled := line.polled + 1 }.begin (.getQueryExecution queryId) interrupts
  match reply? with
  | none => waitUntil line deadline none fun line => (.deadline, line)
  | some reply =>
    let answer (line : Line) := (Round.answered (snapshotOf queryId reply.result), line)
    if reply.delay = 0 then answer line
    else waitUntil line deadline (some (line.now + reply.delay)) answer

/-- A wait is begun only if neither the signal nor the deadline is due already. -/
def round (replies : Replies) (queryId : String) (deadline pause : Nat) (line : Line) :
    Round × Line :=
  match line.clock.wake? line.now pause with
  | some instant => waitUntil line deadline (some instant) (poll replies queryId deadline)
  | none => waitUntil line deadline (some line.now) fun line => (.lost, line)

/-- How the loop ends; `last` is the snapshot of the last answer that came in time. -/
inductive LoopEnd
  | interrupted
  | deadline (last : Option Snapshot)
  | answered (result : Except Error Snapshot)
  /-- The loop goes beyond the clock or beyond its count, and has no result. -/
  | lost

/-- The most answers that a loop can count. An answer that is an error is not counted. -/
def mostAnswers : Nat := Nat.pow 2 32 - 1

/-- The rounds from one on that waits for `pause`. So many answers as `room` can still be counted.
-/
def loop (replies : Replies) (queryId : String) (deadline interval : Nat)
    (room pause : Nat) (last : Option Snapshot) (line : Line) : LoopEnd × Line :=
  match round replies queryId deadline pause line with
  | (.interrupted, line) => (.interrupted, line)
  | (.deadline, line) => (.deadline last, line)
  | (.lost, line) => (.lost, line)
  | (.answered (.error error), line) => (.answered (.error error), line)
  | (.answered (.ok snapshot), line) =>
    match room with
    | 0 => (.lost, line)
    | room + 1 =>
      if snapshot.isTerminal then (.answered (.ok snapshot), line)
      else loop replies queryId deadline interval room interval (some snapshot) line

def stopInterrupted (line : Line) (queryId : String) : PollOutcome × Line :=
  match line.stopQuery queryId with
  | (.error _, line) => (.interrupted none, line)
  | (.ok _, line) =>
    match pollOnce line queryId with
    | (.ok snapshot, line) => (.interrupted (some snapshot), line)
    | (.error _, line) => (.interrupted none, line)

/-- The replies that a service holds ready for the polls of a query. -/
def serviceReplies (service : Service) (queryId : String) : Replies :=
  fun index => some (service.execution index queryId)

/-- What follows the loop, unless it has no result. -/
def settle? (queryId : String) (policy : PollPolicy) :
    LoopEnd × Line → Option (Except Error PollOutcome × Line)
  | (.lost, _) => none
  | (.answered (.ok snapshot), line) => some (.ok (.terminal snapshot), line)
  | (.answered (.error error), line) => some (.error error, line)
  | (.deadline last, line) =>
    let (_, line) := line.stopQuery queryId
    some (.ok (.timedOut last), line)
  | (.interrupted, line) =>
    if policy.cancelOnInterrupt then
      let (outcome, line) := stopInterrupted line queryId
      some (.ok outcome, line)
    else some (.ok (.interrupted none), line)

def pollUntil? (line : Line) (queryId : String) (policy : PollPolicy) (deadline : Nat) :
    Option (Except Error PollOutcome × Line) :=
  settle? queryId policy <|
    loop (serviceReplies line.service queryId) queryId deadline policy.interval.ticks mostAnswers 0
      none line

/-- Polls until the query is in a terminal state or the timeout of the policy is over. -/
def pollUntilTerminal? (line : Line) (queryId : String) (policy : PollPolicy) :
    Option (Except Error PollOutcome × Line) :=
  (line.deadline? policy.timeout).bind (pollUntil? line queryId policy)

end Polling

end RemoteQuery
