import RemoteQuery.Proofs.RowByRow
import RemoteQuery.Proofs.RowStream

/-!
# Page requests

A result set is fetched from and closed in any order. Its requests are chained if each carries the
token of the latest page that came in before it, and no request follows the last page. Calls are
given latest first, so that the rest of a list is what came before. The requests are numbered with
the replies of the line from which the result set was opened; a request beyond the last of them has
been refused.
-/
namespace RemoteQuery

/-- The token in the latest page among the replies. -/
def latestToken (replies : List (Reply TransportError Message.GetQueryResultsResponse)) :
    Option String :=
  (decodedPages replies).getLast?.bind ResultPage.nextToken

namespace ResultSet

inductive Fetch
  | one
  | many (count : Nat)
  | all
  deriving DecidableEq, Repr

def Fetch.demand : Fetch → Demand
  | one => .rows 1
  | many count => .rows count
  | all => .all

def Fetch.run (fetch : Fetch) (set : ResultSet) (line : Line) :
    Except Error (List Row) × ResultSet × Line :=
  match fetch with
  | one =>
    let (found, set, line) := set.fetchOne line
    (found.map Option.toList, set, line)
  | many count => set.fetch (.rows count) line
  | all => set.fetch .all line

/-- What the holder of a result set can do with it. -/
inductive Access
  | fetch (fetching : Fetch)
  | arrow
  | close
  deriving DecidableEq, Repr

namespace Access

def demand? : Access → Option Demand
  | .fetch fetching => some fetching.demand
  | arrow => some .all
  | close => none

def apply (access : Access) : ResultSet × Line → ResultSet × Line
  | (set, line) =>
    match access with
    | .fetch fetching => (fetching.run set line).2
    | arrow => (QueryCursor.arrowOf set line).2
    | close => (set.close, line)

def run (accesses : List Access) (start : ResultSet × Line) : ResultSet × Line :=
  accesses.foldl (fun found access => access.apply found) start

end Access

/-- Each of the calls asks for the page to which the latest page before it points. There is such a
page, except for the first call. -/
def Chained (queryId : String) (pageSize : Nat)
    (replies : List (Reply TransportError Message.GetQueryResultsResponse)) :
    List TimedCall → Prop
  | [] => True
  | timed :: earlier =>
    Chained queryId pageSize replies earlier ∧
      timed.call =
        .getQueryResults ⟨queryId, pageSize, latestToken (replies.take earlier.length)⟩ ∧
      ∀ page ∈ decodedPages (replies.take earlier.length), page.nextToken ≠ none

/-- Each of the calls is made while the demand is not met by the rows that were pending before the
calls and those that came in since. -/
def Lazy (demand : Demand) (pending : List Cells)
    (replies : List (Reply TransportError Message.GetQueryResultsResponse)) :
    List TimedCall → Prop
  | [] => True
  | _ :: earlier =>
    Lazy demand pending replies earlier ∧
      demand.metBy (pending ++
        (decodedPages (replies.take earlier.length)).flatMap ResultPage.rows).length = false

theorem Chained.onlyPageRequests {queryId : String} {pageSize : Nat}
    {replies : List (Reply TransportError Message.GetQueryResultsResponse)}
    {calls : List TimedCall} (h : Chained queryId pageSize replies calls) :
    OnlyPageRequests queryId calls := by
  induction calls with
  | nil => exact nofun
  | cons timed earlier ih =>
    obtain ⟨chained, call, _⟩ := h
    intro other member
    rcases List.mem_cons.mp member with rfl | member
    · rw [call]
      exact ⟨rfl, rfl⟩
    · exact ih chained other member

theorem Chained.tokens {queryId : String} {pageSize : Nat}
    {replies : List (Reply TransportError Message.GetQueryResultsResponse)}
    {calls : List TimedCall} (h : Chained queryId pageSize replies calls)
    (left : latestToken (replies.take calls.length) ≠ none) :
    ∀ page ∈ decodedPages (replies.take calls.length), page.nextToken ≠ none := by
  cases calls with
  | nil => simp [decodedPages]
  | cons timed earlier =>
    obtain ⟨_, _, tokens⟩ := h
    -- The latest page has the token that is left; the others were there at the latest request.
    rw [latestToken, List.length_cons, decodedPages_take_succ] at left
    rw [List.length_cons, decodedPages_take_succ]
    have single := decodedPages_take_one (replies.drop earlier.length)
    intro page member
    rcases List.mem_append.mp member with member | member
    · exact tokens page member
    · rw [single, Option.mem_toList] at member
      rw [single, member] at left
      simpa using left

theorem Chained.length_le {queryId : String} {pageSize count : Nat}
    {replies : List (Reply TransportError Message.GetQueryResultsResponse)}
    {calls : List TimedCall} (h : Chained queryId pageSize replies calls)
    (last : ∃ page ∈ decodedPages (replies.take count), page.nextToken = none) :
    calls.length ≤ count := by
  obtain ⟨page, member, final⟩ := last
  induction calls with
  | nil => exact Nat.zero_le count
  | cons timed earlier ih =>
    obtain ⟨chained, _, tokens⟩ := h
    have most := ih chained
    have other : earlier.length ≠ count := by
      rintro rfl
      exact tokens page member final
    rw [List.length_cons]
    omega

/-- How many calls there are says which calls they are. -/
theorem Chained.calls_eq {queryId : String} {pageSize : Nat}
    {replies : List (Reply TransportError Message.GetQueryResultsResponse)}
    {calls others : List TimedCall} (h : Chained queryId pageSize replies calls)
    (h' : Chained queryId pageSize replies others) (same : calls.length = others.length) :
    calls.map TimedCall.call = others.map TimedCall.call := by
  induction calls generalizing others with
  | nil =>
    cases others with
    | nil => rfl
    | cons => cases same
  | cons timed earlier ih =>
    cases others with
    | nil => cases same
    | cons other before =>
      have same : earlier.length = before.length := Nat.succ.inj same
      obtain ⟨chained, call, _⟩ := h
      obtain ⟨chained', call', _⟩ := h'
      rw [List.map_cons, List.map_cons, ih chained chained' same, call, call', same]

/-- A result set that was opened on `line` has made the calls and is ready for the next of them. -/
structure Chains (line : Line) (queryId : String) (pageSize : Nat) (calls : List TimedCall)
    (set : ResultSet) (now : Line) : Prop where
  reaches : line.Reaches calls now
  chained : Chained queryId pageSize line.pages calls
  queryId : set.queryId = queryId
  pageSize : set.pageSize = pageSize
  nextToken : set.closed = false → set.nextToken = latestToken (line.pages.take calls.length)

theorem Chains.pages {line now : Line} {queryId : String} {pageSize : Nat}
    {calls : List TimedCall} {set : ResultSet} (h : Chains line queryId pageSize calls set now) :
    now.pages = line.pages.drop calls.length := by
  rw [h.reaches.pages, h.chained.onlyPageRequests.countOf_eq_length]

end ResultSet

end RemoteQuery
