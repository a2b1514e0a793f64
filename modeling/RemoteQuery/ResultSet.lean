import RemoteQuery.Line
import RemoteQuery.ResultPage

/-!
# Result sets

An open result set hands out the rows of a query in order and asks for a page only when it needs
one. Rows that have come in but have not been handed out are pending. A fetch first loads pages
until its demand is met, no page is left, or a request fails; only then are rows taken from the
front. So a fetch that fails hands out nothing and loses nothing.
-/
namespace RemoteQuery

inductive Demand
  | rows (count : Nat)
  | all
  deriving DecidableEq, Repr

namespace Demand

def metBy (demand : Demand) (available : Nat) : Bool :=
  match demand with
  | rows count => count ≤ available
  | all => false

def take (demand : Demand) (pending : List Cells) : List Cells :=
  match demand with
  | rows count => pending.take count
  | all => pending

def drop (demand : Demand) (pending : List Cells) : List Cells :=
  match demand with
  | rows count => pending.drop count
  | all => []

theorem take_append_drop (demand : Demand) (pending : List Cells) :
    demand.take pending ++ demand.drop pending = pending := by
  cases demand <;> simp [take, drop]

theorem metBy_rows_eq_false_iff {count available : Nat} :
    (rows count).metBy available = false ↔ available < count := by
  simp [metBy]

/-- A demand that is not met takes all there is. -/
theorem take_of_unmet {demand : Demand} {pending : List Cells}
    (short : demand.metBy pending.length = false) : demand.take pending = pending := by
  cases demand with
  | all => rfl
  | rows count =>
    have fewer := metBy_rows_eq_false_iff.mp short
    exact List.take_of_length_le (by omega)

theorem drop_of_unmet {demand : Demand} {pending : List Cells}
    (short : demand.metBy pending.length = false) : demand.drop pending = [] := by
  cases demand with
  | all => rfl
  | rows count =>
    have fewer := metBy_rows_eq_false_iff.mp short
    exact List.drop_of_length_le (by omega)

end Demand

structure ResultSet where
  queryId : String
  pageSize : Nat
  columns : List Column
  pending : List Cells
  nextToken : Option String
  updateCount : Option Int
  pagesFetched : Nat
  rowsReturned : Nat
  closed : Bool := false
  deriving DecidableEq, Repr

namespace ResultSet

/-- The largest page that the service gives. -/
def maxPageSize : Nat := 1000

def clampPageSize (size : Nat) : Nat := max 1 (min size maxPageSize)

def pageOf : Except TransportError Message.GetQueryResultsResponse → Except Error ResultPage
  | .error source => .error (.operational (.transport .getQueryResults source))
  | .ok response =>
    match ResultPage.ofResponse response with
    | .ok page => .ok page
    | .error cause => .error (.data cause)

def fetchPage (line : Line) (queryId : String) (pageSize : Nat) (token : Option String) :
    Except Error ResultPage × Line :=
  let (reply, line) := line.getQueryResults ⟨queryId, pageSize, token⟩
  (pageOf reply, line)

def ofFirstPage (queryId : String) (pageSize : Nat) (page : ResultPage) : ResultSet :=
  { queryId, pageSize
    columns := page.columns
    pending := dropHeader page.columns page.rows
    nextToken := page.nextToken
    updateCount := page.updateCount
    pagesFetched := 1
    rowsReturned := 0 }

def openFor (line : Line) (queryId : String) (pageSize : Nat) : Except Error ResultSet × Line :=
  if queryId.isEmpty then (.error (.programming .missingQueryId), line)
  else
    let size := clampPageSize pageSize
    match fetchPage line queryId size none with
    | (.error error, line) => (.error error, line)
    | (.ok page, line) => (.ok (ofFirstPage queryId size page), line)

def append (set : ResultSet) (page : ResultPage) : ResultSet :=
  { set with
    pending := set.pending ++ page.rows
    nextToken := page.nextToken
    pagesFetched := set.pagesFetched + 1 }

/-- The token of the page that a demand still needs. There is none if enough rows are pending or no
page is left. -/
def wanted? (demand : Demand) (set : ResultSet) : Option String :=
  if demand.metBy set.pending.length then none else set.nextToken

/-- Loads pages for a demand, where `pages` are the replies that are still to come on the line. -/
def loadFrom (demand : Demand) (set : ResultSet) (line : Line) :
    (pages : List (Reply TransportError Message.GetQueryResultsResponse)) →
      Except Error Unit × ResultSet × Line
  | [] =>
    match set.wanted? demand with
    | none => (.ok (), set, line)
    | some token =>
      let (page, line) :=
        fetchPage { line with pages := [] } set.queryId set.pageSize (some token)
      (page.map fun _ => (), set, line)
  | reply :: pages =>
    match set.wanted? demand with
    | none => (.ok (), set, line)
    | some token =>
      match
        fetchPage { line with pages := reply :: pages } set.queryId set.pageSize (some token) with
      | (.error error, line) => (.error error, set, line)
      | (.ok page, line) => loadFrom demand (set.append page) line pages

def load (demand : Demand) (set : ResultSet) (line : Line) :
    Except Error Unit × ResultSet × Line :=
  loadFrom demand set line line.pages

def takeRows (demand : Demand) (set : ResultSet) : List Row × ResultSet :=
  let taken := demand.take set.pending
  (taken.map fun values => ⟨set.columns, values⟩,
    { set with
      pending := demand.drop set.pending
      rowsReturned := set.rowsReturned + taken.length })

/-- Rows that were handed out are put back. -/
def unread (set : ResultSet) (rows : List Row) : ResultSet :=
  { set with
    pending := rows.map Row.values ++ set.pending
    rowsReturned := set.rowsReturned - rows.length }

def fetch (demand : Demand) (set : ResultSet) (line : Line) :
    Except Error (List Row) × ResultSet × Line :=
  if set.closed then (.error (.programming .cursorClosed), set, line)
  else
    match load demand set line with
    | (.error error, set, line) => (.error error, set, line)
    | (.ok _, set, line) =>
      let (rows, set) := set.takeRows demand
      (.ok rows, set, line)

def fetchOne (set : ResultSet) (line : Line) : Except Error (Option Row) × ResultSet × Line :=
  let (rows, set, line) := set.fetch (.rows 1) line
  (rows.map List.head?, set, line)

def close (set : ResultSet) : ResultSet :=
  { set with closed := true, pending := [], nextToken := none }

def describe (set : ResultSet) : String :=
  "ResultSetCursor \x7b query_id: " ++ Text.quoted set.queryId
    ++ ", columns: " ++ toString set.columns.length
    ++ ", buffered: " ++ toString set.pending.length
    ++ ", has_next_page: " ++ toString set.nextToken.isSome
    ++ ", rows_returned: " ++ toString set.rowsReturned
    ++ ", closed: " ++ toString set.closed ++ " \x7d"

/-- A page request takes one reply off the line, so that loading ends. -/
theorem fetchPage_pages (line : Line) (queryId : String) (pageSize : Nat) (token : Option String) :
    (fetchPage line queryId pageSize token).2.pages = line.pages.tail := by
  cases pages : line.pages <;>
    simp [fetchPage, Line.getQueryResults, pages, Line.ask, Line.begin, Line.wait]

theorem fetchPage_exhausted {line : Line} (h : line.pages = []) (queryId : String)
    (pageSize : Nat) (token : Option String) :
    ∃ error, (fetchPage line queryId pageSize token).1 = .error error := by
  simp [fetchPage, Line.getQueryResults, h, Line.ask, Line.exhausted, pageOf]

/-- One step of loading: nothing if no page is wanted, else a page request. -/
theorem load_eq (demand : Demand) (set : ResultSet) (line : Line) :
    load demand set line =
      match set.wanted? demand with
      | none => (.ok (), set, line)
      | some token =>
        match fetchPage line set.queryId set.pageSize (some token) with
        | (.error error, line) => (.error error, set, line)
        | (.ok page, line) => load demand (set.append page) line := by
  unfold load
  cases pages : line.pages with
  | nil =>
    have whole : { line with pages := [] } = line := by rw [← pages]
    rw [loadFrom, whole]
    cases set.wanted? demand with
    | none => rfl
    | some token =>
      obtain ⟨error, failed⟩ :=
        fetchPage_exhausted pages set.queryId set.pageSize (some token)
      simp only
      generalize fetchPage line set.queryId set.pageSize (some token) = found at failed
      obtain ⟨_, after⟩ := found
      subst failed
      rfl
  | cons reply rest =>
    have whole : { line with pages := reply :: rest } = line := by rw [← pages]
    rw [loadFrom, whole]
    cases set.wanted? demand with
    | none => rfl
    | some token =>
      have left := fetchPage_pages line set.queryId set.pageSize (some token)
      simp only
      generalize fetchPage line set.queryId set.pageSize (some token) = found at left
      obtain ⟨_ | page, after⟩ := found
      · rfl
      · have left : after.pages = rest := by simpa [pages] using left
        subst left
        rfl

end ResultSet

end RemoteQuery
