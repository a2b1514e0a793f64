import RemoteQuery.Proofs.Transcript
import RemoteQuery.ResultSet

/-!
# Pages that are delivered

The pages that a line delivers are those that could be decoded of the replies between two of its
states. A result set yields their cells in order, some of them handed out and the rest held back.
-/
namespace RemoteQuery

/-- The pages among the replies to page requests. A reply that is an error or malformed is none. -/
def decodedPages (replies : List (Reply TransportError Message.GetQueryResultsResponse)) :
    List ResultPage :=
  replies.filterMap fun reply => (ResultSet.pageOf reply.result).toOption

/-- The reply to the next page request. -/
def Line.nextPage (line : Line) : Reply TransportError Message.GetQueryResultsResponse :=
  line.pages.headD line.exhausted

theorem decodedPages_append
    (replies more : List (Reply TransportError Message.GetQueryResultsResponse)) :
    decodedPages (replies ++ more) = decodedPages replies ++ decodedPages more :=
  List.filterMap_append

theorem decodedPages_take_succ
    (replies : List (Reply TransportError Message.GetQueryResultsResponse)) (count : Nat) :
    decodedPages (replies.take (count + 1)) =
      decodedPages (replies.take count) ++ decodedPages ((replies.drop count).take 1) := by
  rw [List.take_add, decodedPages_append]

theorem decodedPages_take_one
    (replies : List (Reply TransportError Message.GetQueryResultsResponse)) :
    decodedPages (replies.take 1) =
      (replies.head?.bind fun reply => (ResultSet.pageOf reply.result).toOption).toList := by
  cases replies with
  | nil => rfl
  | cons reply rest =>
    change [reply].filterMap _ = (ResultSet.pageOf reply.result).toOption.toList
    cases found : ResultSet.pageOf reply.result <;> simp [found, Except.toOption]

theorem decodedPages_nextPage (line : Line) :
    decodedPages (line.pages.take 1) =
      (ResultSet.pageOf line.nextPage.result).toOption.toList := by
  rw [decodedPages_take_one, Line.nextPage]
  cases line.pages <;> rfl

def OnlyPageRequests (queryId : String) (calls : List TimedCall) : Prop :=
  ∀ timed ∈ calls, timed.call.operation? = some .getQueryResults ∧
    timed.call.queryId? = some queryId

theorem OnlyPageRequests.countOf_eq_length {queryId : String} {calls : List TimedCall}
    (h : OnlyPageRequests queryId calls) : countOf .getQueryResults calls = calls.length := by
  rw [countOf, List.countP_eq_length]
  intro timed member
  simp [(h timed member).1]

theorem OnlyPageRequests.countOf_eq_zero {queryId : String} {calls : List TimedCall}
    (h : OnlyPageRequests queryId calls) {operation : Operation}
    (other : operation ≠ .getQueryResults) : countOf operation calls = 0 := by
  rw [countOf, List.countP_eq_zero]
  intro timed member
  simp [(h timed member).1, other.symm]

/-- Page requests lead from one line to the other, and the pages are what came of them. -/
def Line.Delivers (before : Line) (queryId : String) (pages : List ResultPage) (after : Line) :
    Prop :=
  ∃ calls, before.Reaches calls after ∧ OnlyPageRequests queryId calls ∧
    decodedPages (before.pages.take calls.length) = pages

theorem Line.Delivers.refl (line : Line) (queryId : String) : line.Delivers queryId [] line :=
  ⟨[], .refl line, nofun, rfl⟩

theorem Line.Delivers.trans {before middle after : Line} {queryId : String}
    {pages more : List ResultPage} (first : before.Delivers queryId pages middle)
    (second : middle.Delivers queryId more after) :
    before.Delivers queryId (pages ++ more) after := by
  obtain ⟨calls, reaches, requests, decoded⟩ := first
  obtain ⟨later, onward, others, rest⟩ := second
  refine ⟨later ++ calls, reaches.trans onward, ?_, ?_⟩
  · intro timed member
    rcases List.mem_append.mp member with member | member
    · exact others timed member
    · exact requests timed member
  · rw [reaches.pages, requests.countOf_eq_length] at rest
    rw [← decoded, ← rest, List.length_append, Nat.add_comm, List.take_add]
    exact List.filterMap_append

namespace ResultSet

/-- The pages came into the result set, and the rows were handed out. -/
structure Yields (before : ResultSet) (pages : List ResultPage) (cells : List Cells)
    (after : ResultSet) : Prop where
  rows : cells ++ after.pending = before.pending ++ pages.flatMap ResultPage.rows
  counted : after.rowsReturned = before.rowsReturned + cells.length
  nextToken : after.nextToken = (pages.getLast?.map ResultPage.nextToken).getD before.nextToken
  fetched : after.pagesFetched = before.pagesFetched + pages.length
  queryId : after.queryId = before.queryId
  columns : after.columns = before.columns
  pageSize : after.pageSize = before.pageSize
  updateCount : after.updateCount = before.updateCount
  closed : after.closed = before.closed

theorem Yields.refl (set : ResultSet) : set.Yields [] [] set :=
  ⟨by simp, rfl, rfl, rfl, rfl, rfl, rfl, rfl, rfl⟩

theorem Yields.trans {before middle after : ResultSet} {pages more : List ResultPage}
    {cells others : List Cells} (first : before.Yields pages cells middle)
    (second : middle.Yields more others after) :
    before.Yields (pages ++ more) (cells ++ others) after where
  rows := by
    rw [List.append_assoc, second.rows, ← List.append_assoc, first.rows, List.flatMap_append,
      List.append_assoc]
  counted := by rw [second.counted, first.counted, List.length_append, Nat.add_assoc]
  nextToken := by
    rw [second.nextToken, first.nextToken, List.getLast?_append]
    cases more.getLast? <;> rfl
  fetched := by rw [second.fetched, first.fetched, List.length_append, Nat.add_assoc]
  queryId := second.queryId.trans first.queryId
  columns := second.columns.trans first.columns
  pageSize := second.pageSize.trans first.pageSize
  updateCount := second.updateCount.trans first.updateCount
  closed := second.closed.trans first.closed

theorem yields_append (set : ResultSet) (page : ResultPage) :
    set.Yields [page] [] (set.append page) :=
  ⟨by simp [append], rfl, rfl, rfl, rfl, rfl, rfl, rfl, rfl⟩

theorem yields_takeRows (demand : Demand) (set : ResultSet) :
    set.Yields [] (demand.take set.pending) (set.takeRows demand).2 :=
  ⟨by simp [takeRows, Demand.take_append_drop], rfl, rfl, rfl, rfl, rfl, rfl, rfl, rfl⟩

/-- Rows that are put back were never handed out. -/
theorem yields_unread {before after : ResultSet} {pages : List ResultPage} {cells : List Cells}
    (h : before.Yields pages cells after) (columns : List Column) :
    before.Yields pages [] (after.unread (cells.map (Row.mk columns))) where
  rows := by
    rw [← h.rows]
    simp [unread, Function.comp_def]
  counted := by simp [unread, h.counted]
  nextToken := h.nextToken
  fetched := h.fetched
  queryId := h.queryId
  columns := h.columns
  pageSize := h.pageSize
  updateCount := h.updateCount
  closed := h.closed

theorem fetchPage_reaches (line : Line) (queryId : String) (pageSize : Nat)
    (token : Option String) :
    line.Reaches [⟨line.now, .getQueryResults ⟨queryId, pageSize, token⟩⟩]
      (fetchPage line queryId pageSize token).2 :=
  line.reaches_getQueryResults _

theorem fetchPage_reached {line after : Line} {queryId : String} {pageSize : Nat}
    {token : Option String} {answer : Except Error ResultPage}
    (h : fetchPage line queryId pageSize token = (answer, after)) :
    line.Reaches [⟨line.now, .getQueryResults ⟨queryId, pageSize, token⟩⟩] after := by
  have reaches := fetchPage_reaches line queryId pageSize token
  rwa [h] at reaches

theorem fetchPage_answer (line : Line) (queryId : String) (pageSize : Nat)
    (token : Option String) :
    (fetchPage line queryId pageSize token).1 = pageOf line.nextPage.result := by
  unfold fetchPage Line.getQueryResults Line.nextPage
  cases line.pages <;> rfl

theorem fetchPage_decoded (line : Line) (queryId : String) (pageSize : Nat)
    (token : Option String) :
    decodedPages (line.pages.take 1) =
      (fetchPage line queryId pageSize token).1.toOption.toList := by
  rw [fetchPage_answer, decodedPages_nextPage]

/-- A page that comes is the next of the replies. -/
theorem fetchPage_came {line after : Line} {queryId : String} {pageSize : Nat}
    {token : Option String} {page : ResultPage}
    (h : fetchPage line queryId pageSize token = (.ok page, after)) :
    ∃ reply, line.pages = reply :: after.pages ∧ pageOf reply.result = .ok page := by
  have answer := fetchPage_answer line queryId pageSize token
  have left := fetchPage_pages line queryId pageSize token
  rw [h] at answer left
  cases pages : line.pages with
  | nil =>
    rw [Line.nextPage, pages] at answer
    cases answer
  | cons reply rest =>
    rw [Line.nextPage, pages] at answer
    rw [pages] at left
    exact ⟨reply, congrArg (List.cons reply) left.symm, answer.symm⟩

theorem fetchPage_delivers {line after : Line} {queryId : String} {pageSize : Nat}
    {token : Option String} {result : Except Error ResultPage}
    (h : fetchPage line queryId pageSize token = (result, after)) :
    line.Delivers queryId result.toOption.toList after := by
  have reaches := fetchPage_reaches line queryId pageSize token
  have decoded := fetchPage_decoded line queryId pageSize token
  rw [h] at reaches decoded
  refine ⟨_, reaches, ?_, decoded⟩
  intro timed member
  rw [List.mem_singleton.mp member]
  exact ⟨rfl, rfl⟩

theorem openFor_ok {line start : Line} {queryId : String} {size : Nat} {set : ResultSet}
    (h : openFor line queryId size = (.ok set, start)) :
    ∃ page, fetchPage line queryId (clampPageSize size) none = (.ok page, start) ∧
      set = .ofFirstPage queryId (clampPageSize size) page := by
  unfold openFor at h
  split at h
  · cases h
  · simp only at h
    generalize fetchPage line queryId (clampPageSize size) none = found at h ⊢
    obtain ⟨error | page, after⟩ := found
    · cases h
    · cases h
      exact ⟨page, rfl, rfl⟩

end ResultSet

end RemoteQuery
