import RemoteQuery.Proofs.Execution

/-!
# The rows of a result, once each

From an execution that went well until the next statement is submitted or the cursor is closed, the
rows that have been handed out and those that are still pending make up what the pages delivered:
the rows of the first page without its header, and all rows of the later pages. Replies that are
errors or malformed may come at any place among the pages. It is the pages that have come in so far
that count; what the service would have sent on a request that was never made is left open.
-/
namespace RemoteQuery

/-- The rows of a first page. Its leading row is no data if there are columns and the row repeats
their names. -/
def ResultPage.dataRows (page : ResultPage) : List Cells :=
  if page.columns ≠ [] ∧
      page.rows.head? = some (page.columns.map fun column => some column.name) then
    page.rows.tail
  else page.rows

theorem ResultPage.dropHeader_eq_dataRows (page : ResultPage) :
    dropHeader page.columns page.rows = page.dataRows := by
  unfold dropHeader dataRows
  cases page.rows with
  | nil => simp
  | cons first rest =>
    have header : isHeaderRow page.columns first = true ↔
        page.columns ≠ [] ∧ first = page.columns.map fun column => some column.name := by
      simp [isHeaderRow]
    by_cases h : isHeaderRow page.columns first = true
    · rw [if_pos (by simpa using header.mp h)]
      simp [h]
    · rw [if_neg (by simpa using mt header.mpr h)]
      simp [h]

/-- The rows that the pages of one result deliver. -/
def delivered : List ResultPage → List Cells
  | [] => []
  | first :: later => first.dataRows ++ later.flatMap ResultPage.rows

theorem delivered_append (first : ResultPage) (later more : List ResultPage) :
    delivered (first :: (later ++ more)) =
      delivered (first :: later) ++ more.flatMap ResultPage.rows := by
  simp [delivered]

namespace QueryCursor

/-- The action leaves the result set where it is: the cursor is not closed and no statement gets
past the checks before its submission. -/
def Keeps (cursor : QueryCursor) (line : Line) : Action → Prop
  | .execute sql => (cursor.refusal? sql line.now).isSome
  | .close => False
  | _ => True

/-- A run that keeps the result set with which it starts. -/
inductive Reading (cursor : QueryCursor) (line : Line) :
    List (Action × Answer) → QueryCursor → Line → Prop
  | start : Reading cursor line [] cursor line
  | act {history : List (Action × Answer)} {current later : QueryCursor} {now after : Line}
      {action : Action} {answer : Answer} (run : Reading cursor line history current now)
      (keeps : current.Keeps now action)
      (acted : current.act? now action = some (answer, later, after)) :
      Reading cursor line (history ++ [(action, answer)]) later after

/-- The rows that the answers of a history hand out, in order. -/
inductive HandedOut (columns : List Column) : List (Action × Answer) → List Cells → Prop
  | nothing : HandedOut columns [] []
  | answer {history : List (Action × Answer)} {cells more : List Cells} {action : Action}
      {answer : Answer} (earlier : HandedOut columns history cells)
      (handsOut : answer.HandsOut columns more) :
      HandedOut columns (history ++ [(action, answer)]) (cells ++ more)

theorem acts_keeps {cursor later : QueryCursor} {line after : Line} {action : Action}
    {answer : Answer} (keeps : cursor.Keeps line action) (other : action.isFetch = false)
    (acts : Acts cursor line action answer later after) :
    later.resultSet = cursor.resultSet ∧ later.closed = cursor.closed ∧
      after.pages = line.pages ∧ ∃ result, answer = .done result := by
  cases acts with
  | refused | unheld | signalled | fired | passed | sized | unsized =>
    exact ⟨rfl, rfl, rfl, _, rfl⟩
  | executed _ accepted =>
    rw [Keeps, accepted] at keeps
    cases keeps
  | fetched fetch =>
    rw [fetch] at other
    cases other
  | cancelled _ reaches => exact ⟨rfl, rfl, reaches.pages, _, rfl⟩
  | closed => exact keeps.elim

theorem execute?_opened {cursor opened : QueryCursor} {sql : String} {line after : Line}
    (h : cursor.execute? sql line = some (.ok (), opened, after)) :
    ∃ queryId pageSize page,
      opened.resultSet = some (.ofFirstPage queryId pageSize page) ∧ opened.closed = false ∧
        decodedPages (line.pages.take 1) = [page] ∧ after.pages = line.pages.drop 1 := by
  obtain ⟨_, _, refused, _, _⟩ | ⟨opened, _, _, calls, rfl, _, executed⟩ := execute?_cases h
  · cases refused
  · cases executed with
    | concluded submits reaches concludes onward concluded =>
      cases concluded with
      | @opened _ page _ _ _ _ asks answer =>
        cases concludes with
        | terminal polls =>
          obtain ⟨_, _, rfl⟩ := submits.request
          have pages := (submits.reaches.trans reaches).pages
          have none : countOf .getQueryResults _ = 0 := polls.countOf_eq_zero (by decide)
          rw [countOf_append, none, Nat.zero_add] at pages
          change _ = line.pages at pages
          refine ⟨_, _, page, rfl, opened, ?_, ?_⟩
          · rw [← pages, decodedPages_nextPage, answer]
            rfl
          · rw [onward.pages, asks.countOf_eq_length, pages]
            rfl

/-- The result set of the cursor accounts for the pages: their rows are handed out or pending. -/
structure Streams (line : Line) (first : ResultPage) (later : List ResultPage)
    (history : List (Action × Answer)) (handed : List Cells) (cursor : QueryCursor)
    (set : ResultSet) (now : Line) : Prop where
  used : ∃ replies, line.pages = replies ++ now.pages ∧ decodedPages replies = first :: later
  opened : cursor.closed = false
  holds : cursor.resultSet = some set
  readable : set.closed = false
  columns : set.columns = first.columns
  handedOut : HandedOut first.columns history handed
  rows : handed ++ set.pending = delivered (first :: later)
  counted : set.rowsReturned = handed.length
  nextToken : (first :: later).getLast?.map ResultPage.nextToken = some set.nextToken

theorem streams_execute {cursor opened : QueryCursor} {sql : String} {line start : Line}
    (executed : cursor.execute? sql line = some (.ok (), opened, start)) :
    ∃ first set, Streams line first [] [] [] opened set start := by
  obtain ⟨queryId, pageSize, page, holds, opened, decoded, left⟩ := execute?_opened executed
  refine ⟨page, _, ⟨line.pages.take 1, ?_, decoded⟩, opened, holds, rfl, rfl, .nothing, ?_, rfl,
    rfl⟩
  · rw [left, List.take_append_drop]
  · rw [List.nil_append, delivered, List.flatMap_nil, List.append_nil]
    exact page.dropHeader_eq_dataRows

theorem Streams.served {line now after : Line} {first : ResultPage} {later pages : List ResultPage}
    {history : List (Action × Answer)} {handed cells : List Cells} {cursor : QueryCursor}
    {set last : ResultSet} {action : Action} {answer : Answer}
    (h : Streams line first later history handed cursor set now)
    (delivers : now.Delivers set.queryId pages after) (yields : set.Yields pages cells last)
    (handsOut : answer.HandsOut set.columns cells) :
    Streams line first (later ++ pages) (history ++ [(action, answer)]) (handed ++ cells)
      ({ cursor with resultSet := some last }.detach after) last after where
  used := by
    obtain ⟨replies, used, decoded⟩ := h.used
    obtain ⟨calls, reaches, requests, came⟩ := delivers
    have left := reaches.pages
    rw [requests.countOf_eq_length] at left
    refine ⟨replies ++ now.pages.take calls.length, ?_, ?_⟩
    · rw [left, List.append_assoc, List.take_append_drop, used]
    · rw [decodedPages_append, decoded, came, List.cons_append]
  opened := h.opened
  holds := rfl
  readable := yields.closed.trans h.readable
  columns := yields.columns.trans h.columns
  handedOut := .answer h.handedOut (h.columns ▸ handsOut)
  rows := by rw [List.append_assoc, yields.rows, ← List.append_assoc, h.rows, delivered_append]
  counted := by rw [yields.counted, h.counted, List.length_append]
  nextToken := by
    have before := h.nextToken
    rw [yields.nextToken, ← List.cons_append, List.getLast?_append]
    cases pages.getLast? with
    | none => exact before
    | some page => rfl

theorem Streams.kept {line now after : Line} {first : ResultPage} {later : List ResultPage}
    {history : List (Action × Answer)} {handed : List Cells} {cursor reached : QueryCursor}
    {set : ResultSet} {action : Action} {answer : Answer}
    (h : Streams line first later history handed cursor set now)
    (sameSet : reached.resultSet = cursor.resultSet) (sameClosed : reached.closed = cursor.closed)
    (samePages : after.pages = now.pages) (handsOut : answer.HandsOut first.columns []) :
    Streams line first later (history ++ [(action, answer)]) handed reached set after where
  used := by
    rw [samePages]
    exact h.used
  opened := sameClosed.trans h.opened
  holds := sameSet.trans h.holds
  readable := h.readable
  columns := h.columns
  handedOut := by
    rw [← List.append_nil handed]
    exact .answer h.handedOut handsOut
  rows := h.rows
  counted := h.counted
  nextToken := h.nextToken

theorem streams_act {line now after : Line} {first : ResultPage} {later : List ResultPage}
    {history : List (Action × Answer)} {handed : List Cells} {cursor reached : QueryCursor}
    {set : ResultSet} {action : Action} {answer : Answer}
    (h : Streams line first later history handed cursor set now) (keeps : cursor.Keeps now action)
    (acted : cursor.act? now action = some (answer, reached, after)) :
    ∃ more cells last,
      Streams line first (later ++ more) (history ++ [(action, answer)]) (handed ++ cells) reached
        last after ∧
      (answer.ReportsEnd reached.options.arraySize action →
        last.pending = [] ∧ last.nextToken = none) := by
  have sound : ∀ found, cursor.resultSet = some found → found.closed = false := by
    intro found holds
    rw [h.holds] at holds
    cases holds
    exact h.readable
  have acts := act?_acts sound acted
  cases fetch : action.isFetch with
  | true =>
    cases act?_fetched fetch sound acted with
    | closed closed =>
      rw [h.opened] at closed
      cases closed
    | missing _ missing =>
      rw [h.holds] at missing
      cases missing
    | served _ holds serves =>
      rw [h.holds] at holds
      cases holds
      obtain ⟨delivers, yields, handsOut, ended⟩ := serves
      exact ⟨_, _, _, h.served delivers yields handsOut, ended⟩
  | false =>
    obtain ⟨sameSet, sameClosed, samePages, result, rfl⟩ := acts_keeps keeps fetch acts
    refine ⟨[], [], set, ?_, ?_⟩
    · rw [List.append_nil, List.append_nil]
      exact h.kept sameSet sameClosed samePages rfl
    · intro ended
      cases action <;> exact ended.elim

/-- While a result is read, each row of its pages is handed out once and in order: what has been
handed out and what is pending is what was delivered, and an answer that reports the end has left
nothing behind. -/
theorem rows_handed_out_once {cursor opened current : QueryCursor} {sql : String}
    {line start now : Line} {history : List (Action × Answer)}
    (executed : cursor.execute? sql line = some (.ok (), opened, start))
    (reading : Reading opened start history current now) :
    ∃ replies first later handed set,
      line.pages = replies ++ now.pages ∧ decodedPages replies = first :: later ∧
      current.resultSet = some set ∧ HandedOut first.columns history handed ∧
      handed ++ set.pending = delivered (first :: later) ∧
      current.rowNumber = some handed.length ∧
      ∀ earlier action answer, history = earlier ++ [(action, answer)] →
        answer.ReportsEnd current.options.arraySize action →
        handed = delivered (first :: later) ∧
          (first :: later).getLast?.map ResultPage.nextToken = some none := by
  have account : ∃ first later handed set,
      Streams line first later history handed current set now ∧
      ∀ earlier action answer, history = earlier ++ [(action, answer)] →
        answer.ReportsEnd current.options.arraySize action →
        set.pending = [] ∧ set.nextToken = none := by
    induction reading with
    | start =>
      obtain ⟨first, set, streams⟩ := streams_execute executed
      exact ⟨first, [], [], set, streams, fun earlier _ _ impossible => by simp at impossible⟩
    | act _ keeps acted ih =>
      obtain ⟨first, later, handed, set, streams, _⟩ := ih
      obtain ⟨more, cells, last, onward, ended⟩ := streams_act streams keeps acted
      refine ⟨first, later ++ more, handed ++ cells, last, onward, ?_⟩
      intro earlier action answer same
      obtain ⟨rfl, rfl, rfl⟩ : _ ∧ _ ∧ _ := by simpa using List.append_inj' same rfl
      exact ended
  obtain ⟨first, later, handed, set, streams, ended⟩ := account
  obtain ⟨replies, used, decoded⟩ := streams.used
  refine ⟨replies, first, later, handed, set, used, decoded, streams.holds, streams.handedOut,
    streams.rows, ?_, ?_⟩
  · rw [rowNumber, streams.holds, Option.map_some, streams.counted]
  · intro earlier action answer same reports
    obtain ⟨empty, finished⟩ := ended earlier action answer same reports
    constructor
    · rw [← streams.rows, empty, List.append_nil]
    · rw [streams.nextToken, finished]

theorem rows_handed_out_once_prompt :
    ∃ current now history replies first later handed,
      Reading openedCursor openedLine history current now ∧
      history.map Prod.fst = [.fetchOne, .cancel, .fetchAll] ∧
      promptLine.pages = replies ++ now.pages ∧ decodedPages replies = first :: later ∧
      HandedOut first.columns history handed ∧ handed = delivered (first :: later) ∧
      current.rowNumber = some 2 := by
  have reading : Reading openedCursor openedLine
      ([] ++ [(.fetchOne, _)] ++ [(.cancel, _)] ++ [(.fetchAll, _)]) _ _ :=
    .act (.act (.act .start trivial rfl) trivial rfl) trivial rfl
  obtain ⟨replies, first, later, handed, _, used, decoded, _, handedOut, _, number, ended⟩ :=
    rows_handed_out_once plainCursor_execute reading
  obtain ⟨complete, _⟩ := ended [_, _] _ _ rfl trivial
  exact ⟨_, _, _, replies, first, later, handed, reading, rfl, used, decoded, handedOut, complete,
    rfl⟩

end QueryCursor

end RemoteQuery
