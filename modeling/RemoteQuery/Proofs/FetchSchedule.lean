import RemoteQuery.Proofs.PageChain

/-!
# Schedules of fetches

A result may be read row by row, in pieces of any size, or at once, and a fetch that failed is
followed by others. As long as the reading goes on until a fetch reports the end, all that depends
on the schedule is where the rows are cut: the rows, the requests and the counts at the end are
determined by the replies. A schedule that stops earlier has used up fewer of them, and nothing is
said about it here.
-/
namespace RemoteQuery.ResultSet

/-- The fetch has handed out fewer rows than it might have. -/
def Fetch.ReportsEnd : Fetch → List Row → Prop
  | one, rows => rows = []
  | many count, rows => rows.length < count
  | all, _ => True

/-- Fetches with what came of them, earliest first. -/
inductive Schedule (set : ResultSet) (line : Line) :
    List (Fetch × Except Error (List Row)) → ResultSet → Line → Prop
  | start : Schedule set line [] set line
  | fetch {history : List (Fetch × Except Error (List Row))} {current last : ResultSet}
      {now after : Line} {fetching : Fetch} {result : Except Error (List Row)}
      (earlier : Schedule set line history current now)
      (ran : fetching.run current now = (result, last, after)) :
      Schedule set line (history ++ [(fetching, result)]) last after

/-- The rows of the fetches that went well. -/
def handedRows (history : List (Fetch × Except Error (List Row))) : List Row :=
  history.flatMap fun entry => entry.2.toOption.getD []

/-- The last of the fetches reports the end. -/
def Exhausts (history : List (Fetch × Except Error (List Row))) : Prop :=
  ∃ earlier fetching rows, history = earlier ++ [(fetching, .ok rows)] ∧ fetching.ReportsEnd rows

theorem Fetch.ReportsEnd.short {fetching : Fetch} {rows : List Row}
    (h : fetching.ReportsEnd rows) : fetching.demand.metBy rows.length = false := by
  cases fetching with
  | one =>
    rw [show rows = [] from h]
    rfl
  | many count => exact decide_eq_false (Nat.not_le.mpr h)
  | all => rfl

/-- A result set that was opened on `line` accounts for the pages that its calls have brought: the
cells are those of the rows that were handed out. -/
structure Accounts (line : Line) (queryId : String) (pageSize : Nat) (calls : List TimedCall)
    (first : ResultPage) (later : List ResultPage) (cells : List Cells) (set : ResultSet)
    (now : Line) : Prop where
  chains : Chains line queryId pageSize calls set now
  readable : set.closed = false
  columns : set.columns = first.columns
  decoded : decodedPages (line.pages.take calls.length) = first :: later
  rows : cells ++ set.pending = delivered (first :: later)
  counted : set.rowsReturned = cells.length
  fetched : set.pagesFetched = (first :: later).length

theorem openFor_accounts {line start : Line} {queryId : String} {size : Nat} {set : ResultSet}
    (opening : openFor line queryId size = (.ok set, start)) :
    ∃ calls first, Accounts line queryId (clampPageSize size) calls first [] [] set start := by
  have chains := openFor_chains opening
  obtain ⟨page, asked, rfl⟩ := openFor_ok opening
  have decoded := fetchPage_decoded line queryId (clampPageSize size) none
  rw [asked] at decoded
  refine ⟨_, page, chains, rfl, rfl, decoded, ?_, rfl, rfl⟩
  rw [List.nil_append, delivered, List.flatMap_nil, List.append_nil]
  exact page.dropHeader_eq_dataRows

theorem Accounts.yields {line now after : Line} {queryId : String} {pageSize : Nat}
    {calls more : List TimedCall} {first : ResultPage} {later pages : List ResultPage}
    {cells others : List Cells} {set last : ResultSet}
    (h : Accounts line queryId pageSize calls first later cells set now)
    (chains : Chains line queryId pageSize (more ++ calls) last after)
    (came : decodedPages (now.pages.take more.length) = pages)
    (yields : set.Yields pages others last) :
    Accounts line queryId pageSize (more ++ calls) first (later ++ pages) (cells ++ others) last
      after where
  chains := chains
  readable := yields.closed.trans h.readable
  columns := yields.columns.trans h.columns
  decoded := by
    rw [List.length_append, Nat.add_comm, List.take_add, decodedPages_append, h.decoded,
      ← h.chains.pages, came]
    rfl
  rows := by rw [List.append_assoc, yields.rows, ← List.append_assoc, h.rows, delivered_append]
  counted := by rw [yields.counted, h.counted, List.length_append]
  fetched := by
    rw [yields.fetched, h.fetched, ← List.length_append]
    rfl

theorem Accounts.run {line now after : Line} {queryId : String} {pageSize : Nat}
    {calls : List TimedCall} {first : ResultPage} {later : List ResultPage} {cells : List Cells}
    {set last : ResultSet} {fetching : Fetch} {result : Except Error (List Row)}
    (h : Accounts line queryId pageSize calls first later cells set now)
    (ran : fetching.run set now = (result, last, after)) :
    ∃ more pages others,
      Accounts line queryId pageSize (more ++ calls) first (later ++ pages) (cells ++ others) last
        after ∧
      result.toOption.getD [] = others.map (Row.mk first.columns) ∧
      ∀ rows, result = .ok rows → fetching.ReportsEnd rows →
        last.pending = [] ∧ last.nextToken = none := by
  rw [Fetch.run_eq_fetch] at ran
  obtain ⟨more, chains, onward, _⟩ := h.chains.fetch ran
  cases fetch_fetches h.readable ran with
  | failed delivers yields =>
    obtain ⟨calls', reaches, _, came⟩ := delivers
    obtain rfl : calls' = more :=
      List.append_cancel_right (reaches.noted.symm.trans onward.noted)
    exact ⟨_, _, [], h.yields chains came yields, rfl, nofun⟩
  | @handed _ others _ _ delivers yields _ ended =>
    obtain ⟨calls', reaches, _, came⟩ := delivers
    obtain rfl : calls' = more :=
      List.append_cancel_right (reaches.noted.symm.trans onward.noted)
    refine ⟨_, _, others, h.yields chains came yields, ?_, ?_⟩
    · rw [← h.columns]
      rfl
    · rintro _ ⟨⟩ reports
      exact ended (by simpa using reports.short)

theorem Accounts.schedule {line start now : Line} {queryId : String} {pageSize : Nat}
    {calls : List TimedCall} {first : ResultPage} {set last : ResultSet}
    {history : List (Fetch × Except Error (List Row))}
    (h : Accounts line queryId pageSize calls first [] [] set start)
    (schedule : Schedule set start history last now) :
    ∃ more later cells,
      Accounts line queryId pageSize more first later cells last now ∧
      handedRows history = cells.map (Row.mk first.columns) ∧
      (Exhausts history → last.pending = [] ∧ last.nextToken = none) := by
  induction schedule with
  | start =>
    refine ⟨_, _, _, h, rfl, ?_⟩
    rintro ⟨_, _, _, none, _⟩
    simp at none
  | fetch _ ran ih =>
    obtain ⟨more, later, cells, accounts, handed, _⟩ := ih
    obtain ⟨further, pages, others, onward, rows, ended⟩ := accounts.run ran
    refine ⟨_, _, _, onward, ?_, ?_⟩
    · rw [handedRows, List.flatMap_append, ← handedRows, handed, List.map_append, ← rows]
      simp
    · rintro ⟨_, _, found, same, reports⟩
      obtain ⟨_, entry⟩ := List.append_inj' same rfl
      cases entry
      exact ended found rfl reports

/-- At the end all that was delivered has been handed out, and the last page has come. -/
theorem Accounts.complete {line now : Line} {queryId : String} {pageSize : Nat}
    {calls : List TimedCall} {first : ResultPage} {later : List ResultPage} {cells : List Cells}
    {set : ResultSet} (h : Accounts line queryId pageSize calls first later cells set now)
    (drained : set.pending = []) (final : set.nextToken = none) :
    cells = delivered (first :: later) ∧
      ∃ page ∈ decodedPages (line.pages.take calls.length), page.nextToken = none := by
  constructor
  · rw [← h.rows, drained, List.append_nil]
  · obtain ⟨page, last⟩ : ∃ page, (first :: later).getLast? = some page :=
      ⟨_, List.getLast?_eq_some_getLast (List.cons_ne_nil _ _)⟩
    have latest := h.chains.nextToken h.readable
    rw [final, latestToken, h.decoded, last] at latest
    rw [h.decoded]
    exact ⟨page, List.mem_of_getLast? last, latest.symm⟩

/-- Two readings of one result to its end, by whatever fetches, hand out the same rows, make the
same requests, and end with the same counts. -/
theorem schedules_agree {line line' start start' now now' : Line} {queryId : String} {size : Nat}
    {set set' last last' : ResultSet} {history history' : List (Fetch × Except Error (List Row))}
    (script : line.pages = line'.pages)
    (opening : openFor line queryId size = (.ok set, start))
    (opening' : openFor line' queryId size = (.ok set', start'))
    (schedule : Schedule set start history last now)
    (schedule' : Schedule set' start' history' last' now')
    (ended : Exhausts history) (ended' : Exhausts history') :
    handedRows history = handedRows history' ∧
    (∃ calls calls', now.calls = calls ++ line.calls ∧ now'.calls = calls' ++ line'.calls ∧
      calls.map TimedCall.call = calls'.map TimedCall.call) ∧
    last.pagesFetched = last'.pagesFetched ∧ last.rowsReturned = last'.rowsReturned := by
  obtain ⟨_, first, opened⟩ := openFor_accounts opening
  obtain ⟨_, first', opened'⟩ := openFor_accounts opening'
  obtain ⟨calls, later, cells, accounts, handed, drained⟩ := opened.schedule schedule
  obtain ⟨calls', later', cells', accounts', handed', drained'⟩ := opened'.schedule schedule'
  obtain ⟨complete, final⟩ := accounts.complete (drained ended).1 (drained ended).2
  obtain ⟨complete', final'⟩ := accounts'.complete (drained' ended').1 (drained' ended').2
  have chained := accounts.chains.chained
  have chained' := accounts'.chains.chained
  -- Neither reading goes on after the last page, and both see it at the same request.
  rw [script] at final chained
  have same : calls.length = calls'.length :=
    Nat.le_antisymm (chained.length_le final') (chained'.length_le final)
  have pages : first :: later = first' :: later' := by
    rw [← accounts.decoded, ← accounts'.decoded, script, same]
  obtain ⟨rfl, rfl⟩ := List.cons.inj pages
  subst complete complete'
  refine ⟨handed.trans handed'.symm, ⟨calls, calls', accounts.chains.reaches.noted,
    accounts'.chains.reaches.noted, chained.calls_eq chained' same⟩, ?_, ?_⟩
  · rw [accounts.fetched, accounts'.fetched]
  · rw [accounts.counted, accounts'.counted]

theorem schedules_agree_stumbling :
    ∃ last last' now now' history history',
      Schedule QueryCursor.stumblingSet QueryCursor.stumblingStart history last now ∧
      history.map Prod.fst = [.all, .all] ∧
      Schedule QueryCursor.stumblingSet QueryCursor.stumblingStart history' last' now' ∧
      history'.map Prod.fst = [.one, .many 1, .many 5] ∧
      handedRows history = handedRows history' ∧ (handedRows history).length = 2 ∧
      last.pagesFetched = last'.pagesFetched ∧ last.rowsReturned = last'.rowsReturned := by
  have schedule : Schedule QueryCursor.stumblingSet QueryCursor.stumblingStart
      ([] ++ [(.all, .error _)] ++ [(.all, .ok _)]) _ _ :=
    .fetch (.fetch .start rfl) rfl
  have schedule' : Schedule QueryCursor.stumblingSet QueryCursor.stumblingStart
      ([] ++ [(.one, .ok _)] ++ [(.many 1, .error _)] ++ [(.many 5, .ok _)]) _ _ :=
    .fetch (.fetch (.fetch .start rfl) rfl) rfl
  obtain ⟨rows, _, fetched, returned⟩ :=
    schedules_agree rfl stumblingLine_openFor stumblingLine_openFor schedule schedule'
      ⟨_, _, _, rfl, trivial⟩ ⟨_, _, _, rfl, show 1 < 5 by decide⟩
  exact ⟨_, _, _, _, _, _, schedule, rfl, schedule', rfl, rows, rfl, fetched, returned⟩

end RemoteQuery.ResultSet
