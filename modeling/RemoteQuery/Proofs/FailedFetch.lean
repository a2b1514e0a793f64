import RemoteQuery.Proofs.RetainedPages

/-!
# Fetches that fail

A fetch fails when a page that it needs is refused or malformed, or when all rows are there but do
not convert. In both cases the pages that came in stay, no row counts as handed out, and the token
is that of the page that is still missing, so that the next fetch begins where this one stopped.
Reading on after failures therefore gives what would have been read without them. The clock and the
signal are not compared: a failed request takes its time.
-/
namespace RemoteQuery

namespace QueryCursor

def Answer.error? : Answer → Option Error
  | done (.error error) | row (.error error) | rows (.error error) | batch (.error error) =>
    some error
  | _ => none

/-- Fetches of a cursor that all fail, one after the other. -/
inductive Failing (cursor : QueryCursor) (line : Line) : QueryCursor → Line → Prop
  | start : Failing cursor line cursor line
  | fetch {current later : QueryCursor} {now after : Line} {action : Action} {answer : Answer}
      {error : Error} (earlier : Failing cursor line current now) (fetch : action.isFetch = true)
      (acted : current.act? now action = some (answer, later, after))
      (failure : answer.error? = some error) : Failing cursor line later after

structure FailsOn (cursor : QueryCursor) (set : ResultSet) (line : Line) (error : Error)
    (pages : List ResultPage) (last : ResultSet) (later : QueryCursor) (after : Line) : Prop where
  left : later = { cursor with resultSet := some last }.detach after
  fails : ResultSet.Fails set (cursor.attach line) error pages last after
  again : error.OfConversion → last.fetch .all after = set.fetch .all (cursor.attach line)

theorem withResultSet_fails {α : Type} {form : Except Error α → Answer} {cursor later : QueryCursor}
    {set : ResultSet} {line after : Line} {answer : Answer} {error : Error}
    {fetch : ResultSet → Line → Except Error α × ResultSet × Line} (opened : cursor.closed = false)
    (holds : cursor.resultSet = some set)
    (failed : ∀ result, (form result).error? = some error → result = .error error)
    (fails : ∀ {last : ResultSet} {after : Line},
      fetch set (cursor.attach line) = (.error error, last, after) →
        (∃ pages, ResultSet.Fails set (cursor.attach line) error pages last after) ∧
          (error.OfConversion → last.fetch .all after = set.fetch .all (cursor.attach line)))
    (acted : answered form (cursor.withResultSet line fetch) = (answer, later, after))
    (failure : answer.error? = some error) :
    ∃ pages last, FailsOn cursor set line error pages last later after := by
  rw [withResultSet, if_neg (by simp [opened]), holds] at acted
  simp only at acted
  generalize fetched : fetch set (cursor.attach line) = found at acted
  obtain ⟨result, last, reached⟩ := found
  cases acted
  obtain rfl := failed result failure
  obtain ⟨⟨pages, fails⟩, again⟩ := fails fetched
  exact ⟨pages, last, rfl, fails, again⟩

theorem act?_fails {cursor later : QueryCursor} {set : ResultSet} {line after : Line}
    {action : Action} {answer : Answer} {error : Error} (opened : cursor.closed = false)
    (holds : cursor.resultSet = some set) (readable : set.closed = false)
    (fetch : action.isFetch = true)
    (acted : cursor.act? line action = some (answer, later, after))
    (failure : answer.error? = some error) :
    ∃ pages last, FailsOn cursor set line error pages last later after := by
  have requested {demand : Demand} {last : ResultSet} {after : Line}
      (fetched : set.fetch demand (cursor.attach line) = (.error error, last, after)) :
      (∃ pages, ResultSet.Fails set (cursor.attach line) error pages last after) ∧
        (error.OfConversion → last.fetch .all after = set.fetch .all (cursor.attach line)) := by
    obtain ⟨request, fails⟩ := ResultSet.fetch_fails readable fetched
    exact ⟨fails, fun conversion => (request conversion).elim⟩
  have rows (result : Except Error (List Row)) (h : (Answer.rows result).error? = some error) :
      result = .error error := by
    cases result <;> cases h
    rfl
  cases action with
  | fetchOne =>
    refine withResultSet_fails opened holds ?_ ?_ (Option.some.inj acted) failure
    · rintro (_ | _) h <;> cases h
      rfl
    · intro last after fetched
      unfold ResultSet.fetchOne at fetched
      generalize inner : set.fetch (.rows 1) (cursor.attach line) = found at fetched
      obtain ⟨_ | _, _, _⟩ := found <;> cases fetched
      exact requested inner
  | fetchMany count =>
    exact withResultSet_fails opened holds rows requested (Option.some.inj acted) failure
  | fetchBatch =>
    have acted := Option.some.inj acted
    rw [fetchBatch, fetchMany] at acted
    exact withResultSet_fails opened holds rows requested acted failure
  | fetchAll =>
    exact withResultSet_fails opened holds rows requested (Option.some.inj acted) failure
  | fetchArrow =>
    refine withResultSet_fails opened holds ?_ (ResultSet.arrowOf_fails readable)
      (act?_fetchArrow acted) failure
    rintro (_ | _) h <;> cases h
    rfl
  | _ => cases fetch

theorem retains_attach {cursor : QueryCursor} {set last : ResultSet} {line after : Line}
    {pages : List ResultPage} (h : ResultSet.Retains set line pages last after) :
    ResultSet.Retains set line pages last (cursor.attach after) := by
  obtain ⟨calls, reaches, requests, decoded⟩ := h.delivers
  have attached : line.Reaches calls (cursor.attach after) :=
    ⟨reaches.service, reaches.clock, reaches.noted, reaches.pages, reaches.started, reaches.polled,
      reaches.stopped, reaches.now⟩
  exact ⟨h.yields, ⟨calls, attached, requests, decoded⟩, h.leads⟩

theorem Failing.retains {cursor later : QueryCursor} {set : ResultSet} {line after : Line}
    (h : Failing cursor line later after) (opened : cursor.closed = false)
    (holds : cursor.resultSet = some set) (readable : set.closed = false) :
    ∃ pages last, later.closed = false ∧ later.resultSet = some last ∧
      ResultSet.Retains set line pages last after := by
  induction h with
  | start => exact ⟨[], set, opened, holds, .refl set line⟩
  | fetch _ fetch acted failure ih =>
    obtain ⟨pages, middle, opened, holds, retains⟩ := ih
    obtain ⟨more, last, rfl, fails, _⟩ :=
      act?_fails opened holds (retains.yields.closed.trans readable) fetch acted failure
    have onward := fails.retains
    exact ⟨pages ++ more, last, opened, rfl, retains.trans
      ⟨onward.yields, delivers_attach.mp onward.delivers, onward.leads⟩⟩

theorem fetchAll_eq {cursor : QueryCursor} {set : ResultSet} (line : Line)
    (opened : cursor.closed = false) (holds : cursor.resultSet = some set) :
    cursor.fetchAll line =
      ((set.fetch .all (cursor.attach line)).1,
        { cursor with resultSet := some (set.fetch .all (cursor.attach line)).2.1 }.detach
          (set.fetch .all (cursor.attach line)).2.2,
        (set.fetch .all (cursor.attach line)).2.2) := by
  rw [fetchAll, withResultSet, if_neg (by simp [opened]), holds]

/-- A fetch that fails hands out nothing and loses nothing: what came in is pending, and the page
that failed is the next to be asked for. When all rows are fetched after such failures, they are
those that would have come without the replies that failed; and to fetch them after a conversion
that failed is to fetch them at once. -/
theorem failed_fetch_loses_nothing {cursor later : QueryCursor} {set : ResultSet}
    {line after : Line} {action : Action} {answer : Answer} {error : Error}
    (opened : cursor.closed = false) (holds : cursor.resultSet = some set)
    (readable : set.closed = false) (fetch : action.isFetch = true)
    (acted : cursor.act? line action = some (answer, later, after))
    (failure : answer.error? = some error) :
    later.rowNumber = cursor.rowNumber ∧ later.description = cursor.description ∧
    (∃ used last, line.pages = used ++ after.pages ∧ later.resultSet = some last ∧
      last.pending = set.pending ++ (decodedPages used).flatMap ResultPage.rows ∧
      (¬ error.OfConversion → ResultSet.AskedFor last line after) ∧
      (error.OfConversion → last.nextToken = none)) ∧
    (∀ current now rows, later.Failing after current now →
      (current.fetchAll now).1 = .ok rows →
      ∃ used, line.pages = used ++ now.pages ∧
        (cursor.fetchAll { line with pages := used.filter Reply.isPage ++ now.pages }).1 =
          .ok rows) ∧
    (error.OfConversion → later.fetchAll after = cursor.fetchAll line) := by
  obtain ⟨pages, last, left, fails, again⟩ := act?_fails opened holds readable fetch acted failure
  have opened' : later.closed = false := by rw [left]; exact opened
  have holds' : later.resultSet = some last := by rw [left]; rfl
  have yields := fails.retains.yields
  obtain ⟨used, came, decoded⟩ := fails.retains.used
  refine ⟨?_, ?_, ⟨used, last, came, holds', ?_, fails.requested, fails.converted⟩, ?_, ?_⟩
  · rw [rowNumber, rowNumber, holds, holds']
    exact congrArg some yields.counted
  · rw [description, description, holds, holds']
    exact congrArg some yields.columns
  · rw [decoded]
    exact yields.rows
  · intro current now rows failing fetched
    obtain ⟨more, final, reopened, regained, onward⟩ :=
      failing.retains opened' holds' (yields.closed.trans readable)
    rw [fetchAll_eq now reopened regained] at fetched
    obtain ⟨used, came, again⟩ :=
      (retains_attach (fails.retains.trans onward)).fetch_all readable fetched
    refine ⟨used, came, ?_⟩
    rw [fetchAll_eq _ opened holds]
    exact again
  · intro conversion
    have attached : later.attach after = after := by rw [left]; rfl
    rw [fetchAll_eq after opened' holds', fetchAll_eq line opened holds, attached,
      again conversion, left]
    rfl

def wideCursor : QueryCursor :=
  { openedCursor with
    resultSet := some { stumblingSet with pending := [[some "1", some "2"]], nextToken := none } }

theorem failed_fetch_loses_nothing_stumbling :
    (∃ later after last,
      openedCursor.act? stumblingStart (.fetchMany 2) = some (.rows (.error
        (.operational (.transport .getQueryResults (.throttled "slow down")))), later, after) ∧
      later.rowNumber = some 0 ∧ later.resultSet = some last ∧
      ResultSet.AskedFor last stumblingStart after ∧
      ∃ used rows, stumblingStart.pages = used ++ after.pages ∧ rows.length = 2 ∧
        (openedCursor.fetchAll
          { stumblingStart with pages := used.filter Reply.isPage ++ after.pages }).1 = .ok rows) ∧
    ∃ later after,
      wideCursor.act? promptLine .fetchArrow =
        some (.batch (.error (.data (.rowWidthMismatch 0 1 2))), later, after) ∧
      later.fetchAll after = wideCursor.fetchAll promptLine := by
  constructor
  · have acted : openedCursor.act? stumblingStart (.fetchMany 2) =
        some (.rows (.error _), _, _) := rfl
    obtain ⟨number, _, ⟨_, last, _, holds, _, asked, _⟩, again, _⟩ :=
      failed_fetch_loses_nothing rfl rfl rfl rfl acted rfl
    obtain ⟨used, came, all⟩ := again _ _ _ .start rfl
    exact ⟨_, _, last, acted, number, holds, asked id, used, _, came, rfl, all⟩
  · have acted : wideCursor.act? promptLine .fetchArrow = some (.batch (.error _), _, _) := rfl
    obtain ⟨_, _, _, _, same⟩ := failed_fetch_loses_nothing rfl rfl rfl rfl acted rfl
    exact ⟨_, _, acted, same trivial⟩

end QueryCursor

end RemoteQuery
