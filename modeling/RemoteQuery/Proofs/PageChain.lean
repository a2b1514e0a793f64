import RemoteQuery.Proofs.PageRequests

/-!
# The chain of page requests

From its opening on, a result set asks for its pages one after the other: each request carries the
token of the latest page that could be decoded, so that a page which failed is asked for again. No
request follows the last page, and none a close. A page is asked for only by a fetch whose demand is
not met by the rows that are there.
-/
namespace RemoteQuery

namespace ResultSet

/-- The result set after an answer to a request: a page comes in, an error changes nothing. -/
def receive (set : ResultSet) : Except Error ResultPage → ResultSet
  | .ok page => set.append page
  | .error _ => set

theorem nextToken_receive (set : ResultSet) (answer : Except Error ResultPage) :
    (set.receive answer).nextToken =
      (answer.toOption.map ResultPage.nextToken).getD set.nextToken := by
  cases answer <;> rfl

theorem Chains.request {line now after : Line} {queryId token : String} {pageSize : Nat}
    {calls : List TimedCall} {set : ResultSet} {answer : Except Error ResultPage}
    (h : Chains line queryId pageSize calls set now) (opened : set.closed = false)
    (wanted : set.nextToken = some token)
    (asked : fetchPage now set.queryId set.pageSize (some token) = (answer, after)) :
    Chains line queryId pageSize
      (⟨now.now, .getQueryResults ⟨set.queryId, set.pageSize, some token⟩⟩ :: calls)
      (set.receive answer) after := by
  have latest := h.nextToken opened
  have decoded := fetchPage_decoded now set.queryId set.pageSize (some token)
  rw [asked] at decoded
  constructor
  · exact h.reaches.trans (fetchPage_reached asked)
  · refine ⟨h.chained, ?_, h.chained.tokens ?_⟩
    · rw [← latest, wanted, h.queryId, h.pageSize]
    · rw [← latest, wanted]
      exact nofun
  · cases answer <;> exact h.queryId
  · cases answer <;> exact h.pageSize
  · intro _
    rw [nextToken_receive, latestToken, List.length_cons, decodedPages_take_succ, ← h.pages,
      decoded, latest, latestToken]
    cases answer with
    | error error => simp [Except.toOption]
    | ok page => simp [Except.toOption]

theorem Lazy.before {demand : Demand} {pending : List Cells} {page : ResultPage}
    {reply : Reply TransportError Message.GetQueryResultsResponse}
    {replies : List (Reply TransportError Message.GetQueryResultsResponse)}
    {calls : List TimedCall} (h : Lazy demand (pending ++ page.rows) replies calls)
    (short : demand.metBy pending.length = false) (decoded : pageOf reply.result = .ok page)
    (timed : TimedCall) : Lazy demand pending (reply :: replies) (calls ++ [timed]) := by
  induction calls with
  | nil => exact ⟨trivial, by simpa [decodedPages] using short⟩
  | cons later earlier ih =>
    obtain ⟨rest, unmet⟩ := h
    rw [List.cons_append]
    refine ⟨ih rest, ?_⟩
    have count : (earlier ++ [timed]).length = earlier.length + 1 := List.length_append
    have first : decodedPages (reply :: replies.take earlier.length) =
        page :: decodedPages (replies.take earlier.length) := by
      simp [decodedPages, decoded, Except.toOption]
    rw [count, List.take_succ_cons, first, List.flatMap_cons, ← List.append_assoc]
    exact unmet

theorem Loads.chains {demand : Demand} {set last : ResultSet} {line now after : Line}
    {queryId : String} {pageSize : Nat} {calls : List TimedCall} {pages : List ResultPage}
    {result : Except Error Unit} (loads : Loads demand set now pages result last after)
    (h : Chains line queryId pageSize calls set now) (opened : set.closed = false) :
    ∃ more, Chains line queryId pageSize (more ++ calls) last after ∧
      now.Reaches more after ∧ Lazy demand set.pending now.pages more := by
  induction loads generalizing calls with
  | @met _ now enough => exact ⟨[], h, .refl now, trivial⟩
  | @failed _ now _ _ _ wanted refused =>
    obtain ⟨short, token⟩ := wanted?_eq_some_iff.mp wanted
    refine ⟨[_], h.request opened token refused, fetchPage_reached refused, trivial, ?_⟩
    simpa [decodedPages] using short
  | @page set _ now middle _ _ page _ _ wanted came _ ih =>
    obtain ⟨short, token⟩ := wanted?_eq_some_iff.mp wanted
    obtain ⟨reply, used, decoded⟩ := fetchPage_came came
    obtain ⟨more, chains, onward, unmet⟩ := ih (h.request opened token came) opened
    refine ⟨more ++ [_], ?_, (fetchPage_reached came).trans onward, ?_⟩
    · rw [List.append_assoc]
      exact chains
    · rw [used]
      exact unmet.before short decoded _

theorem Chains.fetch {demand : Demand} {set last : ResultSet} {line now after : Line}
    {queryId : String} {pageSize : Nat} {calls : List TimedCall}
    {result : Except Error (List Row)} (h : Chains line queryId pageSize calls set now)
    (fetched : set.fetch demand now = (result, last, after)) :
    ∃ more, Chains line queryId pageSize (more ++ calls) last after ∧
      now.Reaches more after ∧ Lazy demand set.pending now.pages more := by
  cases opened : set.closed with
  | true =>
    rw [ResultSet.fetch, opened, if_pos rfl] at fetched
    cases fetched
    exact ⟨[], h, .refl now, trivial⟩
  | false =>
    obtain ⟨pages, loads⟩ := load_loads demand set now
    obtain ⟨more, chains, onward, unmet⟩ := loads.chains h opened
    rw [ResultSet.fetch, opened, if_neg (by decide)] at fetched
    generalize load demand set now = loaded at fetched chains onward
    obtain ⟨error | _, middle, reached⟩ := loaded
    · cases fetched
      exact ⟨more, chains, onward, unmet⟩
    · cases fetched
      exact ⟨more, ⟨chains.reaches, chains.chained, chains.queryId, chains.pageSize,
        chains.nextToken⟩, onward, unmet⟩

theorem length_le_of_fetch {count : Nat} {set last : ResultSet} {line after : Line}
    {rows : List Row} (fetched : set.fetch (.rows count) line = (.ok rows, last, after)) :
    rows.length ≤ count := by
  cases opened : set.closed with
  | true =>
    rw [fetch_closed opened] at fetched
    cases fetched
  | false =>
    cases fetch_fetches opened fetched with
    | handed _ _ bounded => simpa using bounded count rfl

theorem Fetch.run_eq_fetch (fetching : Fetch) (set : ResultSet) (line : Line) :
    fetching.run set line = set.fetch fetching.demand line := by
  cases fetching with
  | many | all => rfl
  | one =>
    rw [run, fetchOne, demand]
    generalize fetched : set.fetch (.rows 1) line = found
    obtain ⟨error | rows, last, after⟩ := found
    · rfl
    · have single := length_le_of_fetch fetched
      match rows with
      | [] | [_] => rfl
      | _ :: _ :: _ => simp at single

theorem arrowOf_fetch (set : ResultSet) (line : Line) :
    ∃ rows taken back, set.fetch .all line = (rows, taken, (QueryCursor.arrowOf set line).2.2) ∧
      (QueryCursor.arrowOf set line).2.1 = taken.unread back := by
  unfold QueryCursor.arrowOf
  generalize set.fetch .all line = found
  obtain ⟨error | rows, taken, after⟩ := found
  · exact ⟨_, taken, [], rfl, rfl⟩
  · simp only
    split
    · exact ⟨_, taken, [], rfl, rfl⟩
    · exact ⟨_, taken, rows, rfl, rfl⟩

theorem Chains.apply {line now : Line} {queryId : String} {pageSize : Nat}
    {calls : List TimedCall} {set : ResultSet} (h : Chains line queryId pageSize calls set now)
    (access : Access) :
    ∃ more, Chains line queryId pageSize (more ++ calls) (access.apply (set, now)).1
        (access.apply (set, now)).2 ∧
      now.Reaches more (access.apply (set, now)).2 := by
  cases access with
  | fetch fetching =>
    obtain ⟨more, chains, onward, _⟩ := h.fetch (Fetch.run_eq_fetch fetching set now).symm
    exact ⟨more, chains, onward⟩
  | arrow =>
    obtain ⟨rows, taken, back, fetched, left⟩ := arrowOf_fetch set now
    obtain ⟨more, chains, onward, _⟩ := h.fetch fetched
    refine ⟨more, ?_, onward⟩
    change Chains line queryId pageSize (more ++ calls) (QueryCursor.arrowOf set now).2.1 _
    rw [left]
    exact ⟨chains.reaches, chains.chained, chains.queryId, chains.pageSize, chains.nextToken⟩
  | close => exact ⟨[], ⟨h.reaches, h.chained, h.queryId, h.pageSize, nofun⟩, .refl now⟩

theorem Chains.run {line now : Line} {queryId : String} {pageSize : Nat}
    {calls : List TimedCall} {set : ResultSet} (h : Chains line queryId pageSize calls set now)
    (accesses : List Access) :
    ∃ more, Chains line queryId pageSize (more ++ calls) (Access.run accesses (set, now)).1
      (Access.run accesses (set, now)).2 := by
  induction accesses generalizing calls set now with
  | nil => exact ⟨[], h⟩
  | cons access accesses ih =>
    obtain ⟨more, chains, _⟩ := h.apply access
    obtain ⟨further, onward⟩ := ih chains
    rw [← List.append_assoc] at onward
    exact ⟨further ++ more, onward⟩

theorem openFor_chains {line start : Line} {queryId : String} {size : Nat} {set : ResultSet}
    (opening : openFor line queryId size = (.ok set, start)) :
    Chains line queryId (clampPageSize size)
      [⟨line.now, .getQueryResults ⟨queryId, clampPageSize size, none⟩⟩] set start := by
  obtain ⟨page, asked, rfl⟩ := openFor_ok opening
  have decoded := fetchPage_decoded line queryId (clampPageSize size) none
  rw [asked] at decoded
  refine ⟨fetchPage_reached asked, ⟨trivial, rfl, nofun⟩, rfl, rfl, fun _ => ?_⟩
  change page.nextToken = latestToken (line.pages.take 1)
  rw [latestToken, decoded]
  rfl

theorem Access.apply_closed {set : ResultSet} (closed : set.closed = true) (access : Access)
    (line : Line) :
    (access.apply (set, line)).1.closed = true ∧ (access.apply (set, line)).2 = line := by
  cases access with
  | fetch fetching =>
    change (fetching.run set line).2.1.closed = true ∧ (fetching.run set line).2.2 = line
    rw [Fetch.run_eq_fetch, fetch_closed closed]
    exact ⟨closed, rfl⟩
  | arrow =>
    change (QueryCursor.arrowOf set line).2.1.closed = true ∧
      (QueryCursor.arrowOf set line).2.2 = line
    rw [QueryCursor.arrowOf, fetch_closed closed]
    exact ⟨closed, rfl⟩
  | close => exact ⟨rfl, rfl⟩

theorem Access.run_closed {set : ResultSet} (closed : set.closed = true)
    (accesses : List Access) (line : Line) : (run accesses (set, line)).2 = line := by
  induction accesses generalizing set with
  | nil => rfl
  | cons access accesses ih =>
    obtain ⟨stays, same⟩ := access.apply_closed closed line
    have next : access.apply (set, line) = ((access.apply (set, line)).1, line) :=
      Prod.ext rfl same
    change (run accesses (access.apply (set, line))).2 = line
    rw [next]
    exact ih stays

/-- The requests of a result set form a chain, over any run and for any page size. Nothing is sent
after a close; and what is sent by an access is sent by a fetch that still needs rows, at a time
when none is pending any more. -/
theorem page_requests_chained {line start now : Line} {queryId : String} {size : Nat}
    {set current : ResultSet} {accesses : List Access}
    (opening : openFor line queryId size = (.ok set, start))
    (ran : Access.run accesses (set, start) = (current, now)) :
    (∃ calls, now.calls = calls ++ line.calls ∧
      Chained queryId (max 1 (min size 1000)) line.pages calls) ∧
    (∀ later, (Access.run (.close :: later) (current, now)).2 = now) ∧
    (∀ (access : Access) demand result last after, access.demand? = some demand →
      current.fetch demand now = (result, last, after) →
      (access.apply (current, now)).2 = after ∧
      (∃ calls, after.calls = calls ++ now.calls ∧
        Lazy demand current.pending now.pages calls) ∧
      (current.closed = false → Gathers demand [] current now result last after)) := by
  obtain ⟨more, chains⟩ := (openFor_chains opening).run accesses
  rw [ran] at chains
  refine ⟨⟨_, chains.reaches.noted, chains.chained⟩, ?_, ?_⟩
  · intro later
    exact Access.run_closed rfl later now
  · intro access demand result last after asks fetched
    obtain ⟨calls, _, onward, unmet⟩ := chains.fetch fetched
    refine ⟨?_, ⟨calls, onward.noted, unmet⟩, fun opened =>
      (fetch_eq_iff_gathers opened).mp fetched⟩
    cases access with
    | fetch fetching =>
      cases asks
      change (fetching.run current now).2.2 = after
      rw [Fetch.run_eq_fetch, fetched]
    | arrow =>
      cases asks
      obtain ⟨_, _, _, same, _⟩ := arrowOf_fetch current now
      rw [fetched] at same
      cases same
      rfl
    | close => cases asks

theorem stumblingLine_openFor :
    openFor QueryCursor.stumblingLine "q-1" 5000 =
      (.ok QueryCursor.stumblingSet, QueryCursor.stumblingStart) := rfl

theorem page_requests_chained_stumbling :
    ∃ current now calls,
      Access.run [.fetch (.many 2), .fetch .one, .fetch .all]
        (QueryCursor.stumblingSet, QueryCursor.stumblingStart) = (current, now) ∧
      now.calls = calls ++ QueryCursor.stumblingLine.calls ∧
      now.calls.map TimedCall.call = [.getQueryResults ⟨"q-1", 1000, some "more"⟩,
        .getQueryResults ⟨"q-1", 1000, some "more"⟩, .getQueryResults ⟨"q-1", 1000, none⟩] ∧
      Chained "q-1" 1000 QueryCursor.stumblingLine.pages calls ∧
      (Access.run [.close, .fetch .all] (current, now)).2 = now ∧
      Gathers .all [] current now (.ok []) current now := by
  obtain ⟨⟨calls, noted, chained⟩, closed, gathers⟩ :=
    page_requests_chained stumblingLine_openFor
      (rfl : Access.run [.fetch (.many 2), .fetch .one, .fetch .all]
        (QueryCursor.stumblingSet, QueryCursor.stumblingStart) = (_, _))
  obtain ⟨_, _, gathers⟩ := gathers (.fetch .all) .all _ _ _ rfl rfl
  exact ⟨_, _, calls, rfl, noted, rfl, chained, closed [_], gathers rfl⟩

end ResultSet

end RemoteQuery
