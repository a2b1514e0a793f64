import RemoteQuery.Proofs.FetchFaults

/-!
# Pages that are kept

A fetch that fails keeps the pages that came in for it, counts no row as handed out, and stands at
the token of the page that is still missing. Reading on from there gives what would have been read
without the failure.
-/
namespace RemoteQuery

namespace ResultSet

/-- The pages come one after the other: each is asked for by the token that is there before it, and
the last token is the one after them. -/
inductive Leads : Option String → List ResultPage → Option String → Prop
  | here {token : Option String} : Leads token [] token
  | page {token : String} {page : ResultPage} {pages : List ResultPage} {last : Option String}
      (onward : Leads page.nextToken pages last) : Leads (some token) (page :: pages) last

theorem Leads.trans {first middle last : Option String} {pages more : List ResultPage}
    (h : Leads first pages middle) (h' : Leads middle more last) :
    Leads first (pages ++ more) last := by
  induction h with
  | here => exact h'
  | page _ ih => exact .page (ih h')

theorem Loads.leads {demand : Demand} {set last : ResultSet} {line after : Line}
    {pages : List ResultPage} {result : Except Error Unit}
    (h : Loads demand set line pages result last after) :
    Leads set.nextToken pages last.nextToken := by
  induction h with
  | met | failed => exact .here
  | page wanted _ _ ih =>
    rw [(wanted?_eq_some_iff.mp wanted).2]
    exact .page ih

/-- Pages have come in, and the rows that were there are still pending before theirs. -/
structure Retains (set : ResultSet) (line : Line) (pages : List ResultPage) (last : ResultSet)
    (after : Line) : Prop where
  yields : set.Yields pages [] last
  delivers : line.Delivers set.queryId pages after
  leads : Leads set.nextToken pages last.nextToken

theorem Retains.refl (set : ResultSet) (line : Line) : Retains set line [] set line :=
  ⟨.refl set, .refl line _, .here⟩

theorem Retains.trans {set middle last : ResultSet} {line between after : Line}
    {pages more : List ResultPage} (h : Retains set line pages middle between)
    (h' : Retains middle between more last after) :
    Retains set line (pages ++ more) last after where
  yields := h.yields.trans h'.yields
  delivers := h.delivers.trans (h.yields.queryId ▸ h'.delivers)
  leads := h.leads.trans h'.leads

theorem Loads.retains {demand : Demand} {set last : ResultSet} {line after : Line}
    {pages : List ResultPage} {result : Except Error Unit}
    (h : Loads demand set line pages result last after) : Retains set line pages last after :=
  ⟨h.yields, h.delivers, h.leads⟩

theorem Retains.used {set last : ResultSet} {line after : Line} {pages : List ResultPage}
    (h : Retains set line pages last after) :
    ∃ used, line.pages = used ++ after.pages ∧ decodedPages used = pages := by
  obtain ⟨calls, reaches, requests, decoded⟩ := h.delivers
  refine ⟨line.pages.take calls.length, ?_, decoded⟩
  rw [reaches.pages, requests.countOf_eq_length, List.take_append_drop]

/-- The latest call since `before` asked for the page that the token of the result set points to. -/
def AskedFor (set : ResultSet) (before after : Line) : Prop :=
  ∃ token instant more, set.nextToken = some token ∧
    after.calls = ⟨instant, .getQueryResults ⟨set.queryId, set.pageSize, some token⟩⟩ ::
      (more ++ before.calls)

/-- What a fetch that fails leaves behind, by the kind of its error. -/
structure Fails (set : ResultSet) (line : Line) (error : Error) (pages : List ResultPage)
    (last : ResultSet) (after : Line) : Prop where
  retains : Retains set line pages last after
  requested : ¬ error.OfConversion → AskedFor last line after
  converted : error.OfConversion → last.nextToken = none

theorem Loads.failed_request {demand : Demand} {set last : ResultSet} {line after : Line}
    {pages : List ResultPage} {error : Error}
    (h : Loads demand set line pages (.error error) last after) :
    ¬ error.OfConversion ∧ AskedFor last line after := by
  generalize ended : Except.error error = result at h
  induction h with
  | met => cases ended
  | @failed set line after token _ wanted refused =>
    cases ended
    have answer := fetchPage_answer line set.queryId set.pageSize (some token)
    rw [refused] at answer
    exact ⟨pageOf_not_ofConversion answer.symm, token, line.now, [],
      (wanted?_eq_some_iff.mp wanted).2, (fetchPage_reached refused).noted⟩
  | @page _ _ line middle _ _ _ _ _ _ came _ ih =>
    obtain ⟨request, token, instant, more, wanted, noted⟩ := ih ended
    obtain ⟨timed, before⟩ : ∃ timed, middle.calls = timed :: line.calls :=
      ⟨_, (fetchPage_reached came).noted⟩
    refine ⟨request, token, instant, more ++ [timed], wanted, ?_⟩
    rw [noted, before, List.append_assoc, List.singleton_append]

theorem fetch_fails {demand : Demand} {set last : ResultSet} {line after : Line} {error : Error}
    (opened : set.closed = false) (h : set.fetch demand line = (.error error, last, after)) :
    ¬ error.OfConversion ∧ ∃ pages, Fails set line error pages last after := by
  obtain ⟨pages, loads⟩ := load_loads demand set line
  rw [fetch, opened, if_neg (by decide)] at h
  generalize load demand set line = loaded at h loads
  obtain ⟨failure | _, middle, reached⟩ := loaded
  · cases h
    obtain ⟨request, asked⟩ := loads.failed_request
    exact ⟨request, pages, loads.retains, fun _ => asked,
      fun conversion => (request conversion).elim⟩
  · cases h

theorem Loads.brings {demand : Demand} {set last : ResultSet} {line after : Line}
    {pages : List ResultPage} (h : Loads demand set line pages (.ok ()) last after) :
    ∃ replies, line.pages = replies ++ after.pages ∧ Brings replies pages := by
  generalize ended : Except.ok (ε := Error) () = result at h
  induction h with
  | met => exact ⟨[], rfl, rfl⟩
  | failed => cases ended
  | page _ came _ ih =>
    obtain ⟨replies, left, brings⟩ := ih ended
    obtain ⟨reply, used, decoded⟩ := fetchPage_came came
    refine ⟨reply :: replies, ?_, brings_cons_iff.mpr ⟨decoded, brings⟩⟩
    rw [used, left, List.cons_append]

theorem fetch_all_loads {set last : ResultSet} {line after : Line} {rows : List Row}
    (opened : set.closed = false) (h : set.fetch .all line = (.ok rows, last, after)) :
    ∃ pages loaded, Loads .all set line pages (.ok ()) loaded after ∧
      loaded.takeRows .all = (rows, last) := by
  obtain ⟨pages, loads⟩ := load_loads .all set line
  rw [fetch, opened, if_neg (by decide)] at h
  generalize load .all set line = loaded at h loads
  obtain ⟨failure | _, middle, reached⟩ := loaded
  · cases h
  · cases h
    exact ⟨pages, middle, loads, rfl⟩

theorem fetch_all_ok {set last : ResultSet} {line after : Line} {rows : List Row}
    (opened : set.closed = false) (h : set.fetch .all line = (.ok rows, last, after)) :
    ∃ pages replies, Leads set.nextToken pages none ∧ line.pages = replies ++ after.pages ∧
      Brings replies pages ∧
      rows = (set.pending ++ pages.flatMap ResultPage.rows).map (Row.mk set.columns) := by
  obtain ⟨pages, loaded, loads, taken⟩ := fetch_all_loads opened h
  obtain ⟨replies, used, brings⟩ := loads.brings
  have leads := loads.leads
  rw [show loaded.nextToken = none from loads.satisfied] at leads
  refine ⟨pages, replies, leads, used, brings, ?_⟩
  rw [← loads.yields.rows, ← loads.yields.columns]
  exact (congrArg Prod.fst taken).symm

/-- Pages that lead to the end are enough for a fetch of all rows. -/
theorem fetch_all_of_leads {set : ResultSet} {line : Line} {pages : List ResultPage}
    {replies rest : List (Reply TransportError Message.GetQueryResultsResponse)}
    (opened : set.closed = false) (leads : Leads set.nextToken pages none)
    (used : line.pages = replies ++ rest) (brings : Brings replies pages) :
    (set.fetch .all line).1 =
      .ok ((set.pending ++ pages.flatMap ResultPage.rows).map (Row.mk set.columns)) := by
  generalize first : set.nextToken = token at leads
  generalize ended : (none : Option String) = last at leads
  induction leads generalizing set line replies with
  | here =>
    have final : set.wanted? .all = none := first.trans ended.symm
    rw [fetch_of_wanted_none line opened final, List.flatMap_nil, List.append_nil]
    rfl
  | @page token page pages last onward ih =>
    cases replies with
    | nil => cases brings
    | cons reply replies =>
      obtain ⟨decoded, brings⟩ := brings_cons_iff.mp brings
      have wanted : set.wanted? .all = some token := first
      have answer := fetchPage_answer line set.queryId set.pageSize (some token)
      have left := fetchPage_pages line set.queryId set.pageSize (some token)
      rw [Line.nextPage, used, List.cons_append, List.headD_cons, decoded] at answer
      rw [used, List.cons_append, List.tail_cons] at left
      rw [fetch_of_wanted_some opened wanted]
      generalize fetchPage line set.queryId set.pageSize (some token) = found at answer left
      obtain ⟨_, middle⟩ := found
      subst answer
      have onward := @ih (set.append page) middle replies opened left brings rfl ended
      rw [List.flatMap_cons, ← List.append_assoc]
      exact onward

/-- To fetch all rows after failures is to fetch them without the replies that failed. -/
theorem Retains.fetch_all {set last : ResultSet} {line after : Line} {pages : List ResultPage}
    {rows : List Row} (h : Retains set line pages last after) (opened : set.closed = false)
    (fetched : (last.fetch .all after).1 = .ok rows) :
    ∃ used, line.pages = used ++ after.pages ∧
      (set.fetch .all { line with pages := used.filter Reply.isPage ++ after.pages }).1 =
        .ok rows := by
  obtain ⟨used, left, rfl⟩ := h.used
  generalize ended : last.fetch .all after = found at fetched
  obtain ⟨_, final, reached⟩ := found
  subst fetched
  obtain ⟨more, replies, onward, rest, brings, rfl⟩ :=
    fetch_all_ok (h.yields.closed.trans opened) ended
  refine ⟨used, left, ?_⟩
  have leads := h.leads.trans onward
  rw [fetch_all_of_leads opened leads _ ((brings_filter used).append brings)]
  · rw [h.yields.columns, List.flatMap_append, ← List.append_assoc, ← h.yields.rows]
    rfl
  · exact reached.pages
  · change used.filter Reply.isPage ++ after.pages = _
    rw [rest, List.append_assoc]

theorem takeRows_unread (demand : Demand) (set : ResultSet) :
    (set.takeRows demand).2.unread (set.takeRows demand).1 = set := by
  simp [takeRows, unread, Function.comp_def, Demand.take_append_drop]

theorem arrowOf_fails {set last : ResultSet} {line after : Line} {error : Error}
    (opened : set.closed = false)
    (h : QueryCursor.arrowOf set line = (.error error, last, after)) :
    (∃ pages, Fails set line error pages last after) ∧
      (error.OfConversion → last.fetch .all after = set.fetch .all line) := by
  unfold QueryCursor.arrowOf at h
  generalize fetched : set.fetch .all line = found at h
  obtain ⟨failure | rows, taken, reached⟩ := found
  · cases h
    obtain ⟨request, fails⟩ := fetch_fails opened fetched
    exact ⟨fails, fun conversion => (request conversion).elim⟩
  · simp only at h
    split at h
    · cases h
    · rename_i cause unconverted
      cases h
      obtain ⟨pages, loaded, loads, took⟩ := fetch_all_loads opened fetched
      have conversion := Columnar.convert_error unconverted
      have restored : taken.unread rows = loaded := by
        have back := takeRows_unread .all loaded
        rwa [took] at back
      rw [restored]
      refine ⟨⟨pages, loads.retains, fun other => (other conversion).elim,
        fun _ => loads.satisfied⟩, fun _ => ?_⟩
      rw [fetch_of_wanted_none _ (loads.yields.closed.trans opened) loads.satisfied, took]

end ResultSet

end RemoteQuery
