import RemoteQuery.Proofs.PageDelivery

/-!
# Loading and taking rows

What a fetch does to a result set is told apart into the pages that came in and the rows that were
handed out. Pages come in whether or not the fetch succeeds; rows are handed out only if it does.
The pages are those among the replies used up that could be decoded, in the order of the requests.
-/
namespace RemoteQuery

namespace ResultSet

theorem wanted?_eq_some_iff {demand : Demand} {set : ResultSet} {token : String} :
    set.wanted? demand = some token ↔
      demand.metBy set.pending.length = false ∧ set.nextToken = some token := by
  unfold wanted?
  split <;> simp_all

inductive Loads (demand : Demand) :
    ResultSet → Line → List ResultPage → Except Error Unit → ResultSet → Line → Prop
  | met {set : ResultSet} {line : Line} (enough : set.wanted? demand = none) :
      Loads demand set line [] (.ok ()) set line
  | failed {set : ResultSet} {line after : Line} {token : String} {error : Error}
      (wanted : set.wanted? demand = some token)
      (refused : fetchPage line set.queryId set.pageSize (some token) = (.error error, after)) :
      Loads demand set line [] (.error error) set after
  | page {set last : ResultSet} {line middle after : Line} {token : String} {page : ResultPage}
      {pages : List ResultPage} {result : Except Error Unit}
      (wanted : set.wanted? demand = some token)
      (came : fetchPage line set.queryId set.pageSize (some token) = (.ok page, middle))
      (rest : Loads demand (set.append page) middle pages result last after) :
      Loads demand set line (page :: pages) result last after

theorem load_loads (demand : Demand) (set : ResultSet) (line : Line) :
    ∃ pages, Loads demand set line pages (load demand set line).1 (load demand set line).2.1
      (load demand set line).2.2 := by
  generalize size : line.pages.length = count
  induction count generalizing set line with
  | zero =>
    rw [load_eq]
    cases wanted : set.wanted? demand with
    | none => exact ⟨[], .met wanted⟩
    | some token =>
      obtain ⟨error, failed⟩ := fetchPage_exhausted (List.length_eq_zero_iff.mp size) set.queryId
        set.pageSize (some token)
      generalize refused : fetchPage line set.queryId set.pageSize (some token) = found at failed
      obtain ⟨_, after⟩ := found
      subst failed
      simp only [refused]
      exact ⟨[], .failed wanted refused⟩
  | succ count ih =>
    rw [load_eq]
    cases wanted : set.wanted? demand with
    | none => exact ⟨[], .met wanted⟩
    | some token =>
      have left := fetchPage_pages line set.queryId set.pageSize (some token)
      generalize came : fetchPage line set.queryId set.pageSize (some token) = found at left
      obtain ⟨error | page, after⟩ := found
      · simp only [came]
        exact ⟨[], .failed wanted came⟩
      · have shorter : after.pages.length = count := by
          rw [left, List.length_tail, size, Nat.add_sub_cancel]
        obtain ⟨pages, rest⟩ := ih (set.append page) after shorter
        simp only [came]
        exact ⟨page :: pages, .page wanted came rest⟩

theorem Loads.yields {demand : Demand} {set last : ResultSet} {line after : Line}
    {pages : List ResultPage} {result : Except Error Unit}
    (h : Loads demand set line pages result last after) : set.Yields pages [] last := by
  induction h with
  | met | failed => exact .refl _
  | page _ _ _ ih => exact (yields_append _ _).trans ih

theorem Loads.delivers {demand : Demand} {set last : ResultSet} {line after : Line}
    {pages : List ResultPage} {result : Except Error Unit}
    (h : Loads demand set line pages result last after) :
    line.Delivers set.queryId pages after := by
  induction h with
  | met => exact .refl _ _
  | failed _ refused => exact fetchPage_delivers refused
  | page _ came _ ih => exact (fetchPage_delivers came).trans ih

theorem Loads.satisfied {demand : Demand} {set last : ResultSet} {line after : Line}
    {pages : List ResultPage} (h : Loads demand set line pages (.ok ()) last after) :
    last.wanted? demand = none := by
  generalize ended : Except.ok (ε := Error) () = result at h
  induction h with
  | met enough => exact enough
  | failed => cases ended
  | page _ _ _ ih => exact ih ended

theorem fetch_closed {set : ResultSet} (closed : set.closed = true) (demand : Demand)
    (line : Line) : set.fetch demand line = (.error (.programming .cursorClosed), set, line) := by
  rw [fetch, closed, if_pos rfl]

/-- What a fetch does. It hands out no more rows than it was asked for, and if it hands out fewer it
has come to the end. -/
inductive Fetches (demand : Demand) (set : ResultSet) (line : Line) :
    Except Error (List Row) → ResultSet → Line → Prop
  | failed {pages : List ResultPage} {error : Error} {last : ResultSet} {after : Line}
      (delivers : line.Delivers set.queryId pages after) (yields : set.Yields pages [] last) :
      Fetches demand set line (.error error) last after
  | handed {pages : List ResultPage} {cells : List Cells} {last : ResultSet} {after : Line}
      (delivers : line.Delivers set.queryId pages after) (yields : set.Yields pages cells last)
      (bounded : ∀ count, demand = .rows count → cells.length ≤ count)
      (ended : demand.metBy cells.length = false → last.pending = [] ∧ last.nextToken = none) :
      Fetches demand set line (.ok (cells.map (Row.mk set.columns))) last after

theorem takeRows_ended {demand : Demand} {set : ResultSet} (enough : set.wanted? demand = none)
    (short : demand.metBy (demand.take set.pending).length = false) :
    (set.takeRows demand).2.pending = [] ∧ set.nextToken = none := by
  unfold wanted? at enough
  cases demand with
  | rows count =>
    simp only [Demand.metBy, Demand.take, List.length_take, decide_eq_false_iff_not] at short
    rw [if_neg (by simp only [Demand.metBy, decide_eq_true_eq]; omega)] at enough
    exact ⟨List.drop_eq_nil_of_le (by omega), enough⟩
  | all => exact ⟨rfl, enough⟩

theorem fetch_fetches {demand : Demand} {set last : ResultSet} {line after : Line}
    {result : Except Error (List Row)} (opened : set.closed = false)
    (h : fetch demand set line = (result, last, after)) :
    Fetches demand set line result last after := by
  obtain ⟨pages, loads⟩ := load_loads demand set line
  rw [fetch, opened, if_neg (by decide)] at h
  generalize load demand set line = loaded at h loads
  obtain ⟨error | _, middle, _⟩ := loaded
  · cases h
    exact .failed loads.delivers loads.yields
  · cases h
    change Fetches demand set line (.ok ((demand.take middle.pending).map (Row.mk middle.columns)))
      (middle.takeRows demand).2 after
    have yields := loads.yields.trans (yields_takeRows demand middle)
    rw [List.append_nil, List.nil_append] at yields
    rw [loads.yields.columns]
    refine .handed loads.delivers yields ?_ (takeRows_ended loads.satisfied)
    rintro count rfl
    exact List.length_take_le _ _

end ResultSet

end RemoteQuery
