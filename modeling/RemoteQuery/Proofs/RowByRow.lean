import RemoteQuery.Proofs.Loading

/-!
# Rows gathered one by one

A fetch loads the pages that it needs and takes rows only when all of them have come in. The same
rows can be gathered one at a time: each is popped and counted as soon as it is pending, a page is
asked for only when nothing is pending, and the rows gathered so far are put back if that fails.
The two agree on the answer, on what is left, and on the calls, so that what is said of a fetch
holds of the gathering too.
-/
namespace RemoteQuery.ResultSet

/-- The first pending row is handed out, and `rest` stays. -/
def pop (set : ResultSet) (rest : List Cells) : ResultSet :=
  { set with pending := rest, rowsReturned := set.rowsReturned + 1 }

/-- A gathering that has `cells` already goes on until the demand is met. -/
inductive Gathers (demand : Demand) :
    List Cells → ResultSet → Line → Except Error (List Row) → ResultSet → Line → Prop
  | met {cells : List Cells} {set : ResultSet} {line : Line}
      (enough : demand.metBy cells.length = true) :
      Gathers demand cells set line (.ok (cells.map (Row.mk set.columns))) set line
  | row {cells rest : List Cells} {values : Cells} {set last : ResultSet} {line after : Line}
      {result : Except Error (List Row)} (short : demand.metBy cells.length = false)
      (first : set.pending = values :: rest)
      (more : Gathers demand (cells ++ [values]) (set.pop rest) line result last after) :
      Gathers demand cells set line result last after
  | ended {cells : List Cells} {set : ResultSet} {line : Line}
      (short : demand.metBy cells.length = false) (drained : set.pending = [])
      (final : set.nextToken = none) :
      Gathers demand cells set line (.ok (cells.map (Row.mk set.columns))) set line
  | failed {cells : List Cells} {set : ResultSet} {line after : Line} {token : String}
      {error : Error} (short : demand.metBy cells.length = false) (drained : set.pending = [])
      (wanted : set.nextToken = some token)
      (refused : fetchPage line set.queryId set.pageSize (some token) = (.error error, after)) :
      Gathers demand cells set line (.error error)
        (set.unread (cells.map (Row.mk set.columns))) after
  | page {cells : List Cells} {set last : ResultSet} {line middle after : Line} {token : String}
      {page : ResultPage} {result : Except Error (List Row)}
      (short : demand.metBy cells.length = false) (drained : set.pending = [])
      (wanted : set.nextToken = some token)
      (came : fetchPage line set.queryId set.pageSize (some token) = (.ok page, middle))
      (more : Gathers demand cells (set.append page) middle result last after) :
      Gathers demand cells set line result last after

theorem gathers_total (demand : Demand) (cells : List Cells) (set : ResultSet) (line : Line) :
    ∃ result last after, Gathers demand cells set line result last after := by
  -- A page that comes leaves fewer replies, and a row that is popped fewer rows pending.
  generalize size : line.pages.length = count
  induction count using Nat.strongRecOn generalizing cells set line with
  | ind count fewer =>
    generalize pending : set.pending = rows
    induction rows generalizing cells set with
    | nil =>
      cases short : demand.metBy cells.length with
      | true => exact ⟨_, _, _, .met short⟩
      | false =>
        cases wanted : set.nextToken with
        | none => exact ⟨_, _, _, .ended short pending wanted⟩
        | some token =>
          generalize came : fetchPage line set.queryId set.pageSize (some token) = found
          obtain ⟨error | page, middle⟩ := found
          · exact ⟨_, _, _, .failed short pending wanted came⟩
          · obtain ⟨reply, used, _⟩ := fetchPage_came came
            have shorter : middle.pages.length < count := by
              rw [← size, used, List.length_cons]
              omega
            obtain ⟨_, _, _, more⟩ := fewer _ shorter cells (set.append page) middle rfl
            exact ⟨_, _, _, .page short pending wanted came more⟩
    | cons values rest ih =>
      cases short : demand.metBy cells.length with
      | true => exact ⟨_, _, _, .met short⟩
      | false =>
        obtain ⟨_, _, _, more⟩ := ih (cells ++ [values]) (set.pop rest) rfl
        exact ⟨_, _, _, .row short pending more⟩

theorem fetch_of_wanted_none {demand : Demand} {set : ResultSet} (line : Line)
    (opened : set.closed = false) (enough : set.wanted? demand = none) :
    fetch demand set line = (.ok (set.takeRows demand).1, (set.takeRows demand).2, line) := by
  rw [fetch, opened, if_neg (by decide), load_eq, enough]

theorem fetch_of_wanted_some {demand : Demand} {set : ResultSet} {line : Line} {token : String}
    (opened : set.closed = false) (wanted : set.wanted? demand = some token) :
    fetch demand set line =
      match fetchPage line set.queryId set.pageSize (some token) with
      | (.error error, line) => (.error error, set, line)
      | (.ok page, line) => fetch demand (set.append page) line := by
  rw [fetch, opened, if_neg (by decide), load_eq, wanted]
  simp only
  cases fetchPage line set.queryId set.pageSize (some token) with
  | mk answer after =>
    cases answer with
    | error error => rfl
    | ok page =>
      have opened : (set.append page).closed = false := opened
      simp only [fetch, opened, Bool.false_eq_true, if_false]

/-- A gathering in which the rows gathered so far are pending again. -/
def regathered (set : ResultSet) (cells : List Cells) : ResultSet :=
  set.unread (cells.map (Row.mk set.columns))

theorem pending_regathered (set : ResultSet) (cells : List Cells) :
    (set.regathered cells).pending = cells ++ set.pending := by
  simp [regathered, unread, Function.comp_def]

theorem closed_regathered (set : ResultSet) (cells : List Cells) :
    (set.regathered cells).closed = set.closed := rfl

theorem regathered_pop {set : ResultSet} {values : Cells} {cells rest : List Cells}
    (first : set.pending = values :: rest) :
    (set.pop rest).regathered (cells ++ [values]) = set.regathered cells := by
  simp [regathered, unread, pop, first]

theorem regathered_append (set : ResultSet) (cells : List Cells) (page : ResultPage) :
    (set.append page).regathered cells = (set.regathered cells).append page := by
  simp [regathered, unread, append]

theorem takeRows_regathered {demand : Demand} {set : ResultSet} {cells : List Cells}
    (counted : cells.length ≤ set.rowsReturned)
    (taken : demand.take (cells ++ set.pending) = cells)
    (left : demand.drop (cells ++ set.pending) = set.pending) :
    (set.regathered cells).takeRows demand = (cells.map (Row.mk set.columns), set) := by
  rw [takeRows, pending_regathered, taken, left]
  simp [regathered, unread, counted]

theorem wanted?_regathered {demand : Demand} {set : ResultSet} {cells : List Cells}
    (short : demand.metBy cells.length = false) (drained : set.pending = []) :
    (set.regathered cells).wanted? demand = set.nextToken := by
  rw [wanted?, pending_regathered, drained, List.append_nil, if_neg (by simp [short])]
  rfl

/-- What has been gathered may as well be pending still. -/
theorem Gathers.fetch_eq {demand : Demand} {cells : List Cells} {set last : ResultSet}
    {line after : Line} {result : Except Error (List Row)}
    (h : Gathers demand cells set line result last after) (opened : set.closed = false)
    (counted : cells.length ≤ set.rowsReturned)
    (bounded : ∀ count, demand = .rows count → cells.length ≤ count) :
    fetch demand (set.regathered cells) line = (result, last, after) := by
  induction h with
  | @met cells set line enough =>
    cases demand with
    | all => cases enough
    | rows count =>
      have exact : cells.length = count := by
        have most := bounded count rfl
        simp only [Demand.metBy, decide_eq_true_eq] at enough
        omega
      have satisfied : (set.regathered cells).wanted? (.rows count) = none := by
        rw [wanted?, pending_regathered, if_pos (by simp [Demand.metBy, exact])]
      rw [fetch_of_wanted_none line ((closed_regathered set cells).trans opened) satisfied,
        takeRows_regathered counted]
      · simp [Demand.take, ← exact]
      · simp [Demand.drop, ← exact]
  | @row cells rest values set last line after result short first more ih =>
    rw [← regathered_pop first]
    apply ih opened
    · simpa [pop] using counted
    · rintro count rfl
      have fewer := Demand.metBy_rows_eq_false_iff.mp short
      simp only [List.length_append, List.length_singleton]
      omega
  | @ended cells set line short drained final =>
    have satisfied : (set.regathered cells).wanted? demand = none :=
      (wanted?_regathered short drained).trans final
    rw [fetch_of_wanted_none line ((closed_regathered set cells).trans opened) satisfied,
      takeRows_regathered counted]
    · rw [drained, List.append_nil]
      exact Demand.take_of_unmet short
    · rw [drained, List.append_nil]
      exact Demand.drop_of_unmet short
  | @failed cells set line after token error short drained wanted refused =>
    have missing : (set.regathered cells).wanted? demand = some token :=
      (wanted?_regathered short drained).trans wanted
    have failed : fetchPage line (set.regathered cells).queryId (set.regathered cells).pageSize
        (some token) = (.error error, after) := refused
    rw [fetch_of_wanted_some ((closed_regathered set cells).trans opened) missing, failed]
    rfl
  | @page cells set last line middle after token page result short drained wanted came more ih =>
    have missing : (set.regathered cells).wanted? demand = some token :=
      (wanted?_regathered short drained).trans wanted
    have delivered : fetchPage line (set.regathered cells).queryId
        (set.regathered cells).pageSize (some token) = (.ok page, middle) := came
    have onward := ih opened counted bounded
    rw [regathered_append] at onward
    rw [fetch_of_wanted_some ((closed_regathered set cells).trans opened) missing, delivered]
    exact onward

theorem fetch_eq_iff_gathers {demand : Demand} {set last : ResultSet} {line after : Line}
    {result : Except Error (List Row)} (opened : set.closed = false) :
    fetch demand set line = (result, last, after) ↔
      Gathers demand [] set line result last after := by
  have nothing : set.regathered [] = set := rfl
  constructor
  · intro fetched
    obtain ⟨_, _, _, gathers⟩ := gathers_total demand [] set line
    have same := gathers.fetch_eq opened (Nat.zero_le _) fun _ _ => Nat.zero_le _
    rw [nothing, fetched] at same
    cases same
    exact gathers
  · intro gathers
    exact gathers.fetch_eq opened (Nat.zero_le _) fun _ _ => Nat.zero_le _

end RemoteQuery.ResultSet
