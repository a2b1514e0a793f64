import RemoteQuery.Proofs.ExecutionDiscipline

/-!
# Which calls a cursor makes

Every call about a query carries the identifier that the latest submission was answered with, over
a whole run. Pages are asked for only once the service has said that the query succeeded, and a
statement is stopped once, and only if it is given up. Calls are given latest first, so that the
rest of a list is what came before.
-/
namespace RemoteQuery

namespace QueryCursor

/-- The calls that one action makes, and no others. -/
def Complies (cursor : QueryCursor) (line : Line) (calls : List TimedCall) (answer : Answer) :
    Action → Prop
  | .execute _ => ∃ result, answer = .done result ∧ Disciplined cursor line result calls
  | .cancel =>
    match cursor.queryId with
    | none => calls = []
    | some queryId => ∃ instant, calls = [⟨instant, .stopQuery queryId⟩]
  | _ => countOf .stopQuery calls = 0

/-- The query that an action is about: the one of the cursor, or one that it submits. -/
inductive Sends (cursor : QueryCursor) (line : Line) (later : QueryCursor) :
    List TimedCall → Prop
  | nothing (same : later.queryId = cursor.queryId) : Sends cursor line later []
  | about {queryId : String} {calls : List TimedCall} (same : later.queryId = cursor.queryId)
      (holds : cursor.queryId = some queryId) (about : OnlyAbout queryId calls) :
      Sends cursor line later calls
  | unsubmitted {instant : Nat} {request : Message.StartQueryRequest}
      (none : later.queryId = none) : Sends cursor line later [⟨instant, .startQuery request⟩]
  | submitted {queryId : String} {instant : Nat} {request : Message.StartQueryRequest}
      {calls : List TimedCall} (holds : later.queryId = some queryId)
      (answered : submittedId? line.service line.started = some queryId)
      (about : OnlyAbout queryId calls) :
      Sends cursor line later (calls ++ [⟨instant, .startQuery request⟩])

theorem concluded_sends {cursor later : QueryCursor} {queryId : String} {line after : Line}
    {outcome : PollOutcome} {result : Except Error Unit} {calls : List TimedCall}
    (h : Concluded cursor queryId line outcome result later calls after) :
    later.queryId = cursor.queryId ∧ OnlyAbout queryId calls := by
  cases h with
  | unsuccessful | timedOut | interrupted => exact ⟨rfl, nofun⟩
  | unopened _ _ _ asks => exact ⟨rfl, asks.onlyAbout⟩
  | opened _ _ asks => exact ⟨rfl, asks.onlyAbout⟩

theorem executed_sends {cursor later : QueryCursor} {sql : String} {line after : Line}
    {result : Except Error Unit} {calls : List TimedCall}
    (h : Executed cursor.reset sql line result later calls after) :
    Sends cursor line later calls := by
  cases h with
  | unsubmitted => exact .unsubmitted rfl
  | unpolled submits _ concludes =>
    obtain ⟨instant, token, rfl⟩ := submits.request
    exact .submitted rfl submits.answered concludes.onlyAbout
  | concluded submits _ concludes _ concluded =>
    obtain ⟨instant, token, rfl⟩ := submits.request
    obtain ⟨same, about⟩ := concluded_sends concluded
    rw [← List.append_assoc]
    exact .submitted same submits.answered (about.append concludes.onlyAbout)

theorem acts_complies {cursor later : QueryCursor} {line after : Line} {action : Action}
    {answer : Answer} (consistent : Consistent cursor)
    (acts : Acts cursor line action answer later after) :
    ∃ calls, line.Reaches calls after ∧ Complies cursor line calls answer action ∧
      Sends cursor line later calls := by
  cases acts with
  | refused =>
    refine ⟨[], .refl _, ⟨_, rfl, ?_⟩, .nothing rfl⟩
    refine disciplined_quiet rfl ?_ ?_
    · rintro (⟨_, _, same⟩ | ⟨⟨_, _, same⟩, _⟩) <;> cases same
    · intro later timed earlier split asks
      exact (ne_split_of_countOf_eq_zero rfl asks split).elim
  | @executed _ result _ calls _ _ _ reaches executed =>
    have disciplined := executed_disciplined executed
    refine ⟨calls, reaches, ⟨result, rfl, ?_⟩, ?_⟩
    · exact ⟨disciplined.pages, disciplined.single, disciplined.stops, disciplined.afterwards⟩
    · cases executed_sends executed with
      | nothing same => exact .nothing same
      | about same holds about => exact .about same holds about
      | unsubmitted none => exact .unsubmitted none
      | submitted holds answered about => exact .submitted holds answered about
  | fetched fetch fetched =>
    have complies {calls : List TimedCall} (none : countOf .stopQuery calls = 0) :
        Complies cursor line calls answer action := by
      cases action <;> first | exact none | cases fetch
    cases fetched with
    | closed | missing => exact ⟨[], .refl _, complies rfl, .nothing rfl⟩
    | served _ holds serves =>
      obtain ⟨⟨calls, reaches, asks, _⟩, _, _, _⟩ := serves
      obtain ⟨_, _, _, queryId⟩ := consistent.result _ holds
      exact ⟨calls, reaches, complies (asks.countOf_eq_zero (by decide)),
        .about rfl queryId asks.onlyAbout⟩
  | unheld none =>
    refine ⟨[], .refl _, ?_, .nothing rfl⟩
    rw [Complies, none]
  | cancelled held reaches =>
    refine ⟨_, reaches, ?_, .about rfl held (.cons rfl nofun)⟩
    rw [Complies, held]
    exact ⟨_, rfl⟩
  | closed | signalled | fired | sized | unsized => exact ⟨[], .refl _, rfl, .nothing rfl⟩
  | passed => exact ⟨[], line.reaches_wait _, rfl, .nothing rfl⟩

/-- What is known of a run: its calls are attributed, and the cursor holds the identifier that the
latest submission was answered with, if it holds one. -/
structure Tracks (line : Line) (calls : List TimedCall) (cursor : QueryCursor) (now : Line) :
    Prop where
  reaches : line.Reaches calls now
  attributed : Attributed line.service line.started calls
  consistent : Consistent cursor
  latest : ∀ queryId, cursor.queryId = some queryId →
    latestId? line.service line.started calls = some queryId

theorem tracks_act {line now after : Line} {calls : List TimedCall} {cursor later : QueryCursor}
    {action : Action} {answer : Answer} (h : Tracks line calls cursor now)
    (acted : cursor.act? now action = some (answer, later, after)) :
    ∃ more, Tracks line (more ++ calls) later after := by
  obtain ⟨more, onward, _, sends⟩ := acts_complies h.consistent (h.consistent.acts acted)
  have reaches := h.reaches.trans onward
  have consistent := consistent_act h.consistent acted
  have start (instant : Nat) (request : Message.StartQueryRequest) :
      Attributed line.service line.started (⟨instant, .startQuery request⟩ :: calls) :=
    ⟨h.attributed, nofun⟩
  refine ⟨more, ?_⟩
  cases sends with
  | nothing same => exact ⟨reaches, h.attributed, consistent, same ▸ h.latest⟩
  | @about queryId _ same holds about =>
    have latest := h.latest queryId holds
    have nonempty : queryId ≠ "" := by
      rintro rfl
      exact h.consistent.nonempty holds
    refine ⟨reaches, h.attributed.append about nonempty latest, consistent, ?_⟩
    rw [same, latestId?_append about]
    exact h.latest
  | unsubmitted none =>
    refine ⟨reaches, start _ _, consistent, ?_⟩
    rw [none]
    exact nofun
  | @submitted queryId instant request rest holds answered about =>
    have nonempty : queryId ≠ "" := by
      rintro rfl
      exact consistent.nonempty holds
    have latest : latestId? line.service line.started (⟨instant, .startQuery request⟩ :: calls) =
        some queryId := by
      rw [← answered, h.reaches.service, h.reaches.started]
      rfl
    rw [List.append_assoc] at reaches ⊢
    refine ⟨reaches, (start _ _).append about nonempty latest, consistent, ?_⟩
    intro held same
    rw [holds] at same
    cases same
    rw [latestId?_append about]
    exact latest

theorem Run.tracks {cursor current : QueryCursor} {line now : Line}
    {history : List (Action × Answer)} (run : Run cursor line history current now)
    (consistent : Consistent cursor) (fresh : cursor.queryId = none) :
    ∃ calls, Tracks line calls current now := by
  induction run with
  | start =>
    refine ⟨[], .refl line, trivial, consistent, ?_⟩
    rw [fresh]
    exact nofun
  | act _ acted ih =>
    obtain ⟨calls, tracks⟩ := ih
    obtain ⟨more, onward⟩ := tracks_act tracks acted
    exact ⟨more ++ calls, onward⟩

/-- Over a run of a cursor that a connection has made, each call about a query carries the
identifier of the latest submission; each further action makes the calls that it is allowed; and
what a timeout gives and leaves behind does not depend on the answer to its stop. -/
theorem run_disciplined {connection : Connection} {opening line now : Line}
    {cursor current : QueryCursor} {history : List (Action × Answer)}
    (makes : connection.Makes opening cursor) (run : Run cursor line history current now) :
    (∃ calls, now.calls = calls ++ line.calls ∧ Attributed line.service line.started calls) ∧
    (∀ action answer later after, current.act? now action = some (answer, later, after) →
      ∃ calls, after.calls = calls ++ now.calls ∧ Complies current now calls answer action) ∧
    (∀ sql queryId seconds later after stops,
      current.execute? sql now =
        some (.error (.operational (.timedOut queryId seconds)), later, after) →
      ∃ other, current.execute? sql (now.withStops stops) =
        some (.error (.operational (.timedOut queryId seconds)), later, other)) := by
  obtain ⟨client, options, _, rfl⟩ := makes.fresh
  obtain ⟨calls, tracks⟩ := run.tracks (consistent_fresh makes) rfl
  refine ⟨⟨calls, tracks.reaches.noted, tracks.attributed⟩, ?_, ?_⟩
  · intro action answer later after acted
    have acts := tracks.consistent.acts acted
    obtain ⟨more, onward, complies, _⟩ := acts_complies tracks.consistent acts
    exact ⟨more, onward.noted, complies⟩
  · intro sql queryId seconds later after stops timedOut
    exact execute?_withStops stops timedOut

/-- The prompt line with a service whose polls are answered only after two minutes. -/
def slowLine : Line :=
  promptLine.on { promptService with
    execution := fun index queryId =>
      { promptService.execution index queryId with delay := 120000 } }

theorem run_disciplined_prompt :
    (∃ current now history calls, Run plainCursor promptLine history current now ∧
      history.map Prod.fst = [.execute "SELECT n", .fetchAll, .cancel, .close] ∧
      now.calls = calls ++ promptLine.calls ∧ now.calls.length = 5 ∧
      Attributed promptService 0 calls) ∧
    ∀ stops, ∃ later after other,
      plainCursor.execute? "SELECT n" slowLine =
        some (.error (.operational (.timedOut "q-1" 60)), later, after) ∧
      plainCursor.execute? "SELECT n" (slowLine.withStops stops) =
        some (.error (.operational (.timedOut "q-1" 60)), later, other) := by
  have makes : plainConnection.Makes promptLine plainCursor := Connection.makes_cursor rfl
  constructor
  · have executed : plainCursor.act? promptLine (.execute "SELECT n") =
        some (.done (.ok ()), openedCursor, openedLine) :=
      congrArg (Option.map (answered .done)) plainCursor_execute
    have run : Run plainCursor promptLine
        ([] ++ [(.execute "SELECT n", _)] ++ [(.fetchAll, _)] ++ [(.cancel, _)] ++ [(.close, _)])
        _ _ :=
      .act (.act (.act (.act .start executed) rfl) rfl) rfl
    obtain ⟨⟨calls, noted, attributed⟩, _⟩ := run_disciplined makes run
    exact ⟨_, _, _, calls, run, rfl, noted, rfl, attributed⟩
  · intro stops
    have answer : (plainCursor.execute? "SELECT n" slowLine).map (fun found => found.1) =
      some (.error (.operational (.timedOut "q-1" 60))) := rfl
    obtain ⟨⟨result, later, after⟩, timedOut, same⟩ := Option.map_eq_some_iff.mp answer
    cases same
    obtain ⟨_, _, independent⟩ := run_disciplined makes (@Run.start _ slowLine)
    obtain ⟨other, again⟩ := independent _ _ _ _ _ stops timedOut
    exact ⟨later, after, other, timedOut, again⟩

end QueryCursor

end RemoteQuery
