import RemoteQuery.Proofs.CursorRun
import RemoteQuery.Proofs.RowByRow

/-!
# Faults of fetches

What a reply brings is a page or nothing. A page that does not come in is no fault of a conversion,
and a conversion that fails gives one of the two faults of conversions.
-/
namespace RemoteQuery

def Error.OfConversion : Error → Prop
  | data (.conversion ..) | data (.rowWidthMismatch ..) => True
  | _ => False

def Reply.isPage (reply : Reply TransportError Message.GetQueryResultsResponse) : Bool :=
  (ResultSet.pageOf reply.result).isOk

/-- The replies are these pages, and none of them failed. -/
def Brings (replies : List (Reply TransportError Message.GetQueryResultsResponse))
    (pages : List ResultPage) : Prop :=
  replies.map (fun reply => ResultSet.pageOf reply.result) = pages.map Except.ok

theorem brings_cons_iff {reply : Reply TransportError Message.GetQueryResultsResponse}
    {replies : List (Reply TransportError Message.GetQueryResultsResponse)} {page : ResultPage}
    {pages : List ResultPage} :
    Brings (reply :: replies) (page :: pages) ↔
      ResultSet.pageOf reply.result = .ok page ∧ Brings replies pages :=
  List.cons_eq_cons

theorem Brings.append {replies more : List (Reply TransportError Message.GetQueryResultsResponse)}
    {pages others : List ResultPage} (h : Brings replies pages) (h' : Brings more others) :
    Brings (replies ++ more) (pages ++ others) := by
  rw [Brings, List.map_append, List.map_append, h, h']

theorem brings_filter (replies : List (Reply TransportError Message.GetQueryResultsResponse)) :
    Brings (replies.filter Reply.isPage) (decodedPages replies) := by
  induction replies with
  | nil => rfl
  | cons reply rest ih =>
    cases found : ResultSet.pageOf reply.result with
    | error error =>
      have failed : reply.isPage = false := by rw [Reply.isPage, found]; rfl
      simpa [decodedPages, failed, found, Except.toOption] using ih
    | ok page =>
      have delivered : reply.isPage = true := by rw [Reply.isPage, found]; rfl
      simpa [Brings, decodedPages, delivered, found, Except.toOption] using ih

theorem ResultPage.ofResponse_error {response : Message.GetQueryResultsResponse}
    {cause : DataError} (h : ofResponse response = .error cause) :
    ∃ part, cause = .missingSection part := by
  unfold ofResponse at h
  repeat' split at h
  all_goals cases h
  all_goals exact ⟨_, rfl⟩

theorem ResultSet.pageOf_not_ofConversion {error : Error}
    {answer : Except TransportError Message.GetQueryResultsResponse}
    (h : pageOf answer = .error error) : ¬ error.OfConversion := by
  unfold pageOf at h
  split at h
  · cases h
    exact id
  · split at h
    · cases h
    · rename_i malformed
      obtain ⟨part, rfl⟩ := ResultPage.ofResponse_error malformed
      cases h
      exact id

namespace Columnar

theorem convertColumn_error {column : Column} {cells : List (Option String)} {cause : DataError}
    (h : convertColumn column cells = .error cause) : (Error.data cause).OfConversion := by
  have built : ∀ {cause : DataError}, buildArray column.sqlType cells column.name = .error cause →
      (Error.data cause).OfConversion := by
    intro cause h
    unfold buildArray at h
    repeat' split at h
    all_goals cases h
    all_goals trivial
  unfold convertColumn at h
  repeat' split at h
  · exact built h
  · cases h
    trivial
  · exact built h

theorem convertColumns_error {rows : List Cells} {index : Nat} {columns : List Column}
    {cause : DataError} (h : convertColumns rows index columns = .error cause) :
    (Error.data cause).OfConversion := by
  induction columns generalizing index with
  | nil => cases h
  | cons column columns ih =>
    simp only [convertColumns, bind, Except.bind] at h
    split at h
    · rename_i failed
      cases h
      exact convertColumn_error failed
    · split at h
      · rename_i failed
        cases h
        exact ih failed
      · cases h

theorem convert_error {columns : List Column} {rows : List Cells} {cause : DataError}
    (h : convert columns rows = .error cause) : (Error.data cause).OfConversion := by
  unfold convert at h
  split at h
  · cases h
    trivial
  · simp only [bind, Except.bind] at h
    split at h
    · rename_i failed
      cases h
      exact convertColumns_error failed
    · cases h

end Columnar

end RemoteQuery
