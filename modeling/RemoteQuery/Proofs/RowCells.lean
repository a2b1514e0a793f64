import RemoteQuery.Columnar.Batch

/-!
# The cells of rows

Rows that are all of one width have a cell of each at every position below it. The first row of
another width is found by going through them.
-/
namespace RemoteQuery.Columnar

/-- The cells of all rows at one position. -/
def cellsAt (rows : List Cells) (index : Nat) : List (Option String) :=
  rows.map fun row => (row[index]?).join

theorem misfit?_eq_none_iff {width row : Nat} {rows : List Cells} :
    misfit? width row rows = none ↔ ∀ cells ∈ rows, cells.length = width := by
  induction rows generalizing row with
  | nil => exact ⟨fun _ => nofun, fun _ => rfl⟩
  | cons cells rows ih =>
    rw [misfit?, List.forall_mem_cons]
    split
    · rename_i fits
      rw [ih, and_iff_right fits]
    · rename_i unfit
      exact ⟨nofun, fun h => (unfit h.1).elim⟩

end RemoteQuery.Columnar
