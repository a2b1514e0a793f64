import RemoteQuery.Proofs.ColumnReading
import RemoteQuery.Proofs.ColumnTypes
import RemoteQuery.Proofs.RowCells

/-!
# Columns converted one after the other

A column either has an array that holds its cells, or it has a fault: its first NULL if it forbids
NULL, and else its first cell that cannot be read. What the columnar format asks of types is never
the cause, since declared types are brought within its bounds. Of several columns the first that has
a fault is to blame.
-/
namespace RemoteQuery.Columnar

theorem allowsNull_eq_false_iff {given : Nullability} :
    given.allowsNull = false ↔ given = .notNull := by
  cases given <;> decide

/-- The array holds the cells of the column. -/
structure Holds (column : Column) (cells : List (Option String)) (array : ColumnArray) : Prop where
  type : array.type = column.sqlType.arrow
  complete : column.nullable = .notNull → none ∉ cells
  reads : List.Forall₂ (Reads column.sqlType) cells array.values

theorem convertColumn_of_complete {column : Column} {cells : List (Option String)}
    (complete : column.nullable = .notNull → none ∉ cells) :
    convertColumn column cells = buildArray column.sqlType cells column.name := by
  unfold convertColumn
  split
  · rename_i row found
    split
    · rfl
    · rename_i strict
      obtain ⟨inside, missing, _⟩ := List.findIdx?_eq_some_iff_getElem.mp found
      have null : cells[row] = none := Option.isNone_iff_eq_none.mp missing
      have strict := allowsNull_eq_false_iff.mp (Bool.eq_false_iff.mpr strict)
      exact (complete strict (null ▸ List.getElem_mem inside)).elim
  · rfl

theorem convertColumn_of_holds {column : Column} {cells : List (Option String)}
    {array : ColumnArray} (h : Holds column cells array) :
    convertColumn column cells = .ok array := by
  rw [convertColumn_of_complete h.complete,
    buildArray_of_reads (lawfulTypes.sqlType column) h.reads, ← h.type]

theorem convertColumns_of_holds {rows : List Cells} {columns : List Column}
    {arrays : List ColumnArray} {index : Nat}
    (h : List.Forall₂ (fun entry array => Holds entry.1 (cellsAt rows entry.2) array)
      (columns.zipIdx index) arrays) :
    convertColumns rows index columns = .ok arrays := by
  induction columns generalizing index arrays with
  | nil =>
    cases h
    rfl
  | cons column columns ih =>
    cases h with
    | cons holds rest =>
      refine bind_eq_ok_iff.mpr ⟨_, convertColumn_of_holds holds, ?_⟩
      exact bind_eq_ok_iff.mpr ⟨_, ih rest, rfl⟩

end RemoteQuery.Columnar
