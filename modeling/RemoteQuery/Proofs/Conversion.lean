import RemoteQuery.Proofs.MissingBatches

/-!
# Rows made into a batch

A conversion either gives a batch that holds just the values of the cells, or blames one place: the
first row of a wrong width, and if there is none, in the first column that has a fault, its first
NULL if the column forbids NULL, and else its first cell that cannot be read. There is neither a
batch nor an error where the count of a date or of a timestamp does not fit 64 bits, or the bytes of
a column do not fit its array, and nothing is found to blame before that.
-/
namespace RemoteQuery.Columnar

/-- The field and the array of a column, whose cells stand at a position of the rows. -/
structure Shows (column : Column) (rows : List Cells) (index : Nat) (field : Field)
    (array : ColumnArray) : Prop where
  name : field.name = column.name
  nullable : field.nullable = false ↔ column.nullable = .notNull
  type : field.type = column.sqlType.arrow
  built : array.type = field.type
  length : array.values.length = rows.length
  cell : ∀ (row : Nat) (cells : Cells) (cell : Option String), rows[row]? = some cells →
    cells[index]? = some cell →
      ∃ value, array.values[row]? = some value ∧ Reads column.sqlType cell value

/-- Arrays that hold the cells of all columns, where every row fits. -/
structure AllHold (columns : List Column) (rows : List Cells) (arrays : List ColumnArray) :
    Prop where
  fits : ∀ cells ∈ rows, cells.length = columns.length
  holds : List.Forall₂ (fun entry array => Holds entry.1 (cellsAt rows entry.2) array)
    columns.zipIdx arrays

theorem AllHold.convert {columns : List Column} {rows : List Cells} {arrays : List ColumnArray}
    (h : AllHold columns rows arrays) :
    convert columns rows = .ok ⟨.ofColumns columns, rows.length, arrays⟩ := by
  rw [Columnar.convert, misfit?_eq_none_iff.mpr h.fits]
  exact bind_eq_ok_iff.mpr ⟨arrays, convertColumns_of_holds h.holds, rfl⟩

theorem AllHold.getElem? {columns : List Column} {rows : List Cells} {arrays : List ColumnArray}
    (h : AllHold columns rows arrays) {index : Nat} {column : Column}
    (here : columns[index]? = some column) :
    ∃ array, arrays[index]? = some array ∧ Holds column (cellsAt rows index) array := by
  obtain ⟨inside, rfl⟩ := List.getElem?_eq_some_iff.mp here
  have wide : index < arrays.length := by
    rw [← h.holds.length_eq, List.length_zipIdx]
    exact inside
  refine ⟨arrays[index], List.getElem?_eq_getElem wide, ?_⟩
  have held := h.holds.get (by simpa using inside) wide
  simpa using held

section Rows

variable {columns : List Column} {rows : List Cells}

end Rows

/-- What the columnar format asks of a batch. -/
def Batch.Sound (batch : Batch) : Prop :=
  batch.columns.length = batch.schema.fields.length ∧
    (∀ pair ∈ batch.schema.fields.zip batch.columns,
      pair.2.type = pair.1.type ∧ (pair.1.nullable = false → pair.2.nullCount = 0)) ∧
    ∀ array ∈ batch.columns, array.values.length = batch.rowCount

instance (batch : Batch) : Decidable batch.Sound :=
  inferInstanceAs (Decidable (_ ∧ _ ∧ _))

theorem Holds.nullCount_eq_zero {column : Column} {cells : List (Option String)}
    {array : ColumnArray} (h : Holds column cells array)
    (strict : column.nullable = .notNull) : array.nullCount = 0 := by
  rw [ColumnArray.nullCount, List.countP_eq_zero]
  intro value member null
  obtain ⟨row, within, found⟩ := List.getElem_of_mem member
  have inside : row < cells.length := h.reads.length_eq ▸ within
  have reads := h.reads.get inside within
  simp only [List.get_eq_getElem, found, Option.isNone_iff_eq_none.mp null] at reads
  cases given : cells[row] with
  | none => exact h.complete strict (given ▸ List.getElem_mem inside)
  | some text =>
    rw [given] at reads
    exact reads

theorem AllHold.sound {columns : List Column} {rows : List Cells} {arrays : List ColumnArray}
    (h : AllHold columns rows arrays) :
    (⟨.ofColumns columns, rows.length, arrays⟩ : Batch).Sound := by
  have count : arrays.length = columns.length := by
    rw [← h.holds.length_eq, List.length_zipIdx]
  refine ⟨?_, ?_, ?_⟩
  · change arrays.length = (columns.map Field.ofColumn).length
    rw [List.length_map, count]
  · rintro ⟨field, array⟩ member
    obtain ⟨index, paired⟩ := List.mem_iff_getElem?.mp member
    obtain ⟨named, found⟩ := List.getElem?_zip_eq_some.mp paired
    obtain ⟨column, here, rfl⟩ := Option.map_eq_some_iff.mp (List.getElem?_map ▸ named)
    obtain ⟨other, same, holds⟩ := h.getElem? here
    rw [found] at same
    cases same
    exact ⟨holds.type, fun strict => holds.nullCount_eq_zero (allowsNull_eq_false_iff.mp strict)⟩
  · intro array member
    obtain ⟨index, found⟩ := List.mem_iff_getElem?.mp member
    obtain ⟨within, _⟩ := List.getElem?_eq_some_iff.mp found
    obtain ⟨other, same, holds⟩ := h.getElem? (List.getElem?_eq_getElem (count ▸ within))
    rw [found] at same
    cases same
    change _ = rows.length
    rw [← holds.reads.length_eq, cellsAt, List.length_map]

end RemoteQuery.Columnar
