import Mathlib.Data.List.Forall2
import RemoteQuery.Columnar.Batch

/-!
# Cells read into an array

Each cell of a column is read by itself. An array holds what all of them read as, and the first one
that cannot be read is the fault of the column. What is said of the readings of one type alone, of
its integers or of its errors, carries over to the arrays of the type.
-/
namespace RemoteQuery.Columnar

/-- A NULL is read as a NULL, and a text as what it stands for in the type. -/
def Reads (type : SqlType) : Option String → Option Value → Prop
  | none, none => True
  | some text, some value => readCell type text = .ok value
  | _, _ => False

def Unreadable (type : SqlType) (cells : List (Option String)) (row : Nat) (fault : Fault) : Prop :=
  ∃ text, cells[row]? = some (some text) ∧ readCell type text = .error fault

/-- The first cell that cannot be read, with its fault. -/
def FirstUnreadable (type : SqlType) (cells : List (Option String)) (row : Nat) (fault : Fault) :
    Prop :=
  Unreadable type cells row fault ∧ ∀ earlier < row, ∀ fault, ¬ Unreadable type cells earlier fault

theorem readCells_of_reads {type : SqlType} {cells : List (Option String)}
    {values : List (Option Value)} (h : List.Forall₂ (Reads type) cells values) (row : Nat)
    (before : List (Option Value)) :
    readCells type row before cells = .ok (before.reverse ++ values) := by
  induction h generalizing row before with
  | nil => rw [readCells, List.append_nil]
  | @cons cell value _ _ reads _ ih =>
    match cell, value, reads with
    | none, none, _ =>
      rw [readCells, ih, List.reverse_cons, List.append_assoc, List.singleton_append]
    | some text, some value, reads =>
      have read : readCell type text = .ok value := reads
      rw [readCells, read]
      simp only [ih, List.reverse_cons, List.append_assoc, List.singleton_append]

theorem readCells_of_unreadable {type : SqlType} {cells : List (Option String)} {offset : Nat}
    {fault : Fault} (h : FirstUnreadable type cells offset fault) (row : Nat)
    (before : List (Option Value)) :
    readCells type row before cells = .error (row + offset, fault) := by
  induction cells generalizing offset row before with
  | nil =>
    obtain ⟨⟨_, none, _⟩, _⟩ := h
    cases none
  | cons cell cells ih =>
    obtain ⟨⟨text, here, failed⟩, first⟩ := h
    cases offset with
    | zero =>
      cases here
      rw [readCells, failed]
      rfl
    | succ offset =>
      have rest : FirstUnreadable type cells offset fault :=
        ⟨⟨text, here, failed⟩, fun earlier less => first (earlier + 1) (Nat.succ_lt_succ less)⟩
      have place : row + (offset + 1) = row + 1 + offset := by omega
      cases cell with
      | none => rw [readCells, ih rest, place]
      | some cell =>
        rw [readCells]
        cases read : readCell type cell with
        | error cause => exact (first 0 (Nat.succ_pos offset) cause ⟨cell, rfl, read⟩).elim
        | ok value =>
          simp only
          rw [ih rest, place]

theorem reads_or_unreadable (type : SqlType) (cells : List (Option String)) :
    (∃ values, List.Forall₂ (Reads type) cells values) ∨
      ∃ row fault, FirstUnreadable type cells row fault := by
  induction cells with
  | nil => exact .inl ⟨[], .nil⟩
  | cons cell cells ih =>
    have head : (∃ value, Reads type cell value) ∨
        ∃ text fault, cell = some text ∧ readCell type text = .error fault := by
      cases cell with
      | none => exact .inl ⟨none, trivial⟩
      | some text =>
        cases read : readCell type text with
        | ok value => exact .inl ⟨some value, read⟩
        | error fault => exact .inr ⟨text, fault, rfl, read⟩
    rcases head with ⟨value, reads⟩ | ⟨text, fault, rfl, failed⟩
    · rcases ih with ⟨values, rest⟩ | ⟨row, fault, here, first⟩
      · exact .inl ⟨value :: values, .cons reads rest⟩
      · refine .inr ⟨row + 1, fault, here, ?_⟩
        intro earlier less cause unreadable
        cases earlier with
        | zero =>
          obtain ⟨text, same, failed⟩ := unreadable
          cases same
          cases value with
          | none => exact reads
          | some value => exact nomatch failed.symm.trans reads
        | succ earlier => exact first earlier (Nat.lt_of_succ_lt_succ less) cause unreadable
    · exact .inr ⟨0, fault, ⟨text, rfl, failed⟩, nofun⟩

/-- The array of a type is of the type that the schema gives to its columns. -/
theorem builtType_eq_arrow (type : SqlType) : builtType type = type.arrow := by
  cases type <;> rfl

theorem buildArray_of_reads {type : SqlType} {cells : List (Option String)}
    {values : List (Option Value)} (sound : typeFault? type = none)
    (h : List.Forall₂ (Reads type) cells values) (column : String) :
    buildArray type cells column = .ok ⟨type.arrow, values⟩ := by
  simp only [buildArray, sound, readCells_of_reads h, List.reverse_nil, List.nil_append,
    builtType_eq_arrow]

theorem buildArray_of_unreadable {type : SqlType} {cells : List (Option String)} {row : Nat}
    {fault : Fault} (sound : typeFault? type = none) (h : FirstUnreadable type cells row fault)
    (column : String) :
    buildArray type cells column = .error (conversionError column (row, fault)) := by
  simp only [buildArray, sound, readCells_of_unreadable h, Nat.zero_add]

/-- An array is built just when every cell can be read, and holds what is read. -/
theorem buildArray_eq_ok_iff {type : SqlType} {cells : List (Option String)} {column : String}
    {array : ColumnArray} (sound : typeFault? type = none) :
    buildArray type cells column = .ok array ↔
      array.type = type.arrow ∧ List.Forall₂ (Reads type) cells array.values := by
  constructor
  · intro built
    rcases reads_or_unreadable type cells with ⟨values, reads⟩ | ⟨row, fault, first⟩
    · rw [buildArray_of_reads sound reads] at built
      cases built
      exact ⟨rfl, reads⟩
    · rw [buildArray_of_unreadable sound first] at built
      cases built
  · rintro ⟨stored, reads⟩
    rw [buildArray_of_reads sound reads, ← stored]

theorem buildArray_eq_error_iff {type : SqlType} {cells : List (Option String)} {column : String}
    {error : DataError} (sound : typeFault? type = none) :
    buildArray type cells column = .error error ↔
      ∃ row fault, FirstUnreadable type cells row fault ∧
        error = conversionError column (row, fault) := by
  constructor
  · intro failed
    rcases reads_or_unreadable type cells with ⟨values, reads⟩ | ⟨row, fault, first⟩
    · rw [buildArray_of_reads sound reads] at failed
      cases failed
    · rw [buildArray_of_unreadable sound first] at failed
      cases failed
      exact ⟨row, fault, first, rfl⟩
  · rintro ⟨row, fault, first, rfl⟩
    exact buildArray_of_unreadable sound first column

/-- What a cell holds where texts stand for integers. -/
def HoldsInteger (holds : String → Int → Prop) : Option String → Option Value → Prop
  | none, none => True
  | some text, some (.integer number) => holds text number
  | _, _ => False

theorem buildArray_integers_eq_ok_iff {type : SqlType} {holds : String → Int → Prop}
    {cells : List (Option String)} {column : String} {array : ColumnArray}
    (sound : typeFault? type = none)
    (integers : ∀ text value, readCell type text = .ok value ↔
      ∃ number, holds text number ∧ value = .integer number) :
    buildArray type cells column = .ok array ↔
      array.type = type.arrow ∧ List.Forall₂ (HoldsInteger holds) cells array.values := by
  have same : Reads type = HoldsInteger holds := by
    funext cell value
    apply propext
    match cell, value with
    | none, none => exact Iff.rfl
    | none, some _ => exact Iff.rfl
    | some _, none => exact Iff.rfl
    | some text, some value =>
      refine (integers text value).trans ⟨?_, ?_⟩
      · rintro ⟨number, held, rfl⟩
        exact held
      · intro held
        cases value with
        | integer number => exact ⟨number, held, rfl⟩
        | _ => exact held.elim
  rw [buildArray_eq_ok_iff sound, same]

theorem exists_holdsInteger_iff {holds : String → Int → Prop} {cells : List (Option String)} :
    (∃ values, List.Forall₂ (HoldsInteger holds) cells values) ↔
      ∀ text, some text ∈ cells → ∃ number, holds text number := by
  induction cells with
  | nil => exact ⟨fun _ => nofun, fun _ => ⟨[], .nil⟩⟩
  | cons cell cells ih =>
    simp only [List.forall₂_cons_left_iff, List.mem_cons]
    constructor
    · rintro ⟨_, value, values, head, rest, rfl⟩ text (here | later)
      · match cell, value, here, head with
        | some _, some (.integer number), rfl, held => exact ⟨number, held⟩
      · exact ih.mp ⟨values, rest⟩ text later
    · intro all
      obtain ⟨values, rest⟩ := ih.mpr fun text later => all text (.inr later)
      cases cell with
      | none => exact ⟨_, none, values, trivial, rest, rfl⟩
      | some text =>
        obtain ⟨number, held⟩ := all text (.inl rfl)
        exact ⟨_, some (.integer number), values, held, rest, rfl⟩

/-- The first text of a column that is refused, with the message of its fault. -/
def FirstFaulty (refuses : String → String → Prop) (cells : List (Option String)) (row : Nat)
    (message : String) : Prop :=
  (∃ text, cells[row]? = some (some text) ∧ refuses text message) ∧
    ∀ earlier < row, ∀ text, cells[earlier]? = some (some text) →
      ∀ message, ¬ refuses text message

theorem buildArray_refuses_iff {type : SqlType} {refuses : String → String → Prop}
    {cells : List (Option String)} {column : String} {error : DataError}
    (sound : typeFault? type = none)
    (faults : ∀ text message, refuses text message ↔
      ∃ fault, readCell type text = .error fault ∧ fault.message = message) :
    buildArray type cells column = .error error ↔
      ∃ row message, FirstFaulty refuses cells row message ∧
        error = .conversion row column message := by
  rw [buildArray_eq_error_iff sound]
  constructor
  · rintro ⟨row, fault, ⟨⟨text, here, failed⟩, first⟩, rfl⟩
    refine ⟨row, fault.message, ⟨⟨text, here, (faults _ _).mpr ⟨fault, failed, rfl⟩⟩, ?_⟩, rfl⟩
    intro earlier less other listed message refused
    obtain ⟨cause, failed, _⟩ := (faults _ _).mp refused
    exact first earlier less cause ⟨other, listed, failed⟩
  · rintro ⟨row, message, ⟨⟨text, here, refused⟩, first⟩, rfl⟩
    obtain ⟨fault, failed, rfl⟩ := (faults _ _).mp refused
    refine ⟨row, fault, ⟨⟨text, here, failed⟩, ?_⟩, rfl⟩
    rintro earlier less cause ⟨other, listed, failed⟩
    exact first earlier less other listed _ ((faults _ _).mpr ⟨cause, failed, rfl⟩)

end RemoteQuery.Columnar
