import RemoteQuery.Proofs.ColumnReading
import RemoteQuery.Proofs.HexBytes

/-!
# Columns of bytes

A column of bytes is built just when every text in it writes bytes in hexadecimal digits, and holds
these bytes; else the first text that does not is to blame.
-/
namespace RemoteQuery.Columnar

/-- A missing cell holds nothing, and a text the bytes that it is one of. -/
def HoldsBytes : Option String → Option Value → Prop
  | none, none => True
  | some text, some (.bytes bytes) => Text.Hex.Writes bytes text
  | _, _ => False

/-- The text is one of no bytes, and the message says so. -/
def RefusesBytes (text message : String) : Prop :=
  (∀ bytes, ¬ Text.Hex.Writes bytes text) ∧ message = "Invalid hex bytes: " ++ text

theorem reads_varbinary_iff (cell : Option String) (value : Option Value) :
    Reads .varbinary cell value ↔ HoldsBytes cell value := by
  match cell, value with
  | none, none => exact Iff.rfl
  | none, some _ => exact Iff.rfl
  | some _, none => exact Iff.rfl
  | some text, some value =>
    rw [Reads, readCell]
    constructor
    · intro read
      split at read
      · rename_i bytes found
        cases read
        exact Text.Hex.decode?_eq_some_iff.mp found
      · cases read
    · intro held
      cases value with
      | bytes bytes =>
        have found : Text.Hex.decode? text = some bytes := Text.Hex.decode?_eq_some_iff.mpr held
        rw [found]
      | _ => exact held.elim

theorem refusesBytes_iff (text message : String) :
    RefusesBytes text message ↔
      ∃ fault, readCell .varbinary text = .error fault ∧ fault.message = message := by
  have unread : (∀ bytes, ¬ Text.Hex.Writes bytes text) ↔ Text.Hex.decode? text = none := by
    rw [Option.eq_none_iff_forall_ne_some]
    exact forall_congr' fun bytes => Text.Hex.decode?_eq_some_iff.not.symm
  rw [RefusesBytes, unread, readCell]
  constructor
  · rintro ⟨none, rfl⟩
    rw [none]
    exact ⟨_, rfl, rfl⟩
  · rintro ⟨fault, failed, rfl⟩
    split at failed
    · cases failed
    · rename_i none
      cases failed
      exact ⟨none, rfl⟩

/-- A column of bytes is built just when each text in it is one of some bytes, and holds these; else
the first text that is not is to blame. Bytes are read back from their digits. -/
theorem binary_column_exact (cells : List (Option String)) (column : String) :
    (∀ array, buildArray .varbinary cells column = .ok array ↔
      array.type = .binary ∧ List.Forall₂ HoldsBytes cells array.values) ∧
    (∀ error, buildArray .varbinary cells column = .error error ↔
      ∃ row message, FirstFaulty RefusesBytes cells row message ∧
        error = .conversion row column message) ∧
    ∀ contents : List (Option (List UInt8)),
      buildArray .varbinary (contents.map (Option.map Text.Hex.encode)) column =
        .ok ⟨.binary, contents.map (Option.map .bytes)⟩ := by
  have same : Reads .varbinary = HoldsBytes :=
    funext fun cell => funext fun value => propext (reads_varbinary_iff cell value)
  have built (cells : List (Option String)) (array : ColumnArray) :
      buildArray .varbinary cells column = .ok array ↔
        array.type = .binary ∧ List.Forall₂ HoldsBytes cells array.values := by
    rw [buildArray_eq_ok_iff rfl, same]
    rfl
  refine ⟨built cells, fun error => buildArray_refuses_iff rfl refusesBytes_iff, ?_⟩
  intro contents
  refine (built _ _).mpr ⟨rfl, ?_⟩
  rw [List.forall₂_map_left_iff, List.forall₂_map_right_iff, List.forall₂_same]
  intro content _
  cases content with
  | none => trivial
  | some bytes => exact Text.Hex.writes_encode bytes

end RemoteQuery.Columnar
