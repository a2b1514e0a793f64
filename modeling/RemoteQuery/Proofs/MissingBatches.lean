import RemoteQuery.Proofs.ColumnConversion
import RemoteQuery.Proofs.CountRange

/-!
# Conversions without a result

An array is not built over a text whose arithmetic does not fit 64 bits, nor past the last offset
into its bytes; but a cell before that which cannot be read is reported. The same goes for the
columns of a batch.
-/
namespace RemoteQuery.Columnar

def storedSize : Option Value → Nat
  | none => 0
  | some value => value.size

def totalSize : List (Option Value) → Nat
  | [] => 0
  | value :: values => storedSize value + totalSize values

/-- The array of the cells is not built: after some that can be read, the bytes of those are more
than the room for them, or a text is next whose arithmetic does not fit. -/
inductive Overruns (type : SqlType) (room : Nat) (cells : List (Option String)) : Prop
  | intro {before after : List (Option String)} {values : List (Option Value)}
      (split : cells = before ++ after) (reads : List.Forall₂ (Reads type) before values)
      (stops : room < totalSize values ∨
        ∃ text rest, after = some text :: rest ∧ BeyondWord type text) :
      Overruns type room cells

section Cells

variable {type : SqlType} {room : Nat} {cell : Option String} {cells : List (Option String)}

theorem not_overruns_nil : ¬ Overruns type room [] := by
  rintro ⟨split, reads, stops⟩
  obtain ⟨rfl, rfl⟩ := List.append_eq_nil_iff.mp split.symm
  cases reads
  rcases stops with large | ⟨_, _, absent, _⟩
  · exact Nat.not_lt_zero room large
  · cases absent

/-- Cells are stopped at the first, or after it with the room that it leaves. -/
theorem overruns_cons_iff :
    Overruns type room (cell :: cells) ↔
      (∃ text, cell = some text ∧ BeyondWord type text) ∨
        ∃ value, Reads type cell value ∧
          (room < storedSize value ∨ Overruns type (room - storedSize value) cells) := by
  constructor
  · rintro ⟨split, reads, stops⟩
    cases reads with
    | nil =>
      rcases stops with large | ⟨text, rest, rfl, beyond⟩
      · exact (Nat.not_lt_zero room large).elim
      · cases split
        exact .inl ⟨text, rfl, beyond⟩
    | @cons _ value before values read reads =>
      obtain ⟨rfl, rfl⟩ := List.cons.inj split
      refine .inr ⟨value, read, ?_⟩
      by_cases large : room < storedSize value
      · exact .inl large
      · refine .inr (.intro rfl reads (stops.imp_left fun total => ?_))
        rw [totalSize] at total
        omega
  · rintro (⟨text, rfl, beyond⟩ | ⟨value, read, large | ⟨rfl, reads, stops⟩⟩)
    · exact @Overruns.intro _ _ _ [] _ [] rfl .nil (.inr ⟨text, cells, rfl, beyond⟩)
    · refine @Overruns.intro _ _ _ [cell] cells [value] rfl (.cons read .nil) (.inl ?_)
      simpa [totalSize] using large
    · refine .intro (List.cons_append ..).symm (.cons read reads) (stops.imp_left fun total => ?_)
      rw [totalSize]
      omega

theorem cellsOverrun_iff : cellsOverrun type room cells = true ↔ Overruns type room cells := by
  induction cells generalizing room with
  | nil => exact ⟨nofun, fun overruns => (not_overruns_nil overruns).elim⟩
  | cons cell cells ih =>
    rw [overruns_cons_iff]
    cases cell with
    | none =>
      rw [cellsOverrun, ih]
      constructor
      · exact fun rest => .inr ⟨none, trivial, .inr rest⟩
      · rintro (⟨_, ⟨⟩, _⟩ | ⟨_ | _, read, large | rest⟩)
        · exact (Nat.not_lt_zero room large).elim
        · exact rest
        · exact read.elim
        · exact read.elim
    | some text =>
      rw [cellsOverrun, Bool.or_eq_true, passes64_iff]
      refine or_congr ⟨fun beyond => ⟨text, rfl, beyond⟩, ?_⟩ ?_
      · rintro ⟨_, ⟨⟩, beyond⟩
        exact beyond
      · cases read : readCell type text with
        | error fault =>
          refine ⟨nofun, ?_⟩
          rintro ⟨_ | value, reads, _⟩
          · exact reads.elim
          · exact nomatch read.symm.trans reads
        | ok value =>
          simp only [Bool.or_eq_true, decide_eq_true_eq, ih]
          constructor
          · exact fun stops => ⟨some value, read, stops⟩
          · rintro ⟨_ | other, reads, stops⟩
            · exact reads.elim
            · cases read.symm.trans reads
              exact stops

end Cells

theorem arrayOverruns_iff {type : SqlType} {cells : List (Option String)} :
    arrayOverruns type cells = true ↔ typeFault? type = none ∧ Overruns type lastOffset cells := by
  rw [arrayOverruns, Bool.and_eq_true, Option.isNone_iff_eq_none, cellsOverrun_iff]

theorem buildArray?_eq_none_iff {type : SqlType} {cells : List (Option String)}
    {column : String} :
    buildArray? type cells column = none ↔
      typeFault? type = none ∧ Overruns type lastOffset cells := by
  rw [buildArray?, ← arrayOverruns_iff]
  simp

end RemoteQuery.Columnar
