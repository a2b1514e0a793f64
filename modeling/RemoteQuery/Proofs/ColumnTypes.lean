import RemoteQuery.Columnar.ColumnArray
import RemoteQuery.Schema

/-!
# Types of the columnar format

The columnar format has its own demands on decimals: one digit up to 38, and no more of them behind
the point than there are. That these are its laws is all that is used of it. Declared types are
brought within the bounds, so none of them is refused.
-/
namespace RemoteQuery

def SqlType.isDecimal : SqlType → Bool
  | decimal _ _ => true
  | _ => false

namespace Columnar

/-- What the columnar format asks of types. -/
structure LawfulTypes (fault? : SqlType → Option Fault) : Prop where
  decimal_iff {precision : Nat} {scale : Int} :
    fault? (.decimal precision scale) = none ↔
      1 ≤ precision ∧ precision ≤ 38 ∧ scale ≤ precision
  other {type : SqlType} (other : type.isDecimal = false) : fault? type = none

theorem lawfulTypes : LawfulTypes typeFault? where
  decimal_iff {precision scale} := by
    rw [typeFault?, SqlType.maxPrecision]
    constructor
    · intro sound
      iterate 4
        split at sound
        · cases sound
      omega
    · rintro ⟨first, last, within⟩
      rw [if_neg (by omega), if_neg (by omega), if_neg (by omega), if_neg (by omega)]
  other {type} other := by
    cases type with
    | decimal => cases other
    | _ => rfl

namespace LawfulTypes

variable {fault? : SqlType → Option Fault}

theorem clampedDecimal (laws : LawfulTypes fault?) (precision scale : Int) :
    fault? (SqlType.clampedDecimal precision scale) = none := by
  unfold SqlType.clampedDecimal
  simp only
  generalize found : (if precision ≤ 0 then SqlType.maxPrecision
    else min precision.toNat SqlType.maxPrecision) = digits
  have bounds : 1 ≤ digits ∧ digits ≤ 38 := by
    rw [← found, SqlType.maxPrecision]
    split <;> omega
  exact laws.decimal_iff.mpr ⟨bounds.1, bounds.2, by omega⟩

/-- The columnar format takes every declared type. -/
theorem sqlType (laws : LawfulTypes fault?) (column : Column) : fault? column.sqlType = none := by
  unfold Column.sqlType SqlType.ofDeclared
  simp only
  split
  · split <;> exact laws.clampedDecimal _ _
  · split
    · rename_i found
      have plain : SqlType.simpleNames.all (fun entry => !entry.2.isDecimal) = true := by decide
      have known := List.all_eq_true.mp plain _ (List.mem_of_find?_eq_some found)
      exact laws.other ((Bool.not_eq_true' _).mp known)
    · exact laws.other rfl

end LawfulTypes

end Columnar

end RemoteQuery
