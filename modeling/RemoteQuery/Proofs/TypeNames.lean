import RemoteQuery.Proofs.LowerCase
import RemoteQuery.Schema

/-!
# Names of declared types

A declared type is normalized before it is read: blanks around it go, and its letters become small.
The name is what stands before the first parenthesis, and the arguments are what follows it, without
the parentheses at the end.
-/
namespace RemoteQuery.SqlType

theorem hasSolidEnds_normalized (declared : String) : Text.HasSolidEnds (normalized declared) :=
  (Text.hasSolidEnds_trim _).lower

theorem normalized_ofList {text : List Char} (ends : Text.HasSolidEnds text)
    (settled : ∀ c ∈ text, Text.IsSettled c) : normalized (String.ofList text) = text := by
  rw [normalized, String.toList_ofList, ends.trim_eq, Text.lower_of_settled settled]

theorem normalized_normalized (declared : String) :
    normalized (String.ofList (normalized declared)) = normalized declared := by
  rw [normalized, String.toList_ofList, (hasSolidEnds_normalized declared).trim_eq]
  exact Text.lower_lower _

/-- All names of base types. -/
def baseNames : List (List Char) :=
  "decimal".toList :: simpleNames.map fun entry => entry.1.toList

/-- The text is the name, or goes on behind it with a parenthesis; blanks may stand between. -/
inductive BeginsWith (name : List Char) : List Char → Prop
  | alone : BeginsWith name name
  | opened {blanks rest : List Char} (gap : ∀ c ∈ blanks, Text.isBlank c = true) :
      BeginsWith name (name ++ blanks ++ '(' :: rest)

/-- What stands behind the first parenthesis, without the parentheses that end the text. -/
inductive HasArguments (arguments : List Char) : List Char → Prop
  | enclosed {name : List Char} {count : Nat} (first : ∀ c ∈ name, c ≠ '(')
      (last : arguments.getLast? ≠ some ')') :
      HasArguments arguments (name ++ '(' :: (arguments ++ List.replicate count ')'))

/-- A name has neither parentheses nor blanks in it, and is in lower case. -/
theorem baseName_plain {name : List Char} (known : name ∈ baseNames) :
    ∀ c ∈ name, c ≠ '(' ∧ Text.isBlank c = false ∧ Text.IsSettled c := by
  have table : baseNames.all (fun name => name.all fun c =>
      c != '(' && !Text.isBlank c && decide (Text.IsSettled c)) = true := by decide
  intro c member
  have plain := List.all_eq_true.mp (List.all_eq_true.mp table name known) c member
  simp only [Bool.and_eq_true, bne_iff_ne, Bool.not_eq_true', decide_eq_true_eq] at plain
  exact ⟨plain.1.1, plain.1.2, plain.2⟩

theorem BeginsWith.splitArguments_fst {name text : List Char} (h : BeginsWith name text)
    (known : name ∈ baseNames) : (splitArguments text).1 = name := by
  have plain := baseName_plain known
  cases h with
  | alone =>
    have whole : Text.cut? (· == '(') name = none :=
      Text.cut?_eq_none fun c member => (plain c member).1
    simp only [splitArguments, whole]
  | @opened blanks rest gap =>
    have before : ∀ c ∈ name ++ blanks, c ≠ '(' := by
      refine List.forall_mem_append.mpr ⟨fun c member => (plain c member).1, ?_⟩
      rintro c member rfl
      exact absurd (gap _ member) (by decide)
    have solid := Text.hasSolidEnds_of_solid fun c member => (plain c member).2.1
    have trimmed : Text.trim ([] ++ name ++ blanks) = name := solid.trim_padded nofun gap
    rw [List.nil_append] at trimmed
    simp only [splitArguments, Text.cut?_append before, trimmed]

theorem beginsWith_of_splitArguments {name text : List Char} (ends : Text.HasSolidEnds text)
    (split : (splitArguments text).1 = name) : BeginsWith name text := by
  cases cut : Text.cut? (· == '(') text with
  | none =>
    simp only [splitArguments, cut] at split
    rw [split]
    exact .alone
  | some parts =>
    obtain ⟨before, rest⟩ := parts
    simp only [splitArguments, cut] at split
    obtain ⟨_, parenthesis, isOpen, rfl⟩ := Text.cut?_eq_some_iff.mp cut
    rw [beq_iff_eq.mp isOpen]
    -- The text has no blank in front, so neither has the name.
    have first : ∀ c, before.head? = some c → Text.isBlank c = false := by
      intro c head
      exact ends.first c (by rw [List.head?_append, head, Option.some_or])
    obtain ⟨blanks, gap, padded⟩ := Text.exists_blanks_end before
    have name_eq : Text.trimEnd before = name := by
      rwa [Text.trim, Text.trimStart, Text.dropWhile_isBlank_of_head first] at split
    rw [padded, name_eq]
    exact .opened gap

theorem splitArguments_snd_eq_some_iff {text arguments : List Char} :
    (splitArguments text).2 = some arguments ↔ HasArguments arguments text := by
  constructor
  · intro split
    cases cut : Text.cut? (· == '(') text with
    | none => simp [splitArguments, cut] at split
    | some parts =>
      obtain ⟨name, rest⟩ := parts
      simp only [splitArguments, cut, Option.some.injEq] at split
      obtain ⟨plain, parenthesis, isOpen, rfl⟩ := Text.cut?_eq_some_iff.mp cut
      rw [beq_iff_eq.mp isOpen]
      have whole := List.takeWhile_append_dropWhile (p := (· == ')')) (l := rest.reverse)
      have closing : rest.reverse.takeWhile (· == ')') =
          List.replicate (rest.reverse.takeWhile (· == ')')).length ')' :=
        List.eq_replicate_iff.mpr ⟨rfl, fun c member =>
          beq_iff_eq.mp (List.all_eq_true.mp List.all_takeWhile c member)⟩
      rw [closing, ← List.reverse_eq_iff, List.reverse_append, List.reverse_replicate, split]
        at whole
      have last : arguments.getLast? ≠ some ')' := by
        intro last
        have stop := List.head?_dropWhile_not (· == ')') rest.reverse
        rw [← split, List.getLast?_reverse] at last
        rw [last] at stop
        cases stop
      rw [← whole]
      exact .enclosed (fun c member => ne_of_beq_false (plain c member)) last
  · intro enclosed
    cases enclosed with
    | @enclosed name count first last =>
      have closing : ∀ c ∈ List.replicate count ')', (c == ')') = true := fun c member =>
        beq_iff_eq.mpr (List.eq_of_mem_replicate member)
      have stop : arguments.reverse.dropWhile (· == ')') = arguments.reverse := by
        cases turned : arguments.reverse with
        | nil => rfl
        | cons c before =>
          rw [List.dropWhile_cons_of_neg]
          intro same
          rw [← List.head?_reverse, turned, beq_iff_eq.mp same] at last
          exact last rfl
      simp only [splitArguments, Text.cut?_append first, List.reverse_append,
        List.reverse_replicate, List.dropWhile_append_of_pos closing, stop, List.reverse_reverse]

/-- A type that its name declares alone. -/
def isSimple : SqlType → Bool
  | decimal _ _ | other _ => false
  | _ => true

theorem isSimple_of_listed {entry : String × SqlType} (listed : entry ∈ simpleNames) :
    entry.2.isSimple = true := by
  have simple : ∀ entry ∈ simpleNames, entry.2.isSimple = true := by decide
  exact simple entry listed

end RemoteQuery.SqlType
