/-!
# Cutting a text at a character

A text is cut at the first character that meets a condition; the character itself belongs to
neither part. The pieces between all such characters are `List.splitOnP`.
-/
namespace RemoteQuery.Text

/-- What stands before and after the first character with the property, if there is one. -/
def cut? (here : Char → Bool) (text : List Char) : Option (List Char × List Char) :=
  match text.dropWhile fun c => !here c with
  | [] => none
  | _ :: after => some (text.takeWhile fun c => !here c, after)

theorem cut?_eq_none_iff {here : Char → Bool} {text : List Char} :
    cut? here text = none ↔ ∀ c ∈ text, here c = false := by
  induction text with
  | nil => simp [cut?]
  | cons c text ih =>
    cases h : here c with
    | true => simp [cut?, h]
    | false =>
      rw [List.forall_mem_cons, ← ih]
      cases rest : text.dropWhile (fun c => !here c) <;> simp [cut?, h, rest]

/-- The cut is at the first such character: the part before holds none, and the three parts are the
text. -/
theorem cut?_eq_some_iff {here : Char → Bool} {text before after : List Char} :
    cut? here text = some (before, after) ↔
      (∀ c ∈ before, here c = false) ∧ ∃ c, here c = true ∧ text = before ++ c :: after := by
  rw [cut?]
  constructor
  · intro h
    have split := List.takeWhile_append_dropWhile (p := fun c => !here c) (l := text)
    have first := List.head?_dropWhile_not (fun c => !here c) text
    cases rest : text.dropWhile (fun c => !here c) with
    | nil => simp [rest] at h
    | cons c tail =>
      simp only [rest, Option.some.injEq, Prod.mk.injEq] at h
      obtain ⟨rfl, rfl⟩ := h
      refine ⟨fun d hd => by simpa using List.all_eq_true.1 List.all_takeWhile d hd, c, ?_, ?_⟩
      · simpa [rest] using first
      · rw [← rest, split]
  · rintro ⟨none_before, c, hc, rfl⟩
    have kept : ∀ d ∈ before, (!here d) = true := fun d hd => by simp [none_before d hd]
    simp [List.takeWhile_append_of_pos kept, List.dropWhile_append_of_pos kept, hc]

/-- A text is cut at a mark that does not stand before it. -/
theorem cut?_append {mark : Char} {before : List Char} (plain : ∀ c ∈ before, c ≠ mark)
    (after : List Char) : cut? (· == mark) (before ++ mark :: after) = some (before, after) :=
  cut?_eq_some_iff.mpr
    ⟨fun c member => beq_false_of_ne (plain c member), mark, beq_self_eq_true mark, rfl⟩

theorem cut?_eq_none {mark : Char} {text : List Char} (plain : ∀ c ∈ text, c ≠ mark) :
    cut? (· == mark) text = none :=
  cut?_eq_none_iff.mpr fun c member => beq_false_of_ne (plain c member)

end RemoteQuery.Text
