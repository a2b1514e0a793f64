import RemoteQuery.Proofs.WireFormat

/-!
# Parts of a body

A part of a body is found by where it stands: under a name in an object, or at an index in an array.
One that is null counts as absent. What stands in the slot of a field is what the field renders.
-/
namespace RemoteQuery

namespace Json

/-- Where a field of a record stands: under a name in an object, at an index in an array. -/
structure Slot where
  name : String
  index : Nat

def present? : Option Json → Option Json
  | some .null => none
  | field => field

/-- The field in that slot of a record, unless it is absent or null. -/
def part? (json : Json) (slot : Slot) : Option Json :=
  match json with
  | .object _ => present? (json.member? slot.name)
  | .array elements => present? elements[slot.index]?
  | _ => none

def at? (json : Json) (path : List Slot) : Option Json := path.foldlM part? json

@[simp] theorem at?_nil (json : Json) : json.at? [] = some json := rfl

theorem member?_of_given {members : List (Option String × Json)} {name : String}
    {value : Option Json} (given : Given members name value) :
    (object members).member? name = value := by
  rw [member?, ← List.head?_filter, List.filter_reverse, ← List.head?_map, List.map_reverse, given]
  cases value <;> rfl

theorem Record.part? {names : List String} {atLeast index : Nat} {json : Json}
    {values : List (Option Json)} {name : String} {value : Option Json}
    (h : Record names atLeast json values) (named : names[index]? = some name)
    (found : values[index]? = some value) : json.part? ⟨name, index⟩ = present? value := by
  cases h with
  | object _ given =>
    have paired : (name, value) ∈ names.zip values :=
      List.mem_of_getElem? (List.getElem?_zip_eq_some.mpr ⟨named, found⟩)
    rw [Json.part?, member?_of_given (List.forall₂_zip given paired)]
  | @array elements least most =>
    rw [Json.part?]
    rcases Nat.lt_or_ge index elements.length with inside | outside
    · rw [List.getElem?_append_left (by simpa using inside), List.getElem?_map,
        Option.map_eq_some_iff] at found
      obtain ⟨element, found, rfl⟩ := found
      rw [found]
    · rw [List.getElem?_append_right (by simpa using outside)] at found
      obtain rfl := (List.mem_replicate.mp (List.mem_of_getElem? found)).2
      rw [List.getElem?_eq_none outside]

theorem RendersOptional.part {α : Type} {renders : α → Json → Prop} {value : Option α}
    {field : Option Json} (nonnull : ∀ a, ¬ renders a .null)
    (h : RendersOptional renders value field) : Option.Rel renders value (present? field) := by
  cases h with
  | absent | null => exact .none
  | @given a json rendered =>
    cases json with
    | null => exact (nonnull a rendered).elim
    | _ => exact .some rendered

/-- The values are rendered in one way only, and none as null. -/
structure Spelling {α : Type} (renders : α → Json → Prop) (render : α → Json) : Prop where
  unique : ∀ a json, renders a json → json = render a
  nonnull : ∀ a, present? (some (render a)) = some (render a)

theorem spelling_text : Spelling RendersText ofString :=
  ⟨fun _ _ rendered => rendered, fun _ => rfl⟩

theorem spelling_integer (bits : Nat) : Spelling (RendersInteger bits) ofInt :=
  ⟨fun _ _ rendered => rendered.1, fun _ => rfl⟩

section Spelling

variable {α : Type} {renders : α → Json → Prop} {render : α → Json}
  (spelling : Spelling renders render)

include spelling

theorem Spelling.optional {value : Option α} {field : Option Json}
    (h : RendersOptional renders value field) : present? field = value.map render := by
  cases h with
  | absent | null => rfl
  | given rendered =>
    rw [spelling.unique _ _ rendered, spelling.nonnull]
    rfl

theorem Spelling.required {value : α} {field : Option Json}
    (h : RendersRequired renders value field) : present? field = some (render value) := by
  cases h with
  | given rendered => rw [spelling.unique _ _ rendered, spelling.nonnull]

theorem Spelling.defaulted {default value : α} {field : Option Json}
    (h : RendersDefaulted renders default value field) :
    (present? field).getD (render default) = render value := by
  cases h with
  | absent => rfl
  | given rendered =>
    rw [spelling.unique _ _ rendered, spelling.nonnull]
    rfl

end Spelling

end Json

end RemoteQuery
