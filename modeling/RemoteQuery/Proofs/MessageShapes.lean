import RemoteQuery.Proofs.WireFormat

/-!
# The shapes of messages

The shape of a body is told field by field: of which shape the field is if it is there, and whether
it may be absent or null. A body of its shape renders a message and a body of another shape renders
none, so that decoding accepts a body just for its shape.
-/
namespace RemoteQuery.Json

inductive Presence
  | required
  | defaulted
  | optional

structure Field where
  name : String
  presence : Presence
  shape : Json → Prop

/-- What may stand for the field. -/
inductive Field.Admits (field : Field) : Option Json → Prop
  | absent (free : field.presence ≠ .required) : Admits field none
  | null (optional : field.presence = .optional) : Admits field (some .null)
  | given {json : Json} (shaped : field.shape json) : Admits field (some json)

def IsList (shape : Json → Prop) (json : Json) : Prop :=
  ∃ elements, json = .array elements ∧ ∀ element ∈ elements, shape element

/-- What renders some value has the shape, and nothing else. -/
def Shapes {α : Type} (shape : Json → Prop) (renders : α → Json → Prop) : Prop :=
  ∀ json, (∃ a, renders a json) ↔ shape json

section Shapes

variable {α : Type} {shape : Json → Prop} {renders : α → Json → Prop}

theorem Shapes.elements (h : Shapes shape renders) {elements : List Json} :
    (∃ values, List.Forall₂ renders values elements) ↔ ∀ element ∈ elements, shape element := by
  induction elements with
  | nil => exact ⟨fun _ => nofun, fun _ => ⟨[], .nil⟩⟩
  | cons first others ih =>
    rw [List.forall_mem_cons, ← h first, ← ih]
    constructor
    · rintro ⟨_, _ | ⟨here, rest⟩⟩
      exact ⟨⟨_, here⟩, _, rest⟩
    · rintro ⟨⟨value, here⟩, values, rest⟩
      exact ⟨value :: values, .cons here rest⟩

theorem Shapes.list (h : Shapes shape renders) : Shapes (IsList shape) (RendersList renders) := by
  intro json
  constructor
  · rintro ⟨values, elements, rfl, all⟩
    exact ⟨elements, rfl, h.elements.mp ⟨values, all⟩⟩
  · rintro ⟨elements, rfl, each⟩
    obtain ⟨values, all⟩ := h.elements.mpr each
    exact ⟨values, elements, rfl, all⟩

theorem Shapes.optional (h : Shapes shape renders) {name : String} {field : Option Json} :
    (∃ value, RendersOptional renders value field) ↔
      Field.Admits ⟨name, .optional, shape⟩ field := by
  constructor
  · rintro ⟨_, _ | _ | ⟨rendered⟩⟩
    · exact .absent nofun
    · exact .null rfl
    · exact .given ((h _).mp ⟨_, rendered⟩)
  · rintro (_ | _ | ⟨shaped⟩)
    · exact ⟨none, .absent⟩
    · exact ⟨none, .null⟩
    · obtain ⟨a, rendered⟩ := (h _).mpr shaped
      exact ⟨some a, .given rendered⟩

theorem Shapes.required (h : Shapes shape renders) {name : String} {field : Option Json} :
    (∃ value, RendersRequired renders value field) ↔
      Field.Admits ⟨name, .required, shape⟩ field := by
  constructor
  · rintro ⟨_, ⟨rendered⟩⟩
    exact .given ((h _).mp ⟨_, rendered⟩)
  · rintro (⟨free⟩ | ⟨⟨⟩⟩ | ⟨shaped⟩)
    · exact (free rfl).elim
    · obtain ⟨a, rendered⟩ := (h _).mpr shaped
      exact ⟨a, .given rendered⟩

theorem Shapes.defaulted (h : Shapes shape renders) {name : String} {default : α}
    {field : Option Json} :
    (∃ value, RendersDefaulted renders default value field) ↔
      Field.Admits ⟨name, .defaulted, shape⟩ field := by
  constructor
  · rintro ⟨_, _ | ⟨rendered⟩⟩
    · exact .absent nofun
    · exact .given ((h _).mp ⟨_, rendered⟩)
  · rintro (_ | ⟨⟨⟩⟩ | ⟨shaped⟩)
    · exact ⟨default, .absent⟩
    · obtain ⟨a, rendered⟩ := (h _).mpr shaped
      exact ⟨a, .given rendered⟩

end Shapes

end RemoteQuery.Json

namespace RemoteQuery.Message

open Json

end RemoteQuery.Message
