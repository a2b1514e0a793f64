import Mathlib.Data.List.Forall2
import RemoteQuery.Json.Decoder
import RemoteQuery.Proofs.JsonTexts

/-!
# Decoding of records

A record is rendered as an object in which each of its fields is a member at most once, in any order
and among others, or as an array of its fields in order. For each decoder there is the relation of
what renders a value, and each relation is made of those of the fields.
-/
namespace RemoteQuery.Json

/-- The decoder accepts what renders a value, as that value, and nothing else. -/
def Decodes {α : Type} (decoder : Decoder α) (renders : α → Json → Prop) : Prop :=
  ∀ json a, decoder json = some a ↔ renders a json

def RendersText (text : String) (json : Json) : Prop := json = ofString text

def RendersFlag (value : Bool) (json : Json) : Prop := json = .boolean value

/-- An integer is a number without fraction and exponent, and not `-0`. -/
def RendersInteger (bits : Nat) (value : Int) (json : Json) : Prop :=
  json = ofInt value ∧ Number.InSignedRange bits value

def RendersList {α : Type} (renders : α → Json → Prop) (values : List α) (json : Json) : Prop :=
  ∃ elements, json = .array elements ∧ List.Forall₂ renders values elements

theorem text?_decodes : Decodes text? RendersText := by
  intro json text
  cases json with
  | string given => simp [text?, RendersText, ofString]
  | _ => exact ⟨nofun, nofun⟩

theorem flag?_decodes : Decodes flag? RendersFlag := by
  intro json value
  cases json with
  | boolean given => simp [flag?, RendersFlag]
  | _ => exact ⟨nofun, nofun⟩

theorem integer?_decodes (bits : Nat) : Decodes (integer? bits) (RendersInteger bits) := by
  intro json value
  cases json with
  | number given =>
    cases given with
    | integer given =>
      rw [integer?]
      constructor
      · intro h
        split at h
        · rename_i inside
          cases h
          exact ⟨rfl, inside⟩
        · cases h
      · rintro ⟨⟨⟩, inside⟩
        rw [if_pos inside]
    | real written => exact ⟨nofun, nofun⟩
  | _ => exact ⟨nofun, nofun⟩

theorem mapM_eq_some_iff {α β : Type} {f : α → Option β} {inputs : List α} {results : List β} :
    inputs.mapM f = some results ↔ List.Forall₂ (fun a b => f a = some b) inputs results := by
  induction inputs generalizing results with
  | nil =>
    rw [List.mapM_nil, List.forall₂_nil_left_iff]
    exact ⟨fun h => (Option.some.inj h).symm, fun h => congrArg some h.symm⟩
  | cons a inputs ih =>
    rw [List.mapM_cons, List.forall₂_cons_left_iff]
    simp only [Option.bind_eq_bind, Option.bind_eq_some_iff, ih, Option.pure_def, Option.some.injEq]
    constructor
    · rintro ⟨b, here, rest, others, rfl⟩
      exact ⟨b, rest, here, others, rfl⟩
    · rintro ⟨b, rest, here, others, rfl⟩
      exact ⟨b, here, rest, others, rfl⟩

theorem Decodes.list {α : Type} {decoder : Decoder α} {renders : α → Json → Prop}
    (h : Decodes decoder renders) : Decodes (list? decoder) (RendersList renders) := by
  intro json values
  cases json with
  | array elements =>
    rw [list?, mapM_eq_some_iff]
    simp only [h _ _]
    constructor
    · exact fun all => ⟨elements, rfl, all.flip⟩
    · rintro ⟨_, ⟨⟩, all⟩
      exact all.flip
  | _ =>
    refine ⟨nofun, ?_⟩
    rintro ⟨_, ⟨⟩, _⟩

/-- The values that the members give a name are those of the field: one, or none if it is absent. -/
def Given (members : List (Option String × Json)) (name : String) (value : Option Json) : Prop :=
  (members.filter fun (key, _) => key == some name).map Prod.snd = value.toList

/-- The values of the named fields of a record. Members of other names do not matter, but all keys
of the record are texts. An array gives the fields in order, and at least the first `atLeast`. -/
inductive Record (names : List String) (atLeast : Nat) : Json → List (Option Json) → Prop
  | object {members : List (Option String × Json)} {values : List (Option Json)}
      (texts : ∀ member ∈ members, member.1 ≠ none)
      (given : List.Forall₂ (Given members) names values) :
      Record names atLeast (.object members) values
  | array {elements : List Json} (least : atLeast ≤ elements.length)
      (most : elements.length ≤ names.length) :
      Record names atLeast (.array elements)
        (elements.map some ++ List.replicate (names.length - elements.length) none)

theorem single?_eq_some_iff {found : List (Option String × Json)} {value : Option Json} :
    (match found with
      | [] => some none
      | [(_, value)] => some (some value)
      | _ => none) = some value ↔ found.map Prod.snd = value.toList := by
  match found, value with
  | [], none => exact ⟨fun _ => rfl, fun _ => rfl⟩
  | [], some _ => exact ⟨nofun, nofun⟩
  | [_], none => exact ⟨nofun, nofun⟩
  | [_], some _ => simp
  | _ :: _ :: _, none => exact ⟨nofun, nofun⟩
  | _ :: _ :: _, some _ => exact ⟨nofun, nofun⟩

theorem fields?_eq_some_iff {names : List String} {atLeast : Nat} {json : Json}
    {values : List (Option Json)} :
    fields? names atLeast json = some values ↔ Record names atLeast json values := by
  cases json with
  | object members =>
    have keys : members.any (fun (key, _) => key.isNone) = true ↔
        ¬ ∀ member ∈ members, member.1 ≠ none := by
      simp [List.any_eq_true]
    rw [fields?]
    split
    · rename_i unnamed
      refine ⟨nofun, ?_⟩
      rintro ⟨texts, _⟩
      exact (keys.mp unnamed texts).elim
    · rename_i named
      rw [mapM_eq_some_iff]
      constructor
      · intro given
        refine .object (Classical.not_not.mp (keys.not.mp named)) (given.imp ?_)
        exact fun name value => single?_eq_some_iff.mp
      · rintro ⟨_, given⟩
        exact given.imp fun name value => single?_eq_some_iff.mpr
  | array elements =>
    rw [fields?]
    split
    · rename_i size
      constructor
      · rintro ⟨⟩
        exact .array size.1 size.2
      · rintro ⟨⟩
        rfl
    · rename_i size
      refine ⟨nofun, ?_⟩
      rintro ⟨⟩
      rename_i least most
      exact (size ⟨least, most⟩).elim
  | _ => exact ⟨nofun, nofun⟩

/-- The members of these names are the same in both, in whatever order and among whatever others. -/
def SameMembers (names : List String) (members others : List (Option String × Json)) : Prop :=
  (members.filter fun member => names.any fun name => member.1 == some name).Perm
    (others.filter fun member => names.any fun name => member.1 == some name)

/-- Where the members of the names are the same, they have the same values. -/
theorem SameMembers.given {names : List String} {members others : List (Option String × Json)}
    {values : List (Option Json)} (same : SameMembers names members others)
    (given : List.Forall₂ (Given members) names values) :
    List.Forall₂ (Given others) names values := by
  refine List.forall₂_iff_zip.mpr ⟨given.length_eq, ?_⟩
  intro name value paired
  have known : name ∈ names := (List.of_mem_zip paired).1
  have here : Given members name value := List.forall₂_zip given paired
  have narrowed (members : List (Option String × Json)) :
      (members.filter fun member => names.any fun name => member.1 == some name).filter
          (fun member => member.1 == some name) =
        members.filter fun member => member.1 == some name := by
    rw [List.filter_filter]
    refine List.filter_congr ?_
    intro member _
    rw [Bool.and_eq_left_iff_imp]
    intro named
    exact List.any_eq_true.mpr ⟨name, known, named⟩
  have permuted := (List.Perm.filter (fun member => member.1 == some name) same).map Prod.snd
  rw [narrowed, narrowed] at permuted
  have found : (members.filter fun member => member.1 == some name).map Prod.snd =
    value.toList := here
  rw [found] at permuted
  cases value with
  | none => exact List.perm_nil.mp permuted.symm
  | some value => exact List.perm_singleton.mp permuted.symm

/-- The order of the members and those of other names do not matter. -/
theorem record_congr {names : List String} {atLeast : Nat}
    {members others : List (Option String × Json)} {values : List (Option Json)}
    (same : SameMembers names members others) (texts : ∀ member ∈ members, member.1 ≠ none)
    (others_texts : ∀ member ∈ others, member.1 ≠ none) :
    Record names atLeast (.object members) values ↔
      Record names atLeast (.object others) values := by
  constructor
  · rintro ⟨_, given⟩
    exact .object others_texts (same.given given)
  · rintro ⟨_, given⟩
    exact .object texts (SameMembers.given (List.Perm.symm same) given)

/-- An optional field without a value is absent or null. -/
inductive RendersOptional {α : Type} (renders : α → Json → Prop) : Option α → Option Json → Prop
  | absent : RendersOptional renders none none
  | null : RendersOptional renders none (some .null)
  | given {a : α} {json : Json} (h : renders a json) : RendersOptional renders (some a) (some json)

inductive RendersRequired {α : Type} (renders : α → Json → Prop) : α → Option Json → Prop
  | given {a : α} {json : Json} (h : renders a json) : RendersRequired renders a (some json)

/-- A field that has its default value may be absent. -/
inductive RendersDefaulted {α : Type} (renders : α → Json → Prop) (default : α) :
    α → Option Json → Prop
  | absent : RendersDefaulted renders default default none
  | given {a : α} {json : Json} (h : renders a json) :
      RendersDefaulted renders default a (some json)

theorem Decodes.optional {α : Type} {decoder : Decoder α} {renders : α → Json → Prop}
    (h : Decodes decoder renders) (nonnull : decoder .null = none) {field : Option Json}
    {value : Option α} :
    optional? decoder field = some value ↔ RendersOptional renders value field := by
  unfold optional?
  constructor
  · intro decoded
    split at decoded
    · cases decoded
      exact .absent
    · cases decoded
      exact .null
    · obtain ⟨a, here, rfl⟩ := Option.map_eq_some_iff.mp decoded
      exact .given ((h _ a).mp here)
  · rintro (_ | _ | ⟨renders⟩)
    · rfl
    · rfl
    · have decoded := (h _ _).mpr renders
      split
      · rename_i none
        cases none
      · rename_i null
        cases null
        exact nomatch nonnull.symm.trans decoded
      · rename_i given
        cases given
        rw [decoded, Option.map_some]

theorem Decodes.required {α : Type} {decoder : Decoder α} {renders : α → Json → Prop}
    (h : Decodes decoder renders) {field : Option Json} {value : α} :
    required? decoder field = some value ↔ RendersRequired renders value field := by
  cases field with
  | none => exact ⟨nofun, nofun⟩
  | some json =>
    rw [required?, h]
    constructor
    · exact .given
    · rintro ⟨renders⟩
      exact renders

theorem Decodes.defaulted {α : Type} {decoder : Decoder α} {renders : α → Json → Prop}
    (h : Decodes decoder renders) {default : α} {field : Option Json} {value : α} :
    defaulted? decoder default field = some value ↔
      RendersDefaulted renders default value field := by
  cases field with
  | none =>
    rw [defaulted?]
    constructor
    · rintro ⟨⟩
      exact .absent
    · rintro ⟨⟩
      rfl
  | some json =>
    rw [defaulted?, h]
    constructor
    · exact .given
    · rintro (_ | ⟨renders⟩)
      exact renders

/-- A decoded text is one of a rendering. -/
theorem Lawful.decode_eq_some_iff {read? : String → Option Json} {write : Json → String}
    (laws : Lawful read? write) {α : Type} {decoder : Decoder α} {renders : α → Json → Prop}
    (h : Decodes decoder renders) (text : String) (a : α) :
    (read? text).bind decoder = some a ↔ ∃ json, Written json text ∧ renders a json := by
  rw [Option.bind_eq_some_iff]
  exact exists_congr fun json => and_congr laws.read?_eq_some_iff (h json a)

end RemoteQuery.Json
