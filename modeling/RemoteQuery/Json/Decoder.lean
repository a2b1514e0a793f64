import RemoteQuery.Json.Basic
import RemoteQuery.Number.Numeral

/-!
# Decoding records

A record is given as an object or as an array of its fields in order. In an object a field may be
anywhere among members that the record does not have, whose values do not matter; it may not be
given twice. A decoder says what a value stands for, and a rule says what its absence means.
-/
namespace RemoteQuery.Json

abbrev Decoder (α : Type) := Json → Option α

def text? : Decoder String
  | .string text => text
  | _ => none

def flag? : Decoder Bool
  | .boolean value => some value
  | _ => none

def integer? (bits : Nat) : Decoder Int
  | .number (.integer value) => if Number.InSignedRange bits value then some value else none
  | _ => none

def list? {α : Type} (element : Decoder α) : Decoder (List α)
  | .array elements => elements.mapM element
  | _ => none

/-- The values of the named fields, `none` for a field that is absent. An array must give the first
`atLeast` fields and may give the others. -/
def fields? (names : List String) (atLeast : Nat) : Json → Option (List (Option Json))
  | .object members =>
    if members.any (fun (key, _) => key.isNone) then none
    else
      names.mapM fun name =>
        match members.filter fun (key, _) => key == some name with
        | [] => some none
        | [(_, value)] => some (some value)
        | _ => none
  | .array elements =>
    if atLeast ≤ elements.length ∧ elements.length ≤ names.length then
      some (elements.map some ++ List.replicate (names.length - elements.length) none)
    else none
  | _ => none

def optional? {α : Type} (decoder : Decoder α) : Option Json → Option (Option α)
  | none | some .null => some none
  | some value => (decoder value).map some

def required? {α : Type} (decoder : Decoder α) : Option Json → Option α
  | none => none
  | some value => decoder value

/-- A field that may be absent, but not null. -/
def defaulted? {α : Type} (decoder : Decoder α) (default : α) : Option Json → Option α
  | none => some default
  | some value => decoder value

end RemoteQuery.Json
