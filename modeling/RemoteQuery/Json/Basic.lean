/-!
# JSON values

Members of an object are kept in the order in which they are written, with repetitions. A string or
a key whose escapes name a surrogate without its partner stands for no text: it is `none`, and only
a place that is skipped may hold it. An integer is a number written without fraction and exponent;
`-0` is not one, since it denotes a zero with a sign.
-/
namespace RemoteQuery

inductive JsonNumber
  | integer (value : Int)
  | real (written : String)
  deriving DecidableEq, Repr

inductive Json
  | null
  | boolean (value : Bool)
  | number (value : JsonNumber)
  | string (text : Option String)
  | array (elements : List Json)
  | object (members : List (Option String × Json))
  deriving Repr, Inhabited

namespace Json

def ofInt (value : Int) : Json := .number (.integer value)

def ofNat (value : Nat) : Json := ofInt value

def ofString (text : String) : Json := .string (some text)

def ofOption {α : Type} (f : α → Json) : Option α → Json
  | none => .null
  | some a => f a

/-- An object of named members. -/
def record (members : List (String × Json)) : Json :=
  .object (members.map fun (name, value) => (some name, value))

/-- The value of the last member of that name. -/
def member? (name : String) : Json → Option Json
  | .object members => (members.reverse.find? fun (key, _) => key == some name).map Prod.snd
  | _ => none

end Json

end RemoteQuery
