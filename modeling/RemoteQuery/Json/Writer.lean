import RemoteQuery.Json.Basic
import RemoteQuery.Text.Hex

/-!
# Writing JSON

Values are written without white space. In strings only the quote, the backslash and the
characters below the space are escaped. A string that stands for no text is written as half of a
surrogate pair.
-/
namespace RemoteQuery.Json

def escapedChar (c : Char) : List Char :=
  match c with
  | '"' => ['\\', '"']
  | '\\' => ['\\', '\\']
  | '\x08' => ['\\', 'b']
  | '\x0c' => ['\\', 'f']
  | '\n' => ['\\', 'n']
  | '\r' => ['\\', 'r']
  | '\t' => ['\\', 't']
  | c => if c.toNat < 0x20 then '\\' :: 'u' :: Text.Hex.padded 4 c.toNat else [c]

def writeText : Option String → List Char
  | none => "\"\\ud800\"".toList
  | some text => '"' :: (text.toList.flatMap escapedChar ++ ['"'])

def writeNumber : JsonNumber → List Char
  | .integer value => (toString value).toList
  | .real written => written.toList

mutual

/-- The written value in front of a text. -/
def writeBefore (rest : List Char) : Json → List Char
  | .null => "null".toList ++ rest
  | .boolean true => "true".toList ++ rest
  | .boolean false => "false".toList ++ rest
  | .number value => writeNumber value ++ rest
  | .string text => writeText text ++ rest
  | .array [] => '[' :: ']' :: rest
  | .array (first :: others) => '[' :: writeBefore (writeElements rest others) first
  | .object [] => '\x7b' :: '\x7d' :: rest
  | .object ((key, value) :: others) =>
    '\x7b' :: (writeText key ++ ':' :: writeBefore (writeMembers rest others) value)

/-- The elements after the first, each behind a comma, and the closing bracket. -/
def writeElements (rest : List Char) : List Json → List Char
  | [] => ']' :: rest
  | value :: others => ',' :: writeBefore (writeElements rest others) value

def writeMembers (rest : List Char) : List (Option String × Json) → List Char
  | [] => '\x7d' :: rest
  | (key, value) :: others =>
    ',' :: (writeText key ++ ':' :: writeBefore (writeMembers rest others) value)

end

def write (value : Json) : String := String.ofList (writeBefore [] value)

end RemoteQuery.Json
