import RemoteQuery.Text.Blank
import RemoteQuery.Text.EscapeTable
import RemoteQuery.Text.Hex

/-!
# Quoted text

A text as it is shown in a description of a value: between double quotes, with the quote, the
backslash and every character that cannot be shown escaped. An apostrophe stands for itself.
-/
namespace RemoteQuery.Text

/-- The code point of a character in braces, in the fewest hexadecimal digits. -/
def escapedPoint (c : Char) : List Char :=
  '\\' :: 'u' :: '\x7b' :: (Nat.toDigits 16 c.toNat ++ ['\x7d'])

def quotedChar (c : Char) : List Char :=
  match c with
  | '\x00' => ['\\', '0']
  | '\t' => ['\\', 't']
  | '\n' => ['\\', 'n']
  | '\r' => ['\\', 'r']
  | '"' => ['\\', '"']
  | '\\' => ['\\', '\\']
  | c => if covers escapedRanges c.toNat then escapedPoint c else [c]

def quoted (text : String) : String :=
  String.ofList ('"' :: (text.toList.flatMap quotedChar ++ ['"']))

/-- An optional text: the quoted text in its wrapping, or the word for its absence. -/
def quotedOption : Option String → String
  | none => "None"
  | some text => "Some(" ++ quoted text ++ ")"

end RemoteQuery.Text
