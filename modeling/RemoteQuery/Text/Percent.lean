import RemoteQuery.Text.Hex
import RemoteQuery.Text.Utf8

/-!
# Percent-encoded text

A percent sign and two hexadecimal digits stand for a byte, and a percent sign that two digits do
not follow stands for itself. The plus sign has no meaning of its own. The bytes are UTF-8.
-/
namespace RemoteQuery.Text.Percent

def sign : UInt8 := 0x25

def hexValue? (b : UInt8) : Option Nat := Hex.value? (Char.ofNat b.toNat)

def unescape : List UInt8 → List UInt8
  | [] => []
  | b :: rest =>
    if b = sign then
      match rest with
      | high :: low :: tail =>
        match hexValue? high, hexValue? low with
        | some high, some low => UInt8.ofNat (16 * high + low) :: unescape tail
        | _, _ => b :: unescape (high :: low :: tail)
      | short => b :: unescape short
    else b :: unescape rest

def decode (text : List Char) : Except Utf8.Fault String :=
  Utf8.decode (unescape (Utf8.encode (String.ofList text)))

/-- Letters and digits of ASCII and `-`, `.`, `_`, `~`: the bytes that are written as they are. -/
def isUnreserved (b : UInt8) : Bool :=
  let c := Char.ofNat b.toNat
  c.isAlphanum || c == '-' || c == '.' || c == '_' || c == '~'

def escapeByte (b : UInt8) : List Char :=
  if isUnreserved b then [Char.ofNat b.toNat] else '%' :: Hex.encodeByte b

def encode (text : String) : String := String.ofList ((Utf8.encode text).flatMap escapeByte)

end RemoteQuery.Text.Percent
