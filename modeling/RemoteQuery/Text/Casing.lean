import RemoteQuery.Text.Blank
import RemoteQuery.Text.CaseTable

/-!
# Lower and upper case

Lower case is the standard's full mapping: one character may become two, and a capital sigma at the
end of a word becomes the final form of that letter. Of upper case only the part that ends in ASCII
is needed, since it is compared with words of ASCII letters alone.
-/
namespace RemoteQuery.Text

def isCased (c : Char) : Bool := covers casedRanges c.toNat

def isCaseIgnorable (c : Char) : Bool := covers caseIgnorableRanges c.toNat

/-- The lower-case form of a single character, out of context. -/
def lowerChar (c : Char) : List Char :=
  if c = 'İ' then ['i', '\u0307']
  else if c.toNat < 0x80 then [c.toLower]
  else
    match lowerRanges.find? fun (first, last, step, _) =>
        first ≤ c.toNat && c.toNat ≤ last && (c.toNat - first) % step == 0 with
    | some (_, _, _, distance) => [Char.ofNat (c.toNat + distance).toNat]
    | none => [c]

/-- The nearest character that is not passed over has case. -/
def nextIsCased (text : List Char) : Bool :=
  match text.dropWhile isCaseIgnorable with
  | [] => false
  | c :: _ => isCased c

/-- The lower-case form of a text behind `before`, which has been read and stands nearest first;
`lowered` is its form, reversed. -/
def lowerAfter (before lowered : List Char) : List Char → List Char
  | [] => lowered.reverse
  | c :: after =>
    let form :=
      if c = 'Σ' then (if nextIsCased before && !nextIsCased after then ['ς'] else ['σ'])
      else lowerChar c
    lowerAfter (c :: before) (form.reverse ++ lowered) after

def lower (text : List Char) : List Char := lowerAfter [] [] text

/-- The upper-case form of a character where that form is of ASCII letters, and otherwise the
character itself. -/
def upperAscii (c : Char) : List Char :=
  match c with
  | 'ß' => ['S', 'S']
  | 'ı' => ['I']
  | 'ſ' => ['S']
  | 'ﬀ' => ['F', 'F']
  | 'ﬁ' => ['F', 'I']
  | 'ﬂ' => ['F', 'L']
  | 'ﬃ' => ['F', 'F', 'I']
  | 'ﬄ' => ['F', 'F', 'L']
  | 'ﬅ' => ['S', 'T']
  | 'ﬆ' => ['S', 'T']
  | c => [c.toUpper]

end RemoteQuery.Text
