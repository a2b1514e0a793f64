import RemoteQuery.Json.Basic
import RemoteQuery.Number.Numeral
import RemoteQuery.Text.Hex

/-!
# Tokens of JSON

A text is cut into tokens before it is read. White space, which is space, tab, line feed and
carriage return, separates tokens and is dropped. Numbers and words are taken as far as they
reach; two values that stand side by side are refused later, by the reader. The characters of a
string are collected as code units, which may be halves of a surrogate pair.
-/
namespace RemoteQuery.Json

open Number (isDigit digitsValue)

inductive Token
  | leftBracket
  | rightBracket
  | leftBrace
  | rightBrace
  | comma
  | colon
  | null
  | boolean (value : Bool)
  | number (value : JsonNumber)
  | text (value : Option String)
  deriving DecidableEq, Repr

def isSpace (c : Char) : Bool := c == ' ' || c == '\t' || c == '\n' || c == '\r'

def isHighSurrogate (unit : Nat) : Bool := 0xd800 ≤ unit && unit < 0xdc00

def isLowSurrogate (unit : Nat) : Bool := 0xdc00 ≤ unit && unit < 0xe000

def joinPair (high low : Nat) : Char :=
  Char.ofNat (0x10000 + (high - 0xd800) * 0x400 + (low - 0xdc00))

/-- The text of the units, with the two halves of each pair joined. `none` if a half is alone. -/
def joinUnits (text : List Char) : List Nat → Option (List Char)
  | [] => some text.reverse
  | unit :: rest =>
    if isLowSurrogate unit then none
    else if isHighSurrogate unit then
      match rest with
      | low :: rest =>
        if isLowSurrogate low then joinUnits (joinPair unit low :: text) rest else none
      | [] => none
    else joinUnits (Char.ofNat unit :: text) rest

/-- The character that a backslash and this letter stand for. -/
def shortEscape? (letter : Char) : Option Char :=
  match letter with
  | '"' => some '"'
  | '\\' => some '\\'
  | '/' => some '/'
  | 'b' => some '\x08'
  | 'f' => some '\x0c'
  | 'n' => some '\n'
  | 'r' => some '\r'
  | 't' => some '\t'
  | _ => none

def hexUnit? (a b c d : Char) : Option Nat := do
  let a ← Text.Hex.value? a
  let b ← Text.Hex.value? b
  let c ← Text.Hex.value? c
  let d ← Text.Hex.value? d
  return ((a * 16 + b) * 16 + c) * 16 + d

/-- The units up to the closing quote and what follows it. -/
def scanString (units : List Nat) : List Char → Option (List Nat × List Char)
  | [] => none
  | c :: rest =>
    if c = '"' then some (units.reverse, rest)
    else if c = '\\' then
      match rest with
      | [] => none
      | letter :: rest =>
        if letter = 'u' then
          match rest with
          | x :: y :: z :: w :: rest =>
            match hexUnit? x y z w with
            | some unit => scanString (unit :: units) rest
            | none => none
          | _ => none
        else
          match shortEscape? letter with
          | some e => scanString (e.toNat :: units) rest
          | none => none
    else if c.toNat < 0x20 then none
    else scanString (c.toNat :: units) rest

/-- Digits after a mark, of which there must be one. -/
def digitsAfter? (text : List Char) : Option (List Char × List Char) :=
  match text.takeWhile isDigit with
  | [] => none
  | digits => some (digits, text.dropWhile isDigit)

/-- The digits before the point: a zero stands alone. -/
def scanWhole (text : List Char) : Option (List Char × List Char) :=
  match text with
  | '0' :: rest => some (['0'], rest)
  | text => digitsAfter? text

def scanFraction (text : List Char) : Option (List Char × List Char) :=
  match text with
  | '.' :: rest => (digitsAfter? rest).map fun (digits, rest) => ('.' :: digits, rest)
  | text => some ([], text)

def scanExponent (text : List Char) : Option (List Char × List Char) :=
  match text with
  | c :: rest =>
    if c = 'e' ∨ c = 'E' then
      match rest with
      | '+' :: rest => (digitsAfter? rest).map fun (digits, rest) => (c :: '+' :: digits, rest)
      | '-' :: rest => (digitsAfter? rest).map fun (digits, rest) => (c :: '-' :: digits, rest)
      | rest => (digitsAfter? rest).map fun (digits, rest) => (c :: digits, rest)
    else some ([], text)
  | [] => some ([], [])

def scanMagnitude (negative : Bool) (text : List Char) : Option (JsonNumber × List Char) := do
  let (whole, rest) ← scanWhole text
  let (fraction, rest) ← scanFraction rest
  let (exponent, rest) ← scanExponent rest
  let value := digitsValue whole
  if fraction.isEmpty && exponent.isEmpty && !(negative && value == 0) then
    return (.integer (if negative then -(value : Int) else value), rest)
  else
    let sign := if negative then ['-'] else []
    return (.real (String.ofList (sign ++ whole ++ fraction ++ exponent)), rest)

def scanNumber (text : List Char) : Option (JsonNumber × List Char) :=
  match text with
  | '-' :: rest => scanMagnitude true rest
  | text => scanMagnitude false text

/-- What follows a word, if the text starts with it. -/
def afterWord? (word : String) (text : List Char) : Option (List Char) :=
  if word.toList.isPrefixOf text then some (text.drop word.length) else none

/-- The first token and what follows it. The text does not start with white space. -/
def firstToken? (text : List Char) : Option (Token × List Char) :=
  match text with
  | '[' :: rest => some (.leftBracket, rest)
  | ']' :: rest => some (.rightBracket, rest)
  | '\x7b' :: rest => some (.leftBrace, rest)
  | '\x7d' :: rest => some (.rightBrace, rest)
  | ',' :: rest => some (.comma, rest)
  | ':' :: rest => some (.colon, rest)
  | '"' :: rest =>
    (scanString [] rest).map fun (units, rest) =>
      (.text ((joinUnits [] units).map String.ofList), rest)
  | 'n' :: _ => (afterWord? "null" text).map fun rest => (.null, rest)
  | 't' :: _ => (afterWord? "true" text).map fun rest => (.boolean true, rest)
  | 'f' :: _ => (afterWord? "false" text).map fun rest => (.boolean false, rest)
  | text => (scanNumber text).map fun (value, rest) => (.number value, rest)

theorem scanString_length {units : List Nat} {text : List Char} {found : List Nat × List Char}
    (h : scanString units text = some found) : found.2.length < text.length := by
  fun_induction scanString units text <;> grind

theorem digitsAfter?_length {text : List Char} {found : List Char × List Char}
    (h : digitsAfter? text = some found) : found.2.length < text.length := by
  unfold digitsAfter? at h
  split at h
  · cases h
  · rename_i some_digit
    cases h
    have := congrArg List.length (List.takeWhile_append_dropWhile (p := isDigit) (l := text))
    rw [List.length_append] at this
    have := List.length_pos_iff.2 some_digit
    simp only
    omega

theorem scanMagnitude_length {negative : Bool} {text : List Char} {found : JsonNumber × List Char}
    (h : scanMagnitude negative text = some found) : found.2.length < text.length := by
  have whole : ∀ {t f}, scanWhole t = some f → f.2.length < t.length := by
    intro t f h
    unfold scanWhole at h
    split at h
    · cases h; simp
    · exact digitsAfter?_length h
  have fraction : ∀ {t f}, scanFraction t = some f → f.2.length ≤ t.length := by
    intro t f h
    unfold scanFraction at h
    split at h
    · obtain ⟨d, hd, rfl⟩ := Option.map_eq_some_iff.1 h
      have := digitsAfter?_length hd
      simp only [List.length_cons]
      omega
    · cases h; simp
  have exponent : ∀ {t f}, scanExponent t = some f → f.2.length ≤ t.length := by
    intro t f h
    unfold scanExponent at h
    split at h
    · split at h
      · split at h <;>
        · obtain ⟨d, hd, rfl⟩ := Option.map_eq_some_iff.1 h
          have := digitsAfter?_length hd
          simp only [List.length_cons]
          omega
      · cases h; simp
    · cases h; simp
  unfold scanMagnitude at h
  simp only [Option.bind_eq_bind, Option.bind_eq_some_iff] at h
  obtain ⟨w, hw, f, hf, e, he, h⟩ := h
  have := whole hw
  have := fraction hf
  have := exponent he
  split at h <;> cases h <;> simp only <;> omega

theorem firstToken?_length {text : List Char} {found : Token × List Char}
    (h : firstToken? text = some found) : found.2.length < text.length := by
  have word : ∀ {w : String} {t r : List Char}, 0 < w.length → t ≠ [] →
      afterWord? w t = some r → r.length < t.length := by
    intro w t r hw ht h
    unfold afterWord? at h
    split at h
    · cases h
      have := List.length_pos_iff.2 ht
      simp only [List.length_drop]
      omega
    · cases h
  unfold firstToken? at h
  split at h
  iterate 6 (cases h; simp)
  · obtain ⟨s, hs, rfl⟩ := Option.map_eq_some_iff.1 h
    have := scanString_length hs
    simp only [List.length_cons]
    omega
  iterate 3
    · obtain ⟨r, hr, rfl⟩ := Option.map_eq_some_iff.1 h
      exact word (by decide) (by simp) hr
  · obtain ⟨n, hn, rfl⟩ := Option.map_eq_some_iff.1 h
    unfold scanNumber at hn
    split at hn
    · have := scanMagnitude_length hn
      simp only [List.length_cons]
      omega
    · exact scanMagnitude_length hn

/-- The tokens of a text, after those that are already found, nearest first. -/
def tokensAfter (found : List Token) (text : List Char) : Option (List Token) :=
  match text with
  | [] => some found.reverse
  | c :: rest =>
    if isSpace c then tokensAfter found rest
    else
      match _found : firstToken? (c :: rest) with
      | none => none
      | some (token, rest') => tokensAfter (token :: found) rest'
termination_by text.length
decreasing_by
  · simp
  · exact firstToken?_length _found

def tokens? (text : List Char) : Option (List Token) := tokensAfter [] text

end RemoteQuery.Json
