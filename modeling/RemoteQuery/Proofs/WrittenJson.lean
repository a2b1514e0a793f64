import RemoteQuery.Json.Writer
import RemoteQuery.Proofs.PrintedNumerals
import RemoteQuery.Proofs.JsonReading

/-!
# Written values are read back

The writer spells the tokens of a value one after the other, with nothing between, and each string
so that it stands for its own characters, whatever they are. So what is written is a text of the
value, and the reader gives the value back. Of a number that is no integer this is asked for, since
it keeps the text that it was written with; integers have it.
-/
namespace RemoteQuery.Json

open Number (isDigit digitsValue)

theorem hexUnit?_padded {n : Nat} (small : n < 0x10000) :
    ∃ x y z w, Text.Hex.padded 4 n = [x, y, z, w] ∧ hexUnit? x y z w = some n := by
  refine ⟨_, _, _, _, rfl, ?_⟩
  have digit (k : Nat) : Text.Hex.value? (Text.Hex.digit (k % 16)) = some (k % 16) :=
    Text.Hex.value?_digit (Nat.mod_lt k (by decide))
  simp only [hexUnit?, digit, Option.bind_eq_bind, Option.bind_some, Option.pure_def,
    Option.some.injEq]
  omega

/-- An escaped character stands for itself. -/
theorem Body.escaped (c : Char) {body : List Char} {units : List Nat} (rest : Body body units) :
    Body (escapedChar c ++ body) (c.toNat :: units) := by
  unfold escapedChar
  split
  iterate 7 exact .short rfl rest
  rename_i quote backslash _ _ _ _ _
  split
  · rename_i control
    obtain ⟨x, y, z, w, digits, unit⟩ := hexUnit?_padded (n := c.toNat) (by omega)
    rw [digits]
    exact .numbered unit rest
  · rename_i printed
    exact .plain ⟨quote, backslash⟩ (Nat.not_lt.mp printed) rest

theorem body_escaped (text : List Char) :
    Body (text.flatMap escapedChar) (text.map Char.toNat) := by
  induction text with
  | nil => exact .nil
  | cons c text ih => exact ih.escaped c

theorem joins_toNat (text : List Char) : Joins (text.map Char.toNat) text := by
  induction text with
  | nil => exact .nil
  | cons c text ih => exact .one ih

theorem lexeme_writeText (text : Option String) : Lexeme (.text text) (writeText text) := by
  cases text with
  | some text => exact .text (body_escaped text.toList) (joins_toNat text.toList)
  | none =>
    -- Half of a pair, which joins to no text.
    have half : Body "\\ud800".toList [0xd800] := .numbered rfl .nil
    exact .text half ((denotes_iff half).mpr rfl)

/-- No zero stands in front of the decimal text of a number, unless it is all of the text. -/
theorem whole_toString (n : Nat) : Whole (toString n).toList := by
  obtain ⟨nonempty, all, value⟩ := Number.digits_repr n
  refine ⟨⟨nonempty, all⟩, ?_⟩
  intro zero
  obtain ⟨rest, text⟩ := List.head?_eq_some_iff.mp zero
  rw [text] at all value
  have small : n < 10 ^ rest.length := by
    have zeros : digitsValue ('0' :: rest) = digitsValue rest := by
      rw [Number.digitsValue_cons]
      exact (congrArg (· + _) (Nat.zero_mul _)).trans (Nat.zero_add _)
    rw [← value, zeros]
    exact Number.digitsValue_lt fun c member => all c (List.mem_cons_of_mem _ member)
  cases rest with
  | nil => exact text
  | cons c rest =>
    have short := (Nat.length_repr_le_iff (Nat.succ_pos rest.length)).mpr small
    rw [← Nat.toString_eq_repr, ← String.length_toList, text] at short
    exact (Nat.not_succ_le_self _ short).elim

theorem numeral_integer (number : Int) :
    Numeral (.integer number) (writeNumber (.integer number)) := by
  have value := (Number.digits_repr number.natAbs).2.2
  have whole := whole_toString number.natAbs
  cases number with
  | ofNat n =>
    have numeral := @Numeral.integer false _ whole (fun wrong => nomatch wrong.1)
    rwa [value] at numeral
  | negSucc n =>
    have nonzero : digitsValue (toString (Int.negSucc n).natAbs).toList ≠ 0 := by
      rw [value]
      exact Nat.succ_ne_zero n
    have numeral := @Numeral.integer true _ whole (fun wrong => nonzero wrong.2)
    rw [value] at numeral
    have text : writeNumber (.integer (.negSucc n)) = minus true ++ (toString (n + 1)).toList :=
      String.toList_append
    rw [text]
    exact numeral

/-- How the writer spells a token. -/
def Token.spelling : Token → List Char
  | .leftBracket => ['[']
  | .rightBracket => [']']
  | .leftBrace => ['\x7b']
  | .rightBrace => ['\x7d']
  | .comma => [',']
  | .colon => [':']
  | .null => "null".toList
  | .boolean true => "true".toList
  | .boolean false => "false".toList
  | .number value => writeNumber value
  | .text value => writeText value

/-- The number is written as a numeral of it. -/
def IsNumbered (token : Token) : Prop :=
  ∀ number, token = .number number → Numeral number (writeNumber number)

theorem lexeme_spelling {token : Token} (numbered : IsNumbered token) :
    Lexeme token token.spelling := by
  cases token with
  | leftBracket => exact .leftBracket
  | rightBracket => exact .rightBracket
  | leftBrace => exact .leftBrace
  | rightBrace => exact .rightBrace
  | comma => exact .comma
  | colon => exact .colon
  | null => exact .null
  | boolean value =>
    cases value with
    | true => exact .yes
    | false => exact .no
  | number value => exact .number (numbered value rfl)
  | text value => exact lexeme_writeText value

theorem spaced_spelling {tokens : List Token} (numbered : ∀ token ∈ tokens, IsNumbered token) :
    Spaced tokens (tokens.flatMap Token.spelling) := by
  induction tokens with
  | nil => exact .nil nofun
  | cons token tokens ih =>
    obtain ⟨here, rest⟩ := List.forall_mem_cons.mp numbered
    exact .cons (show ∀ c ∈ [], isSpace c = true from nofun) (lexeme_spelling here) (ih rest)

mutual

/-- What is written of a value are its tokens. -/
theorem writeBefore_eq (rest : List Char) (value : Json) :
    writeBefore rest value = value.tokens.flatMap Token.spelling ++ rest := by
  match value with
  | .null | .boolean true | .boolean false => rfl
  | .number _ | .string _ =>
    rw [tokens, List.flatMap_singleton]
    rfl
  | .array [] | .object [] => rfl
  | .array (first :: others) =>
    have written : writeBefore rest (.array (first :: others)) =
      '[' :: writeBefore (writeElements rest others) first := rfl
    rw [written, writeBefore_eq _ first, writeElements_eq rest others, tokens,
      elementTokens_cons]
    simp only [List.flatMap_cons, List.flatMap_append, List.flatMap_nil, Token.spelling,
      List.append_assoc, List.cons_append, List.nil_append]
  | .object ((key, value) :: others) =>
    have written : writeBefore rest (.object ((key, value) :: others)) = '\x7b' ::
      (writeText key ++ ':' :: writeBefore (writeMembers rest others) value) := rfl
    rw [written, writeBefore_eq _ value, writeMembers_eq rest others, tokens,
      memberTokens_cons]
    simp only [List.flatMap_cons, List.flatMap_append, List.flatMap_nil, Token.spelling,
      List.append_assoc, List.cons_append, List.nil_append]

theorem writeElements_eq (rest : List Char) (others : List Json) :
    writeElements rest others =
      (others.flatMap nextElement).flatMap Token.spelling ++ ']' :: rest := by
  match others with
  | [] => rfl
  | next :: others =>
    rw [writeElements, writeBefore_eq _ next, writeElements_eq rest others]
    simp only [List.flatMap_cons, List.flatMap_append, nextElement, Token.spelling,
      List.append_assoc, List.cons_append, List.nil_append]

theorem writeMembers_eq (rest : List Char) (others : List (Option String × Json)) :
    writeMembers rest others =
      (others.flatMap nextMember).flatMap Token.spelling ++ '\x7d' :: rest := by
  match others with
  | [] => rfl
  | (key, value) :: others =>
    rw [writeMembers, writeBefore_eq _ value, writeMembers_eq rest others]
    simp only [List.flatMap_cons, List.flatMap_append, nextMember, Token.spelling,
      List.append_assoc, List.cons_append, List.nil_append]

end

/-- The number of each value in it is written as a numeral of it. -/
def Numbered (value : Json) : Prop := ∀ token ∈ value.tokens, IsNumbered token

theorem written_write {value : Json} (numbered : value.Numbered) : Written value value.write := by
  rw [Written, write, writeBefore_eq, String.toList_ofList, List.append_nil]
  exact spaced_spelling numbered

theorem Integral.numbered {value : Json} (integral : value.Integral) : value.Numbered := by
  rintro _ member number rfl
  cases number with
  | integer number => exact numeral_integer number
  | real written => exact nomatch integral _ member

/-- What is written is read back, and nothing is read but the texts of values. -/
theorem lawful : Lawful read? write where
  read?_eq_some_iff := read?_eq_some_iff
  written_write integral := written_write integral.numbered

end RemoteQuery.Json
