import RemoteQuery.Proofs.JsonLexemes

/-!
# Texts of JSON values

The tokens of a value are determined by the value, and a text of it spells them with white space
anywhere between. What is asked of a reader and a writer of JSON is said by such texts alone; what
messages show of themselves on the wire rests on these laws and on nothing else.
-/
namespace RemoteQuery.Json

mutual

/-- The tokens of a value in the order in which they are written. -/
def tokens : Json → List Token
  | .null => [.null]
  | .boolean value => [.boolean value]
  | .number value => [.number value]
  | .string text => [.text text]
  | .array elements => .leftBracket :: (elementTokens elements ++ [.rightBracket])
  | .object members => .leftBrace :: (memberTokens members ++ [.rightBrace])

def elementTokens : List Json → List Token
  | [] => []
  | [value] => value.tokens
  | value :: next :: rest => value.tokens ++ .comma :: elementTokens (next :: rest)

def memberTokens : List (Option String × Json) → List Token
  | [] => []
  | [(key, value)] => .text key :: .colon :: value.tokens
  | (key, value) :: next :: rest =>
    .text key :: .colon :: (value.tokens ++ .comma :: memberTokens (next :: rest))

end

/-- The text is one of the value. -/
def Written (value : Json) (text : String) : Prop := Spaced value.tokens text.toList

/-- An element behind another, with its comma. -/
def nextElement (value : Json) : List Token := .comma :: value.tokens

def nextMember (member : Option String × Json) : List Token :=
  .comma :: .text member.1 :: .colon :: member.2.tokens

theorem elementTokens_cons (first : Json) (others : List Json) :
    elementTokens (first :: others) = first.tokens ++ others.flatMap nextElement := by
  induction others generalizing first with
  | nil => exact (List.append_nil _).symm
  | cons next others ih => rw [elementTokens, ih, List.flatMap_cons, nextElement, List.cons_append]

theorem memberTokens_cons (first : Option String × Json) (others : List (Option String × Json)) :
    memberTokens (first :: others) =
      .text first.1 :: .colon :: (first.2.tokens ++ others.flatMap nextMember) := by
  induction others generalizing first with
  | nil => rw [memberTokens, List.flatMap_nil, List.append_nil]
  | cons next others ih =>
    rw [memberTokens, ih, List.flatMap_cons, nextMember, List.cons_append, List.cons_append,
      List.cons_append]

def Token.isReal : Token → Bool
  | .number (.real _) => true
  | _ => false

/-- The numbers in the value are all integers. -/
def Integral (value : Json) : Prop := ∀ token ∈ value.tokens, token.isReal = false

instance (value : Json) : Decidable value.Integral :=
  inferInstanceAs (Decidable (∀ _ ∈ value.tokens, _))

theorem integral_ofString (text : String) : (ofString text).Integral :=
  List.forall_mem_singleton.mpr rfl

theorem integral_ofNat (n : Nat) : (ofNat n).Integral := List.forall_mem_singleton.mpr rfl

theorem integral_record {members : List (String × Json)}
    (each : ∀ member ∈ members, member.2.Integral) : (record members).Integral := by
  have inside : ∀ token ∈ memberTokens (members.map (Prod.map some id)), token.isReal = false := by
    cases members with
    | nil => exact nofun
    | cons first others =>
      obtain ⟨here, rest⟩ := List.forall_mem_cons.mp each
      rw [List.map_cons, memberTokens_cons]
      intro token member
      simp only [List.mem_cons, List.mem_append, List.mem_flatMap, List.mem_map, nextMember]
        at member
      obtain rfl | rfl | member | ⟨_, ⟨other, listed, rfl⟩, rfl | rfl | rfl | member⟩ := member
      · rfl
      · rfl
      · exact here token member
      · rfl
      · rfl
      · rfl
      · exact rest other listed token member
  intro token member
  rw [record, tokens, List.mem_cons, List.mem_append, List.mem_singleton] at member
  rcases member with rfl | member | rfl
  · rfl
  · exact inside token member
  · rfl

/-- The laws of a reader and a writer: a text is read as the value that it is a text of, and any
other is refused; a value whose numbers are integers is written as one of its texts. -/
structure Lawful (read? : String → Option Json) (write : Json → String) : Prop where
  read?_eq_some_iff {text : String} {value : Json} : read? text = some value ↔ Written value text
  written_write {value : Json} (integral : value.Integral) : Written value (write value)

/-- What is written is read back. -/
theorem Lawful.read?_write {read? : String → Option Json} {write : Json → String}
    (laws : Lawful read? write) {value : Json} (integral : value.Integral) :
    read? (write value) = some value :=
  laws.read?_eq_some_iff.mpr (laws.written_write integral)

end RemoteQuery.Json
