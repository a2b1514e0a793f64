import Mathlib.Data.List.Chain
import RemoteQuery.Proofs.JsonNumerals
import RemoteQuery.Proofs.JsonStrings

/-!
# Lexemes of JSON

Each token has its texts: a mark, a word, a string, a number. Text that spells a list of tokens,
with white space anywhere between, is cut into just these tokens, if no two numbers stand side by
side; and whatever is cut is spelled that way.
-/
namespace RemoteQuery.Json

open Number (isDigit)

/-- The texts of each token. -/
inductive Lexeme : Token → List Char → Prop
  | leftBracket : Lexeme .leftBracket ['[']
  | rightBracket : Lexeme .rightBracket [']']
  | leftBrace : Lexeme .leftBrace ['\x7b']
  | rightBrace : Lexeme .rightBrace ['\x7d']
  | comma : Lexeme .comma [',']
  | colon : Lexeme .colon [':']
  | null : Lexeme .null "null".toList
  | yes : Lexeme (.boolean true) "true".toList
  | no : Lexeme (.boolean false) "false".toList
  | number {value : JsonNumber} {text : List Char} (h : Numeral value text) :
      Lexeme (.number value) text
  | text {body : List Char} {units : List Nat} {value : Option String} (h : Body body units)
      (denotes : Denotes units value) : Lexeme (.text value) ('"' :: (body ++ ['"']))

def Token.isNumber : Token → Bool
  | .number _ => true
  | _ => false

/-- Tokens with white space before, between and after them. -/
inductive Spaced : List Token → List Char → Prop
  | nil {spaces : List Char} (h : ∀ c ∈ spaces, isSpace c = true) : Spaced [] spaces
  | cons {spaces lexeme text : List Char} {token : Token} {tokens : List Token}
      (h : ∀ c ∈ spaces, isSpace c = true) (here : Lexeme token lexeme)
      (rest : Spaced tokens text) : Spaced (token :: tokens) (spaces ++ (lexeme ++ text))

theorem afterWord?_word (word : String) (rest : List Char) :
    afterWord? word (word.toList ++ rest) = some rest := by
  have leads : word.toList.isPrefixOf (word.toList ++ rest) = true :=
    List.isPrefixOf_iff_prefix.mpr (List.prefix_append _ _)
  rw [afterWord?, if_pos leads, ← String.length_toList, List.drop_left]

theorem eq_of_afterWord? {word : String} {text rest : List Char}
    (h : afterWord? word text = some rest) : text = word.toList ++ rest := by
  unfold afterWord? at h
  split at h
  · rename_i leads
    obtain ⟨tail, rfl⟩ := List.isPrefixOf_iff_prefix.mp leads
    rw [← String.length_toList, List.drop_left] at h
    rw [Option.some.inj h]
  · cases h

theorem firstToken?_of_lexeme {token : Token} {lexeme rest : List Char} (h : Lexeme token lexeme)
    (next : token.isNumber = true → Stops rest) :
    firstToken? (lexeme ++ rest) = some (token, rest) := by
  cases h with
  | leftBracket | rightBracket | leftBrace | rightBrace | comma | colon => rfl
  | null => exact congrArg (Option.map fun rest => (Token.null, rest)) (afterWord?_word "null" rest)
  | yes =>
    exact congrArg (Option.map fun rest => (Token.boolean true, rest)) (afterWord?_word "true" rest)
  | no =>
    exact congrArg (Option.map fun rest => (Token.boolean false, rest))
      (afterWord?_word "false" rest)
  | number h =>
    have scanned := scanNumber_of_numeral h (next rfl)
    obtain ⟨c, tail, rfl, starts⟩ := h.starts
    unfold firstToken?
    split
    iterate 10
      · rename_i same
        rw [(List.cons.inj same).1] at starts
        exact absurd starts (by decide)
    · rw [scanned]
      rfl
  | text h denotes =>
    have scanned := scanString_of_body h [] rest
    rw [List.reverse_nil, List.nil_append] at scanned
    rw [List.cons_append, firstToken?, List.append_assoc, List.singleton_append, scanned,
      ← (denotes_iff h).mp denotes]
    rfl

theorem lexeme_of_firstToken? {text rest : List Char} {token : Token}
    (h : firstToken? text = some (token, rest)) :
    ∃ lexeme, Lexeme token lexeme ∧ text = lexeme ++ rest := by
  unfold firstToken? at h
  split at h
  iterate 6
    · cases h
      exact ⟨_, by constructor, rfl⟩
  · obtain ⟨⟨units, _⟩, scanned, same⟩ := Option.map_eq_some_iff.mp h
    cases same
    obtain ⟨body, new, written, rfl, rfl⟩ := body_of_scanString scanned
    exact ⟨_, .text written ((denotes_iff written).mpr rfl), by simp⟩
  · obtain ⟨_, after, same⟩ := Option.map_eq_some_iff.mp h
    cases same
    exact ⟨_, .null, eq_of_afterWord? after⟩
  · obtain ⟨_, after, same⟩ := Option.map_eq_some_iff.mp h
    cases same
    exact ⟨_, .yes, eq_of_afterWord? after⟩
  · obtain ⟨_, after, same⟩ := Option.map_eq_some_iff.mp h
    cases same
    exact ⟨_, .no, eq_of_afterWord? after⟩
  · obtain ⟨_, scanned, same⟩ := Option.map_eq_some_iff.mp h
    cases same
    obtain ⟨written, numeral, same⟩ := numeral_of_scanNumber scanned
    exact ⟨written, .number numeral, same⟩

/-- Two numbers do not stand side by side. -/
def Apart (one other : Token) : Prop := one.isNumber = true → other.isNumber = false

theorem Lexeme.starts {token : Token} {lexeme : List Char} (h : Lexeme token lexeme) :
    ∃ c tail, lexeme = c :: tail ∧ isSpace c = false := by
  cases h with
  | number h =>
    obtain ⟨c, tail, rfl, starts⟩ := h.starts
    refine ⟨c, tail, rfl, ?_⟩
    rcases starts with rfl | digit
    · decide
    · simp only [isSpace, Bool.or_eq_false_iff, beq_eq_false_iff_ne]
      refine ⟨⟨⟨?_, ?_⟩, ?_⟩, ?_⟩
      all_goals
        rintro rfl
        cases digit
  | _ => exact ⟨_, _, rfl, by decide⟩

theorem Lexeme.stops {token : Token} {lexeme : List Char} (h : Lexeme token lexeme)
    (other : token.isNumber = false) (rest : List Char) : Stops (lexeme ++ rest) := by
  cases h with
  | number h => cases other
  | _ =>
    rintro _ ⟨⟩
    decide

theorem Spaced.stops {tokens : List Token} {text : List Char} (h : Spaced tokens text)
    (other : ∀ token ∈ tokens.head?, token.isNumber = false) : Stops text := by
  have space {c : Char} (h : isSpace c = true) :
      isDigit c = false ∧ c ≠ '.' ∧ c ≠ 'e' ∧ c ≠ 'E' := by
    simp only [isSpace, Bool.or_eq_true, beq_iff_eq] at h
    rcases h with ((rfl | rfl) | rfl) | rfl <;> decide
  cases h with
  | nil spaces =>
    intro c first
    exact space (spaces c (List.mem_of_mem_head? first))
  | @cons spaces lexeme text token tokens spaced here rest =>
    cases spaces with
    | nil => exact here.stops (other token rfl) text
    | cons c spaces =>
      rintro _ ⟨⟩
      exact space (spaced c List.mem_cons_self)

theorem Spaced.space {tokens : List Token} {text : List Char} {c : Char} (h : Spaced tokens text)
    (space : isSpace c = true) : Spaced tokens (c :: text) := by
  cases h with
  | nil spaces => exact .nil (List.forall_mem_cons.mpr ⟨space, spaces⟩)
  | @cons spaces lexeme text token tokens spaced here rest =>
    have longer := Spaced.cons (List.forall_mem_cons.mpr ⟨space, spaced⟩) here rest
    exact longer

theorem tokensAfter_spaces {spaces : List Char} (h : ∀ c ∈ spaces, isSpace c = true)
    (found : List Token) (text : List Char) :
    tokensAfter found (spaces ++ text) = tokensAfter found text := by
  induction spaces with
  | nil => rfl
  | cons c spaces ih =>
    obtain ⟨space, rest⟩ := List.forall_mem_cons.mp h
    rw [List.cons_append, tokensAfter, if_pos space, ih rest]

theorem tokensAfter_of_spaced {tokens : List Token} {text : List Char} (h : Spaced tokens text)
    (apart : tokens.IsChain Apart) (found : List Token) :
    tokensAfter found text = some (found.reverse ++ tokens) := by
  induction h generalizing found with
  | @nil spaces h =>
    have read := tokensAfter_spaces h found []
    rw [List.append_nil] at read
    rw [read, tokensAfter, List.append_nil]
  | @cons spaces lexeme text token tokens h here rest ih =>
    obtain ⟨next, apart⟩ := List.isChain_cons.mp apart
    have stops : token.isNumber = true → Stops text := fun number =>
      rest.stops fun other first => next other first number
    have first := firstToken?_of_lexeme here stops
    rw [tokensAfter_spaces h]
    obtain ⟨c, tail, rfl, solid⟩ := here.starts
    rw [List.cons_append] at first ⊢
    rw [tokensAfter, if_neg (Bool.eq_false_iff.mp solid)]
    split
    · rename_i none
      rw [first] at none
      cases none
    · rename_i other rest found
      cases first.symm.trans found
      rw [ih apart, reverse_cons_append]

theorem spaced_of_tokensAfter {found tokens : List Token} {text : List Char}
    (h : tokensAfter found text = some tokens) :
    ∃ new, Spaced new text ∧ tokens = found.reverse ++ new := by
  fun_induction tokensAfter found text with
  | case1 found =>
    cases h
    exact ⟨[], .nil nofun, (List.append_nil _).symm⟩
  | case2 found c rest space ih =>
    obtain ⟨new, spaced, rfl⟩ := ih h
    exact ⟨new, spaced.space space, rfl⟩
  | case3 => cases h
  | case4 found c rest _ token after first ih =>
    obtain ⟨new, spaced, rfl⟩ := ih h
    obtain ⟨lexeme, here, same⟩ := lexeme_of_firstToken? first
    rw [same]
    have longer := Spaced.cons (fun c (none : c ∈ []) => nomatch none) here spaced
    exact ⟨token :: new, longer, reverse_cons_append token found new⟩

theorem tokens?_of_spaced {tokens : List Token} {text : List Char} (h : Spaced tokens text)
    (apart : tokens.IsChain Apart) : tokens? text = some tokens :=
  tokensAfter_of_spaced h apart []

theorem spaced_of_tokens? {tokens : List Token} {text : List Char}
    (h : tokens? text = some tokens) : Spaced tokens text := by
  obtain ⟨_, spaced, rfl⟩ := spaced_of_tokensAfter h
  exact spaced

end RemoteQuery.Json
