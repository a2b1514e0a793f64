import RemoteQuery.Json.Reader
import RemoteQuery.Proofs.JsonTexts

/-!
# Reading of JSON

The reader accepts exactly the texts of values. It gives back the tokens that it has taken: at any
place, what is open and what is done account for all of them.
-/
namespace RemoteQuery.Json

mutual

theorem readFrom_value (value : Json) (mayClose : Bool) (stack : List Frame) (rest : List Token) :
    readFrom (.value mayClose) stack (value.tokens ++ rest) =
      readFrom (.complete value) stack rest := by
  match value with
  | .null | .boolean _ | .number _ | .string _ => rfl
  | .array [] => rfl
  | .object [] => rfl
  | .array (first :: elements) =>
    rw [tokens, List.cons_append, List.append_assoc]
    exact readFrom_elements (first :: elements) (List.cons_ne_nil _ _) true [] stack rest
  | .object (first :: members) =>
    rw [tokens, List.cons_append, List.append_assoc]
    exact readFrom_members (first :: members) (List.cons_ne_nil _ _) true [] stack rest

theorem readFrom_elements (elements : List Json) (some_element : elements ≠ []) (mayClose : Bool)
    (done : List Json) (stack : List Frame) (rest : List Token) :
    readFrom (.value mayClose) (.array done :: stack)
        (elementTokens elements ++ .rightBracket :: rest) =
      readFrom (.complete (.array (done.reverse ++ elements))) stack rest := by
  match elements with
  | [] => exact (some_element rfl).elim
  | [value] =>
    rw [elementTokens, readFrom_value value]
    change readFrom (.complete (.array (value :: done).reverse)) stack rest = _
    rw [List.reverse_cons]
  | value :: next :: others =>
    rw [elementTokens, List.append_assoc, readFrom_value value, List.cons_append]
    change readFrom (.value false) (.array (value :: done) :: stack) _ = _
    rw [readFrom_elements (next :: others) (List.cons_ne_nil _ _), reverse_cons_append]

theorem readFrom_members (members : List (Option String × Json)) (some_member : members ≠ [])
    (mayClose : Bool) (done : List (Option String × Json)) (stack : List Frame)
    (rest : List Token) :
    readFrom (.key done mayClose) stack (memberTokens members ++ .rightBrace :: rest) =
      readFrom (.complete (.object (done.reverse ++ members))) stack rest := by
  match members with
  | [] => exact (some_member rfl).elim
  | [(key, value)] =>
    rw [memberTokens, List.cons_append, List.cons_append]
    change readFrom (.value false) (.object done key :: stack) _ = _
    rw [readFrom_value value]
    change readFrom (.complete (.object ((key, value) :: done).reverse)) stack rest = _
    rw [List.reverse_cons]
  | (key, value) :: next :: others =>
    rw [memberTokens, List.cons_append, List.cons_append, List.append_assoc]
    change readFrom (.value false) (.object done key :: stack) _ = _
    rw [readFrom_value value, List.cons_append]
    change readFrom (.key ((key, value) :: done) false) stack _ = _
    rw [readFrom_members (next :: others) (List.cons_ne_nil _ _), reverse_cons_append]

end

def closedElement (value : Json) : List Token := value.tokens ++ [.comma]

def closedMember (member : Option String × Json) : List Token :=
  .text member.1 :: .colon :: (member.2.tokens ++ [.comma])

theorem elementTokens_concat (done : List Json) (value : Json) :
    elementTokens (done ++ [value]) = done.flatMap closedElement ++ value.tokens := by
  induction done with
  | nil => rfl
  | cons first done ih =>
    cases done with
    | nil => simp [elementTokens, closedElement]
    | cons next done =>
      rw [List.cons_append] at ih
      rw [List.cons_append, List.cons_append, elementTokens, ih, List.flatMap_cons (x := first),
        closedElement]
      simp only [List.append_assoc, List.cons_append, List.nil_append]

theorem memberTokens_concat (done : List (Option String × Json)) (key : Option String)
    (value : Json) :
    memberTokens (done ++ [(key, value)]) =
      done.flatMap closedMember ++ .text key :: .colon :: value.tokens := by
  induction done with
  | nil => rfl
  | cons first done ih =>
    obtain ⟨name, first⟩ := first
    cases done with
    | nil => simp [memberTokens, closedMember]
    | cons next done =>
      rw [List.cons_append] at ih
      rw [List.cons_append, List.cons_append, memberTokens, ih,
        List.flatMap_cons (x := (name, first)), closedMember]
      simp only [List.append_assoc, List.cons_append, List.nil_append]

/-- The tokens of an open container: those of what it holds, each closed by a comma. -/
def Frame.tokens : Frame → List Token
  | .array done => .leftBracket :: done.reverse.flatMap closedElement
  | .object done key => .leftBrace :: (done.reverse.flatMap closedMember ++ [.text key, .colon])

def Place.tokens : Place → List Token
  | .value _ => []
  | .key done _ => .leftBrace :: done.reverse.flatMap closedMember
  | .colon done name => .leftBrace :: (done.reverse.flatMap closedMember ++ [.text name])
  | .complete done => done.tokens

/-- All the tokens that were taken to come to a place, the outermost container first. -/
def taken (place : Place) (stack : List Frame) : List Token :=
  stack.reverse.flatMap Frame.tokens ++ place.tokens

/-- An object may be closed in place of a key only as long as it is empty. -/
def Place.Sound : Place → Prop
  | .key done true => done = []
  | _ => True

theorem taken_atValue {mayClose : Bool} {next : Place} {stack after : List Frame} {token : Token}
    (h : atValue mayClose stack token = some (next, after)) :
    taken next after = taken (.value mayClose) stack ++ [token] ∧ next.Sound := by
  unfold atValue at h
  split at h
  case h_7 =>
    -- An array that has just been opened is closed.
    split at h
    · cases h
      exact ⟨by simp [taken, Place.tokens, Frame.tokens, tokens, elementTokens], trivial⟩
    · cases h
  case h_6 =>
    cases h
    exact ⟨by simp [taken, Place.tokens], rfl⟩
  all_goals
    cases h
    try exact ⟨by simp [taken, Place.tokens, Frame.tokens, tokens], trivial⟩

theorem taken_atKey {done : List (Option String × Json)} {mayClose : Bool} {next : Place}
    {stack after : List Frame} {token : Token} (sound : (Place.key done mayClose).Sound)
    (h : atKey done mayClose stack token = some (next, after)) :
    taken next after = taken (.key done mayClose) stack ++ [token] ∧ next.Sound := by
  unfold atKey at h
  split at h
  · cases h
    exact ⟨by simp [taken, Place.tokens], trivial⟩
  · split at h
    · rename_i closes
      rw [closes] at sound
      cases (show done = [] from sound)
      cases h
      exact ⟨by simp [taken, Place.tokens, tokens, memberTokens], trivial⟩
    · cases h
  · cases h

theorem taken_atComplete {value : Json} {next : Place} {stack after : List Frame} {token : Token}
    (h : atComplete value stack token = some (next, after)) :
    taken next after = taken (.complete value) stack ++ [token] ∧ next.Sound := by
  unfold atComplete at h
  split at h
  · cases h
    exact ⟨by simp [taken, Place.tokens, Frame.tokens, closedElement], trivial⟩
  · cases h
    exact ⟨by simp [taken, Place.tokens, Frame.tokens, tokens, elementTokens_concat], trivial⟩
  · cases h
    exact ⟨by simp [taken, Place.tokens, Frame.tokens, closedMember], trivial⟩
  · cases h
    exact ⟨by simp [taken, Place.tokens, Frame.tokens, tokens, memberTokens_concat], trivial⟩
  · cases h

/-- One step takes one token. -/
theorem taken_advance {place next : Place} {stack after : List Frame} {token : Token}
    (sound : place.Sound) (h : advance place stack token = some (next, after)) :
    taken next after = taken place stack ++ [token] ∧ next.Sound := by
  cases place with
  | value mayClose => exact taken_atValue h
  | key done mayClose => exact taken_atKey sound h
  | colon done name =>
    cases token with
    | colon =>
      cases h
      exact ⟨by simp [taken, Place.tokens, Frame.tokens], trivial⟩
    | _ => cases h
  | complete value => exact taken_atComplete h

theorem taken_readFrom {place : Place} {stack : List Frame} {tokens : List Token} {value : Json}
    (sound : place.Sound) (h : readFrom place stack tokens = some value) :
    taken place stack ++ tokens = value.tokens := by
  induction tokens generalizing place stack with
  | nil =>
    unfold readFrom at h
    split at h
    · cases h
      exact List.append_nil _
    · cases h
  | cons token tokens ih =>
    unfold readFrom at h
    split at h
    · rename_i next after step
      obtain ⟨more, sound⟩ := taken_advance sound step
      rw [List.append_cons, ← more, ih sound h]
    · cases h

theorem ofTokens?_eq_some_iff {tokens : List Token} {value : Json} :
    ofTokens? tokens = some value ↔ tokens = value.tokens := by
  constructor
  · exact @taken_readFrom (.value false) [] tokens value trivial
  · rintro rfl
    have read := readFrom_value value false [] []
    rwa [List.append_nil] at read

theorem atComplete_number (value : Json) (stack : List Frame) (number : JsonNumber) :
    atComplete value stack (.number number) = none := by
  cases stack with
  | nil => rfl
  | cons frame stack => cases frame <;> rfl

theorem advance_number {place next : Place} {stack after : List Frame} {number : JsonNumber}
    (h : advance place stack (.number number) = some (next, after)) :
    next = .complete (.number number) := by
  cases place with
  | value => cases h; rfl
  | key | colon => cases h
  | complete value => exact nomatch (atComplete_number value stack number).symm.trans h

theorem isNumber_of_advance_complete {value : Json} {next : Place} {stack after : List Frame}
    {token : Token} (h : advance (.complete value) stack token = some (next, after)) :
    token.isNumber = false := by
  cases token with
  | number number => exact nomatch (atComplete_number value stack number).symm.trans h
  | _ => rfl

theorem apart_of_readFrom {place : Place} {stack : List Frame} {tokens : List Token} {value : Json}
    (h : readFrom place stack tokens = some value) : tokens.IsChain Apart := by
  induction tokens generalizing place stack with
  | nil => exact .nil
  | cons token tokens ih =>
    unfold readFrom at h
    split at h
    · rename_i next after step
      refine List.isChain_cons.mpr ⟨?_, ih h⟩
      intro other first number
      obtain ⟨rest, rfl⟩ := List.head?_eq_some_iff.mp first
      cases token with
      | number number =>
        cases advance_number step
        unfold readFrom at h
        split at h
        · rename_i step
          exact isNumber_of_advance_complete step
        · cases h
      | _ => cases number
    · cases h

theorem apart_tokens (value : Json) : value.tokens.IsChain Apart :=
  apart_of_readFrom (ofTokens?_eq_some_iff.mpr rfl)

/-- The reader accepts exactly the texts of values. -/
theorem read?_eq_some_iff {text : String} {value : Json} :
    read? text = some value ↔ Written value text := by
  constructor
  · intro h
    obtain ⟨tokens, cut, read⟩ := Option.bind_eq_some_iff.mp h
    cases ofTokens?_eq_some_iff.mp read
    exact spaced_of_tokens? cut
  · intro written
    have cut := tokens?_of_spaced written (apart_tokens value)
    exact Option.bind_eq_some_iff.mpr ⟨_, cut, ofTokens?_eq_some_iff.mpr rfl⟩

end RemoteQuery.Json
