import RemoteQuery.Json.Token

/-!
# Reading JSON

The reader goes through the tokens once and keeps the containers that are still open on a stack of
its own, so that values may be nested to any depth. It accepts exactly one value.
-/
namespace RemoteQuery.Json

/-- A container that is still open, with what it holds so far, nearest first. -/
inductive Frame
  | array (done : List Json)
  | object (done : List (Option String × Json)) (key : Option String)

/-- What the reader has just seen, and so what may come next. -/
inductive Place
  /-- A value must come; in an array that has just been opened it may be closed instead. -/
  | value (mayClose : Bool)
  /-- A key must come; in an object that has just been opened it may be closed instead. -/
  | key (done : List (Option String × Json)) (mayClose : Bool)
  | colon (done : List (Option String × Json)) (key : Option String)
  /-- A value is complete. -/
  | complete (value : Json)

def atValue (mayClose : Bool) (stack : List Frame) : Token → Option (Place × List Frame)
  | .null => some (.complete .null, stack)
  | .boolean b => some (.complete (.boolean b), stack)
  | .number n => some (.complete (.number n), stack)
  | .text t => some (.complete (.string t), stack)
  | .leftBracket => some (.value true, .array [] :: stack)
  | .leftBrace => some (.key [] true, stack)
  | .rightBracket =>
    match mayClose, stack with
    | true, .array [] :: stack => some (.complete (.array []), stack)
    | _, _ => none
  | _ => none

def atKey (done : List (Option String × Json)) (mayClose : Bool) (stack : List Frame) :
    Token → Option (Place × List Frame)
  | .text key => some (.colon done key, stack)
  | .rightBrace => if mayClose then some (.complete (.object done.reverse), stack) else none
  | _ => none

def atComplete (value : Json) (stack : List Frame) (token : Token) : Option (Place × List Frame) :=
  match stack, token with
  | .array done :: stack, .comma => some (.value false, .array (value :: done) :: stack)
  | .array done :: stack, .rightBracket => some (.complete (.array (value :: done).reverse), stack)
  | .object done key :: stack, .comma => some (.key ((key, value) :: done) false, stack)
  | .object done key :: stack, .rightBrace =>
    some (.complete (.object ((key, value) :: done).reverse), stack)
  | _, _ => none

def advance (place : Place) (stack : List Frame) (token : Token) : Option (Place × List Frame) :=
  match place with
  | .value mayClose => atValue mayClose stack token
  | .key done mayClose => atKey done mayClose stack token
  | .colon done key =>
    match token with
    | .colon => some (.value false, .object done key :: stack)
    | _ => none
  | .complete value => atComplete value stack token

def readFrom (place : Place) (stack : List Frame) : List Token → Option Json
  | [] =>
    match place, stack with
    | .complete value, [] => some value
    | _, _ => none
  | token :: tokens =>
    match advance place stack token with
    | some (place, stack) => readFrom place stack tokens
    | none => none

def ofTokens? (tokens : List Token) : Option Json := readFrom (.value false) [] tokens

def read? (text : String) : Option Json := (tokens? text.toList).bind ofTokens?

end RemoteQuery.Json
