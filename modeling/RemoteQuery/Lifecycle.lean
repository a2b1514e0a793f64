import RemoteQuery.Text.Blank
import RemoteQuery.Text.Casing

/-!
# Lifecycle of a submitted query

The service reports one of five words. Three of them are terminal: a query that has reached one of
them does not leave it. Words are read without regard to case and to the blanks around them.
-/
namespace RemoteQuery

inductive Lifecycle
  | queued
  | running
  | succeeded
  | failed
  | cancelled
  deriving DecidableEq, Repr

namespace Lifecycle

def all : List Lifecycle := [queued, running, succeeded, failed, cancelled]

def word : Lifecycle → String
  | queued => "QUEUED"
  | running => "RUNNING"
  | succeeded => "SUCCEEDED"
  | failed => "FAILED"
  | cancelled => "CANCELLED"

def isTerminal : Lifecycle → Bool
  | queued | running => false
  | succeeded | failed | cancelled => true

/-- The upper-case form of the text without its outer blanks. A character whose upper-case form has
no ASCII letter is kept, since no word holds one. -/
def spelling (text : String) : List Char := (Text.trim text.toList).flatMap Text.upperAscii

def read? (text : String) : Option Lifecycle :=
  all.find? fun state => spelling text == state.word.toList

theorem read?_eq_some_iff {text : String} {state : Lifecycle} :
    read? text = some state ↔ spelling text = state.word.toList := by
  constructor
  · intro h
    simpa using List.find?_some h
  · intro h
    unfold read?
    rw [h]
    cases state <;> decide

end Lifecycle

end RemoteQuery
