/-!
# Interrupt signals

A signal is fired once and stays fired. It is given by the instant from which it counts as fired, in
milliseconds of the clock; a signal that nobody fires has none. A firing that is still to come can
be called off.
-/
namespace RemoteQuery

structure Signal where
  firesAt : Option Nat := none
  deriving DecidableEq, Repr

namespace Signal

def unfired : Signal := {}

def firedBy (signal : Signal) (instant : Nat) : Bool :=
  match signal.firesAt with
  | some firing => firing ≤ instant
  | none => false

/-- The signal is fired at an instant, if it is not fired before. -/
def fireAt (signal : Signal) (instant : Nat) : Signal :=
  match signal.firesAt with
  | some firing => ⟨some (min firing instant)⟩
  | none => ⟨some instant⟩

/-- A firing that is still to come is called off. -/
def disarm (signal : Signal) (now : Nat) : Signal :=
  if signal.firedBy now then signal else unfired

theorem firedBy_fireAt {signal : Signal} {instant later : Nat} :
    (signal.fireAt instant).firedBy later = true ↔
      signal.firedBy later = true ∨ instant ≤ later := by
  cases h : signal.firesAt with
  | none => simp [fireAt, firedBy, h]
  | some firing =>
    simp only [fireAt, firedBy, h, decide_eq_true_eq]
    omega

theorem firedBy_mono {signal : Signal} {instant later : Nat} (h : instant ≤ later)
    (fired : signal.firedBy instant = true) : signal.firedBy later = true := by
  cases hs : signal.firesAt with
  | none => simp [firedBy, hs] at fired
  | some firing =>
    simp only [firedBy, hs, decide_eq_true_eq] at fired ⊢
    omega

end Signal

end RemoteQuery
