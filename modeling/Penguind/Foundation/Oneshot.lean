import Mathlib.Tactic.Common

/-!
# Channels for one value

A channel with two ends through which one value goes at most once. Either end may be dropped.
-/

namespace Penguind.Foundation

universe u

inductive Oneshot (α : Type u)
  | empty
  | sent (a : α)
  /-- The sending end is gone and nothing was sent. -/
  | dropped
  /-- The receiving end is gone. -/
  | closed
  deriving DecidableEq, Repr

namespace Oneshot

variable {α : Type u} {c : Oneshot α} {a b : α}

def dropSender : Oneshot α → Oneshot α
  | .empty => .dropped
  | .sent a => .sent a
  | .dropped => .dropped
  | .closed => .closed

/-- Where the channel cannot take it, it is lost. -/
def send (a : α) : Oneshot α → Oneshot α
  | .empty => .sent a
  | .sent b => .sent b
  | .dropped => .dropped
  | .closed => .closed

theorem sent_of_send (h : c.send a = .sent b) : b = a ∨ c = .sent b := by
  cases c with
  | empty =>
    cases h
    exact .inl rfl
  | sent b' => exact .inr h
  | dropped => cases h
  | closed => cases h

theorem sent_of_dropSender (h : c.dropSender = .sent b) : c = .sent b := by
  cases c with
  | empty => cases h
  | sent b' => exact h
  | dropped => cases h
  | closed => cases h

end Oneshot

end Penguind.Foundation
