import Mathlib.Data.List.Basic
import Mathlib.Order.Nat

/-!
# Picking the first elements of a list

The first elements of a list that a predicate accepts are changed in their places, up to a limit. A
change that takes an element out of the predicate is a pick: one pick after another goes on where
the first has stopped.
-/

namespace Picking

variable {α : Type*}

/-- Changes the first `n` elements that the predicate accepts. -/
def pick (p : α → Bool) (f : α → α) : ℕ → List α → List α
  | _, [] => []
  | 0, l => l
  | n + 1, a :: l => if p a then f a :: pick p f n l else a :: pick p f (n + 1) l

variable {p : α → Bool} {f : α → α}

end Picking
