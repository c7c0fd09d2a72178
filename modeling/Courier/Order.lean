/-!
# Order

Sorting that keeps the order of equal elements.
-/

namespace Courier

/-- Puts `a` in front of the first element that it may stand before. -/
def insertBy {α : Type} (le : α → α → Bool) (a : α) : List α → List α
  | [] => [a]
  | b :: rest => if le a b then a :: b :: rest else b :: insertBy le a rest

/-- The elements in the order of `le`, equal ones as they stood. -/
def sortBy {α : Type} (le : α → α → Bool) : List α → List α
  | [] => []
  | a :: rest => insertBy le a (sortBy le rest)

end Courier
