import StateExplorer.Solution.Basic

/-!
# Alternatives

While alternatives are browsed, the solutions shown so far lie on a stack. At the bottom lies the
one that gave the provisional tail at first; every step forward puts the next one on top, and a
step back takes the top one off again. Once there is a solution the stack never runs empty by
stepping back.
-/

namespace StateExplorer

/-- Solutions that were shown, the one on show first. -/
structure Alternatives where
  shown : List Solution
deriving DecidableEq

namespace Alternatives

/-- No solution. -/
def empty : Alternatives := ⟨[]⟩

/-- How many solutions lie on the stack. -/
def depth (a : Alternatives) : Nat :=
  a.shown.length

/-- The solution on show. -/
def top? (a : Alternatives) : Option Solution :=
  a.shown.head?

/-- The solution that was shown before. -/
def previous? (a : Alternatives) : Option Solution :=
  a.shown.tail.head?

/-- One solution alone. -/
def only (solution : Solution) : Alternatives :=
  ⟨[solution]⟩

/-- Shows one more solution. -/
def push (a : Alternatives) (solution : Solution) : Alternatives :=
  ⟨solution :: a.shown⟩

/-- Goes back to the solution shown before, if there is one. -/
def pop? (a : Alternatives) : Option Alternatives :=
  match a.shown with
  | _ :: previous :: rest => some ⟨previous :: rest⟩
  | _ => none

end Alternatives

end StateExplorer
