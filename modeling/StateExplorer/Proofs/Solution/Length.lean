import StateExplorer.Proofs.Solution.Tuples
import StateExplorer.Proofs.System.Enumeration

/-!
# How long the chains of a document are

A chain that is decoded has as many states as its instance says, and a document that answers a
problem over a transition system says the same for all its instances: one state more than the
problem has transitions.
-/

namespace StateExplorer

/-- Whether all instances of a document have chains of so many states. -/
def Document.Uniform (document : Document) (count : Nat) : Prop :=
  ∀ i ∈ document.instances, i.stateCount = count

/-- A decoded chain of a uniform document has the length of all of them. -/
theorem Solution.length_of_chain {s : Solution} {sig : String} {schema : Schema}
    {chain : List State} {count : Nat} (hcount : s.document.Uniform count)
    (h : s.chain sig = .ok (schema, chain)) : chain.length = count := by
  obtain ⟨-, -, i, hi, hlength, -⟩ := of_chain_eq_ok h
  rw [hlength, hcount i (List.mem_of_getElem? hi)]

/-- A chain that solves a problem has one state more than the problem has transitions. -/
theorem Problem.length_of_mem_chains {problem : Problem} {system : TransitionSystem}
    {transitionField : String} {cap : Nat} {views : List View}
    (h : views ∈ problem.chains system transitionField cap) :
    views.length = problem.bound + 1 := by
  rw [chains_eq_take] at h
  obtain ⟨leg, -, hsolution⟩ := List.mem_flatMap.1 (List.mem_of_mem_take h)
  obtain ⟨legs, hlegs, rfl⟩ := List.mem_map.1 hsolution
  have hlength := TransitionSystem.length_of_mem_runs (List.mem_filter.1 hlegs).1
  simp [hlength]

/-- The answer to a problem has chains of one length. -/
theorem ExplicitSolver.uniform_answer (solver : ExplicitSolver) (problem : Problem) :
    (solver.answer problem).Uniform (problem.bound + 1) := by
  intro i hi
  obtain ⟨views, hviews, rfl⟩ := List.mem_map.1 hi
  have hlength := Problem.length_of_mem_chains hviews
  simpa [instanceOf, Instance.ofChain] using hlength

end StateExplorer
