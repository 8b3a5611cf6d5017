import StateExplorer.Model.Basic
import StateExplorer.Solution.Scopes
import StateExplorer.System.Search

/-!
# Solving over a transition system

This solver knows a whole transition system. It compiles the text of a query into a problem and
answers with the chains that solve it, at most so many as it was told to look for.
-/

namespace StateExplorer

/-- A solver over a well-formed transition system. -/
structure ExplicitSolver where
  system : TransitionSystem
  vocabulary : Vocabulary
  cap : Nat
  wellFormed : system.faults = []

namespace ExplicitSolver

/-- How many chains a query is answered with at most, where nothing else is said. -/
def usualCap : Nat := 64

/-- The solver over a system, or the system's first fault. -/
def ofSystem (system : TransitionSystem) (vocabulary : Vocabulary) :
    Except SystemFault ExplicitSolver :=
  match h : system.faults with
  | [] => .ok ⟨system, vocabulary, usualCap, h⟩
  | fault :: _ => .error fault

/-- The solver with another limit for the number of chains, which is at least one. -/
def withCap (solver : ExplicitSolver) (cap : Nat) : ExplicitSolver :=
  { solver with cap := max cap 1 }

/-- The signatures with the extra atoms of one signature added. -/
def addExtra (sigs : NameMap (List String)) (sig : String) (count : Nat) :
    NameMap (List String) :=
  let names := (List.range count).map (Model.extraAtom sig)
  let mark (name : String) : String := name ++ String.ofList Tuple.atomMark
  (names.foldl (fun sigs name => sigs.insert name [mark name]) sigs).insert sig (names.map mark)

/-- The signatures with all extra atoms and the universe added. -/
def addSigs (extra : NameMap Nat) (sigs : NameMap (List String)) : NameMap (List String) :=
  let all := extra.entries.foldl (fun sigs (sig, count) => addExtra sigs sig count) sigs
  all.insert Solution.univ (valueSet all.values.flatten)

/-- A chain as an instance. -/
def instanceOf (solver : ExplicitSolver) (chain : List View) : Instance :=
  let found := Instance.ofChain solver.vocabulary.stateSig solver.system.fields
    (chain.map State.ofFields)
  { found with sigs := addSigs solver.vocabulary.extraAtoms found.sigs }

/-- The problem that a query poses. -/
def read (solver : ExplicitSolver) (text : String) : Except ReadError Problem :=
  Problem.read solver.system.fields solver.vocabulary text

/-- The chains that answer a problem. -/
def chains (solver : ExplicitSolver) (problem : Problem) : List (List View) :=
  problem.chains solver.system solver.vocabulary.transitionField solver.cap

/-- The answer to a problem. -/
def answer (solver : ExplicitSolver) (problem : Problem) : Document where
  stateSig := solver.vocabulary.stateSig
  fields := solver.system.fields
  instances := (solver.chains problem).map solver.instanceOf

end ExplicitSolver

instance : Solver ExplicitSolver where
  Compiled := Problem
  compile solver text := ((solver.read text).mapError ReadError.toSolverError, solver)
  solve solver problem := (.ok (solver.answer problem), solver)

end StateExplorer
