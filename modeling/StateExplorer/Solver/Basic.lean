import StateExplorer.Model.Predicate
import StateExplorer.Solution.Basic

/-!
# Solvers

A solver takes the text of a query, compiles it, and answers with a document of solutions. It may
change with every call, also with one that fails, so each call gives the solver back.
-/

namespace StateExplorer

/-- Why a model, a query or a document was refused. A document or vocabulary in which not even
the notation is right is `unreadable`, and nothing more is said about it. -/
inductive SolverError
  | io
  | compile (reason : String)
  | solve (reason : String)
  | noMoreAlternatives
  | internalDecode (reason : String)
  | missingPredicate (name : String)
  | unbalancedBlock (name : String)
  | config (reason : String)
  | format (reason : String)
  | unreadableConfig
  | unreadableDocument
deriving DecidableEq

namespace SolverError

/-- The wording of an error, where there is one. -/
def message? : SolverError → Option String
  | .io => none
  | .compile reason => some ("compile error: " ++ reason)
  | .solve reason => some ("solver failure: " ++ reason)
  | .noMoreAlternatives => some "no more alternative solutions"
  | .internalDecode reason => some ("internal decode error: " ++ reason)
  | .missingPredicate name => some (Predicate.LocateError.missing name).message
  | .unbalancedBlock name => some (Predicate.LocateError.unbalanced name).message
  | .config reason => some ("invalid configuration: " ++ reason)
  | .format reason => some ("invalid solution document: " ++ reason)
  | .unreadableConfig => none
  | .unreadableDocument => none

/-- A predicate that cannot be cut out, as a solver's error. -/
def ofLocate : Predicate.LocateError → SolverError
  | .missing name => .missingPredicate name
  | .unbalanced name => .unbalancedBlock name

/-- A solution that cannot be read, as a solver's error. -/
def ofDecode (e : DecodeError) : SolverError :=
  .internalDecode e.message

end SolverError

/-- A way to answer queries. -/
class Solver (σ : Type) where
  /-- What a query becomes before it is answered. -/
  Compiled : Type
  /-- Compiles the text of a query. -/
  compile : σ → String → Except SolverError Compiled × σ
  /-- Answers a compiled query. -/
  solve : σ → Compiled → Except SolverError Document × σ

/-- Compiles a query and answers it. -/
def Solver.run {σ : Type} [Solver σ] (solver : σ) (text : String) :
    Except SolverError Document × σ :=
  match Solver.compile solver text with
  | (.ok compiled, solver) => Solver.solve solver compiled
  | (.error e, solver) => (.error e, solver)

end StateExplorer
