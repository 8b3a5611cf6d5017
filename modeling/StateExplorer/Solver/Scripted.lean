import StateExplorer.Solver.Basic

/-!
# Scripted and logged solvers

A scripted solver plays back prepared answers, whatever it is asked. A logged solver keeps a
record of what another solver is asked. Both are for watching how a session uses its solver.
-/

namespace StateExplorer

/-- A prepared answer: a document, or a failure when compiling or when solving. -/
inductive Scripted.Entry
  | answer (document : Document)
  | refuse (error : SolverError)
  | fail (error : SolverError)
deriving DecidableEq

/-- Answers that are still to be given. -/
structure Scripted where
  entries : List Scripted.Entry
deriving DecidableEq

namespace Scripted

/-- Compiling uses up an entry only if that entry refuses to compile. -/
def compile (script : Scripted) : Except SolverError Unit × Scripted :=
  match script.entries with
  | .refuse e :: rest => (.error e, ⟨rest⟩)
  | _ => (.ok (), script)

/-- Solving uses up an entry. -/
def solve (script : Scripted) : Except SolverError Document × Scripted :=
  match script.entries with
  | [] => (.error (.solve "script exhausted"), script)
  | .answer document :: rest => (.ok document, ⟨rest⟩)
  | .refuse e :: rest => (.error e, ⟨rest⟩)
  | .fail e :: rest => (.error e, ⟨rest⟩)

end Scripted

instance : Solver Scripted where
  Compiled := Unit
  compile script _ := script.compile
  solve script _ := script.solve

/-- A solver with a record of the queries it was asked to compile, last one first, and of how often
it was asked to compile and to solve. -/
structure Logged (σ : Type) where
  solver : σ
  queries : List String
  compiles : Nat
  solves : Nat

namespace Logged

variable {σ : Type}

/-- A solver with an empty record. -/
def start (solver : σ) : Logged σ := ⟨solver, [], 0, 0⟩

/-- Compiles and records the query. -/
def compile [Solver σ] (logged : Logged σ) (query : String) :
    Except SolverError (Solver.Compiled σ) × Logged σ :=
  let (result, solver) := Solver.compile logged.solver query
  (result, ⟨solver, query :: logged.queries, logged.compiles + 1, logged.solves⟩)

/-- Solves and records that it did. -/
def solve [Solver σ] (logged : Logged σ) (compiled : Solver.Compiled σ) :
    Except SolverError Document × Logged σ :=
  let (result, solver) := Solver.solve logged.solver compiled
  (result, ⟨solver, logged.queries, logged.compiles, logged.solves + 1⟩)

end Logged

instance {σ : Type} [Solver σ] : Solver (Logged σ) where
  Compiled := Solver.Compiled σ
  compile := Logged.compile
  solve := Logged.solve

end StateExplorer
