import StateExplorer.Solution.Json
import StateExplorer.Solver.Basic
import StateExplorer.Text.Blank
import StateExplorer.Text.Utf8

/-!
# External solver programs

A query can be answered by a program. The text of the query is put into a scratch file, the
program is run with the path of that file as its last argument, and what it prints is read as a
document. A program that fails has refused the query, and says why on its error stream. What
programs there are and what they print is told by a `Host`.
-/

namespace StateExplorer

/-- A call of a program, with the file it may read. -/
structure ProgramCall where
  program : String
  arguments : List String
  path : String
  content : String

/-- Why a program cannot be started: there is none, its path leads through something that is no
directory or is too long, it may not be started, or a word of the call holds a character that ends
texts. -/
inductive StartFailure
  | missing
  | notDirectory
  | longName
  | forbidden
  | nulByte

/-- The message about a program that cannot be started. -/
def StartFailure.message : StartFailure → String
  | .missing => "No such file or directory (os error 2)"
  | .notDirectory => "Not a directory (os error 20)"
  | .longName => "File name too long (os error 36)"
  | .forbidden => "Permission denied (os error 13)"
  | .nulByte => "nul byte found in provided data"

/-- How a call ended: the program could not be started, or it ended with a status and printed
something. -/
inductive ProgramOutcome
  | notStarted (failure : StartFailure)
  | ended (succeeded : Bool) (output errors : List UInt8)

/-- A machine: which path a new file with a name in a directory has, if it can be made there, and how
programs behave. -/
structure Host where
  newPath? : (directory name : String) → Option String
  run : ProgramCall → ProgramOutcome

/-- A solver that calls a program. It counts the scratch files it has made. -/
structure ExternalSolver where
  host : Host
  program : String
  arguments : List String
  scratchDirectory : String
  scratchFiles : Nat

namespace ExternalSolver

/-- The directory for scratch files where nothing else is said. -/
def usualDirectory : String := "/tmp"

/-- The name of a scratch file. It has six characters of its own. -/
def scratchName (number : Nat) : String :=
  let digits := toString number
  "_tmp_" ++ "".pushn '0' (6 - digits.length) ++ digits ++ ".als"

/-- A query in a scratch file. -/
structure Scratch where
  path : String
  content : String

/-- Puts a query into a scratch file. -/
def compile (solver : ExternalSolver) (query : String) :
    Except SolverError Scratch × ExternalSolver :=
  match solver.host.newPath? solver.scratchDirectory (scratchName solver.scratchFiles) with
  | some path => (.ok ⟨path, query⟩, { solver with scratchFiles := solver.scratchFiles + 1 })
  | none => (.error .io, solver)

/-- What a call's outcome says about a query. -/
def readOutcome (program : String) : ProgramOutcome → Except SolverError Document
  | .notStarted failure =>
    .error (.solve ("failed to run " ++ program ++ ": " ++ failure.message))
  | .ended false _ errors =>
    .error (.compile (String.ofList (Text.trim (Text.decodeFrom none errors))))
  | .ended true output _ =>
    match Document.ofJson? (Text.decodeLenient output) with
    | some document => .ok document
    | none => .error (.solve "unreadable solver output")

/-- Runs the program on a scratch file. -/
def solve (solver : ExternalSolver) (scratch : Scratch) :
    Except SolverError Document × ExternalSolver :=
  (readOutcome solver.program
    (solver.host.run ⟨solver.program, solver.arguments, scratch.path, scratch.content⟩), solver)

end ExternalSolver

instance : Solver ExternalSolver where
  Compiled := ExternalSolver.Scratch
  compile := ExternalSolver.compile
  solve := ExternalSolver.solve

end StateExplorer
