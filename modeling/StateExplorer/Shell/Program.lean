import StateExplorer.Shell.World

/-!
# Finding programs

A name with a slash is the path of a program. Other names are looked for in the directories that a
shell is told to search.
-/

namespace StateExplorer.Shell

open Run

/-- What can be started: a program of the machine, or a file that holds a script. -/
inductive Program
  | known (name : String)
  | script (path text : String)

/-- What a name leads to: a program and the path to it, something that may not be started, or
nothing. -/
inductive Lookup
  | found (path : String) (program : Program)
  | forbidden
  | missing

/-- What a path leads to as a program. -/
def programAt (path : String) : Run Lookup := do
  match ← entryAt path with
  | some (.program name) => return .found path (.known name)
  | some (.file store mode) =>
    if mode &&& 0o111 == 0 then return .forbidden
    else return .found path (.script path (((← get).stores[store]?).getD ""))
  | some _ => return .forbidden
  | none => return .missing

/-- The program of a name in the first of some directories that has one. -/
def programIn (name : String) : (failure : Lookup) → List String → Run Lookup
  | failure, [] => return failure
  | failure, directory :: rest => do
    match ← programAt (if directory.isEmpty then name else directory ++ "/" ++ name) with
    | .found path program => return .found path program
    | .forbidden => programIn name .forbidden rest
    | .missing => programIn name failure rest

/-- Searches for the program of a name. -/
def findProgram (name : String) : Run Lookup := do
  if name.toList.contains '/' then programAt name
  else programIn name .missing (Bytes.split ':' ((← value? "PATH").getD ""))

/-- Why there is no program of a name: only a name with a slash is a path. -/
def programAbsence (name : String) : Run Absence :=
  if name.toList.contains '/' then absence name
  else return if Path.mostInName < name.length then .longName else .missing

end StateExplorer.Shell
