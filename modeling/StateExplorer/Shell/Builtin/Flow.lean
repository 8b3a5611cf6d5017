import StateExplorer.Shell.Builtin.Basic

/-!
# Builtin commands that leave or start scripts

Leaving a loop, a function or a shell is thrown and caught where the part that is left was started. A
text or a file can be run as a part of the script at work.
-/

namespace StateExplorer.Shell.Builtin

open Run

/-- Leaves loops, or goes on with their next turn; outside of loops it does nothing. -/
def leaveLoop (leave : Nat → Leave) (arguments : List String) : Run Nat := do
  let n ← match arguments with
    | text :: _ => do
      let n ← number text
      if n == 0 then fail ("Illegal number: " ++ text)
      pure n
    | [] => pure 1
  let loops := (← shell).loops
  if loops == 0 then return 0
  else
    setStatus 0
    throw (leave (min n loops))

/-- Ends the function or the file at work. -/
def return_ (arguments : List String) : Run Nat := do
  match arguments with
  | text :: _ =>
    let n ← number text
    throw (.returns (some n))
  | [] => throw (.returns none)

/-- Ends the shell. -/
def exit (arguments : List String) : Run Nat := do
  match arguments with
  | text :: _ =>
    let n ← number text
    throw (.exit (some n))
  | [] => throw (.exit none)

/-- Runs its arguments as a script. -/
def eval (evaluator : Evaluator) (tested : Bool) (arguments : List String) : Run Nat := do
  if !arguments.isEmpty then
    evaluator.text tested (" ".intercalate arguments)
    return (← shell).status
  else return 0

/-- The file that a name means: a path, or a name in the directories for programs. -/
def sourcePath (name : String) : Run String := do
  if name.toList.contains '/' then return name
  else
    let directories := Bytes.split ':' ((← value? "PATH").getD "")
    let paths := directories.map fun d => if d.isEmpty then name else d ++ "/" ++ name
    let isFile (path : String) : Run Bool := do
      match ← entryAt path with
      | some (.file ..) => return true
      | _ => return false
    match ← paths.filterM isFile with
    | path :: _ => return path
    | [] => fail (name ++ ": not found")

/-- Runs a file in this shell. -/
def dot (evaluator : Evaluator) (arguments : List String) : Run Nat := do
  match ← operands arguments with
  | [] => return (← shell).status
  | name :: _ =>
    let path ← sourcePath name
    match ← entryAt path with
    | some .directory => return 0
    | _ =>
      match ← fileText? path with
      | none => cannotOpen path
      | some text =>
        change fun s => { s with builtin := some path }
        match ← attempt (evaluator.text false text) with
        | some (.returns status) =>
          match status with
          | some status => return status
          | none => return (← shell).status
        | some leave => throw leave
        | none => return (← shell).status

end StateExplorer.Shell.Builtin
