import StateExplorer.Shell.Builtin.Basic
import StateExplorer.Shell.Reader.Command

/-!
# Builtin commands that tell what a name stands for

A name stands for a reserved word, an alias, a special command, a function, a builtin command or a
program, in this order.
-/

namespace StateExplorer.Shell.Builtin

open Run

/-- The names of the builtin commands that are not special. -/
def plainNames : List String :=
  ["[", "alias", "bg", "cd", "chdir", "command", "echo", "false", "fg", "getopts", "hash", "jobs",
    "kill", "printf", "pwd", "read", "test", "true", "type", "ulimit", "umask", "unalias", "wait"]

/-- The names of the builtin commands that are special. -/
def specialNames : List String := "local" :: specialBuiltins

/-- Prints what a name stands for, with words around it if `verbose` is set. -/
def describe (verbose : Bool) (name : String) : Run Nat := do
  let tell (short long : String) : Run Nat := do
    print ((if verbose then name ++ long else short) ++ "\n")
    return 0
  let s ← shell
  if keywords.contains name then tell name " is a shell keyword"
  else
    match s.aliases.lookup name with
    | some value => tell ("alias " ++ name ++ "=" ++ inQuotes value) (" is an alias for " ++ value)
    | none =>
      if specialNames.contains name then tell name " is a special shell builtin"
      else if s.functions.any (·.1 == name) then tell name " is a shell function"
      else if plainNames.contains name then tell name " is a shell builtin"
      else
        let isThere ← if name.toList.contains '/' then pure (← entryAt name).isSome else pure false
        if isThere then tell name (" is " ++ name)
        else
          match ← findProgram name with
          | .found path _ => tell path (" is " ++ path)
          | _ =>
            if verbose then print (name ++ ": not found\n")
            return 127

/-- Tells what names stand for. -/
def type_ (arguments : List String) : Run Nat := do
  let mut status := 0
  for name in arguments do
    let found ← describe true name
    if found != 0 then status := found
  return status

/-- Tells what a name would run. -/
def command (arguments : List String) : Run Nat := do
  let (given, words) ← options [('p', false), ('v', false), ('V', false)] arguments
  match given.reverse.find? (·.letter != 'p'), words with
  | some g, name :: _ => describe (g.letter == 'V') name
  | _, _ => return 0

/-- Looks programs up. -/
def hash (arguments : List String) : Run Nat := do
  let (_, names) ← options [('r', false), ('v', false)] arguments
  let mut status := 0
  for name in names do
    let isKnown := specialNames.contains name || plainNames.contains name ||
      (← shell).functions.any (·.1 == name)
    if !isKnown then
      match ← findProgram name with
      | .found .. => pure ()
      | _ =>
        warn (name ++ ": not found")
        status := 1
  return status

end StateExplorer.Shell.Builtin
