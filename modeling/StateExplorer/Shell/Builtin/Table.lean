import StateExplorer.Shell.Builtin.Flow
import StateExplorer.Shell.Builtin.Kinds
import StateExplorer.Shell.Builtin.Names
import StateExplorer.Shell.Builtin.Place
import StateExplorer.Shell.Builtin.Print
import StateExplorer.Shell.Builtin.Process
import StateExplorer.Shell.Builtin.Test

/-!
# The builtin commands

The commands are listed with their names. Some are special: their failures end a script, and what is
assigned in front of them stays.
-/

namespace StateExplorer.Shell

namespace Builtin

/-- A plain builtin command. -/
def plain (run : List String → Run Nat) : Builtin := ⟨false, false, fun _ _ => run⟩

/-- A special builtin command. -/
def ofSpecial (run : List String → Run Nat) : Builtin := ⟨true, false, fun _ _ => run⟩

/-- A special builtin command that gives names values. -/
def ofAssigning (run : List String → Run Nat) : Builtin := ⟨true, true, fun _ _ => run⟩

/-- A command that does nothing but to end with a status. -/
def constant (status : Nat) (_arguments : List String) : Run Nat := return status

end Builtin

open Builtin

/-- The builtin command of a name. -/
def builtin? (name : String) : Option Builtin :=
  match name with
  | "." => some ⟨true, false, fun evaluator _ => dot evaluator⟩
  | ":" => some (ofSpecial (constant 0))
  | "[" => some (plain (test true))
  | "alias" => some ⟨false, true, fun _ _ => alias_⟩
  | "bg" | "fg" => some (plain resume)
  | "break" => some (ofSpecial (leaveLoop .breaks))
  | "cd" | "chdir" => some (plain cd)
  | "command" => some (plain command)
  | "continue" => some (ofSpecial (leaveLoop .continues))
  | "echo" => some (plain echo)
  | "eval" => some ⟨true, false, eval⟩
  | "exec" => some (ofSpecial (constant 0))
  | "exit" => some (ofSpecial Builtin.exit)
  | "export" => some (ofAssigning export_)
  | "false" => some (plain (constant 1))
  | "getopts" => some (plain getOptions)
  | "hash" => some (plain hash)
  | "jobs" => some (plain jobs)
  | "kill" => some (plain kill)
  | "local" => some (ofAssigning local_)
  | "printf" => some (plain printf)
  | "pwd" => some (plain pwd)
  | "read" => some (plain Builtin.read)
  | "readonly" => some (ofAssigning readOnly)
  | "return" => some (ofSpecial return_)
  | "set" => some (ofSpecial Builtin.set)
  | "shift" => some (ofSpecial shift)
  | "test" => some (plain (test false))
  | "times" => some (ofSpecial times)
  | "trap" => some (ofSpecial trap)
  | "true" => some (plain (constant 0))
  | "type" => some (plain type_)
  | "ulimit" => some (plain ulimit)
  | "umask" => some (plain umask)
  | "unalias" => some (plain unalias)
  | "unset" => some (ofSpecial unset)
  | "wait" => some ⟨false, false, fun evaluator _ => wait evaluator⟩
  | _ => none

end StateExplorer.Shell
