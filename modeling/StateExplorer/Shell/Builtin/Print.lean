import StateExplorer.Shell.Builtin.Basic
import StateExplorer.Shell.Printing

/-!
# Builtin commands that print

Words are printed as they are or by a format, and both read escapes. A failure of the output stream is
told of.
-/

namespace StateExplorer.Shell.Builtin

open Run

/-- How builtin commands print. -/
def printStyle : PrintStyle where
  hexEscapes := false
  notANumber text := text ++ ": expected numeric value"
  notWhole text := text ++ ": not completely converted"
  tooLarge text := text ++ ": Numerical result out of range"
  unknownDirective text := text ++ ": invalid directive"
  missingCharacter _ := "missing format character"

/-- Prints text at once; a failure to do so is told. -/
def put (name text : String) (status : Nat) : Run Nat := do
  if ← write 1 text then return status
  else
    warn (name ++ ": I/O error")
    return 1

/-- Prints its arguments with blanks between them. -/
def echo (arguments : List String) : Run Nat := do
  let (ended, words) := match arguments with
    | "-n" :: words => (false, words)
    | words => (true, words)
  let (text, cut) := withoutEscapes printStyle (" ".intercalate words).toList
  put "echo" (String.ofList text ++ if ended && !cut then "\n" else "") 0

/-- Prints its arguments by a format. -/
def printf (arguments : List String) : Run Nat := do
  match ← operands arguments with
  | [] => fail "usage: printf format [arg ...]"
  | format :: arguments =>
    let printed := printFormat printStyle 53 format arguments
    for complaint in printed.complaints.reverse do
      warn complaint
    match printed.failure with
    | some message =>
      print printed.text
      fail message
    | none => put "printf" printed.text (if printed.complaints.isEmpty then 0 else 1)

end StateExplorer.Shell.Builtin
