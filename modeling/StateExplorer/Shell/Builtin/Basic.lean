import StateExplorer.Shell.Expansion

/-!
# What builtin commands share

Options come first among the arguments, each a letter after a dash; a letter may ask for a value.
Integers are texts of digits.
-/

namespace StateExplorer.Shell

open Run

/-- A builtin command: what it does with its arguments, with the status that it ends with. A special
one ends a script where it fails, and its assignments stay. An assigning one takes words that give
names values. -/
structure Builtin where
  special : Bool
  assigning : Bool
  run : Evaluator → (tested : Bool) → List String → Run Nat

namespace Builtin

/-- An option among arguments, with its value if it asks for one. -/
structure Given where
  letter : Char
  value : String

/-- The options in the letters of one argument, and the arguments that are left after them.
`letters` tells for each letter whether it asks for a value. -/
def givenLetters (letters : List (Char × Bool)) : List Char → List String →
    Run (List Given × List String)
  | [], rest => return ([], rest)
  | c :: more, rest => do
    match letters.lookup c with
    | none => fail ("Illegal option -" ++ String.singleton c)
    | some false =>
      let (given, rest) ← givenLetters letters more rest
      return (⟨c, ""⟩ :: given, rest)
    | some true =>
      match more, rest with
      | [], [] => fail ("No arg for -" ++ String.singleton c ++ " option")
      | [], value :: rest => return ([⟨c, value⟩], rest)
      | more, rest => return ([⟨c, String.ofList more⟩], rest)

/-- The options among arguments, at most so many arguments of them, and what is left. -/
def givenOptions (letters : List (Char × Bool)) : (more : Nat) → List String →
    Run (List Given × List String)
  | 0, arguments => return ([], arguments)
  | more + 1, arguments => do
    match arguments with
    | "--" :: rest => return ([], rest)
    | argument :: rest =>
      match argument.toList with
      | '-' :: c :: others =>
        let (given, rest) ← givenLetters letters (c :: others) rest
        let (givenLater, rest) ← givenOptions letters more rest
        return (given ++ givenLater, rest)
      | _ => return ([], arguments)
    | [] => return ([], [])

/-- The options among arguments, and what is left. -/
def options (letters : List (Char × Bool)) (arguments : List String) :
    Run (List Given × List String) :=
  givenOptions letters (arguments.length + 1) arguments

/-- What is left of arguments that have no options. -/
def operands (arguments : List String) : Run (List String) :=
  return (← options [] arguments).2

/-- The number that a text of digits is; other texts are refused. -/
def number (text : String) : Run Nat := do
  match Bytes.nat? text with
  | some n => if n < 0x80000000 then return n else fail ("Illegal number: " ++ text)
  | none => fail ("Illegal number: " ++ text)

/-- A text in quotes, so that a shell reads it as one word. -/
def inQuotes (text : String) : String :=
  let step (c : Char) (acc : List (Bool × List Char)) : List (Bool × List Char) :=
    match acc with
    | (isMark, cs) :: rest =>
      if isMark == (c == '\'') then (isMark, c :: cs) :: rest else (c == '\'', [c]) :: acc
    | [] => [(c == '\'', [c])]
  match text.toList.foldr step [] with
  | [] => "''"
  | parts =>
    let parts := if (parts.head?.map Prod.fst) == some true then (false, []) :: parts else parts
    String.join (parts.map fun (isMark, cs) =>
      if isMark then "\"" ++ String.ofList cs ++ "\"" else "'" ++ String.ofList cs ++ "'")

/-- The name at the front of a text, and whether the text goes on with a value. -/
def splitName (text : String) : String × Option String :=
  match splitAssignment? text with
  | some (name, value) => (name, some value)
  | none => (text, none)

/-- The part of a text that ought to be a name. -/
def wouldBeName (text : String) : String :=
  String.ofList (text.toList.takeWhile (· != '='))

/-- Fails where a text is no name, nor one with a value. -/
def checkName (text : String) : Run Unit := do
  if !isName (wouldBeName text) then fail (wouldBeName text ++ ": bad variable name")

end Builtin

end StateExplorer.Shell
