/-!
# The form of scripts

A word is a list of pieces that are put together when the script runs. A command is a call with
its redirections, or joins other commands. A text that is given in the lines below a command is
kept apart from it and named by a number.
-/

namespace StateExplorer.Shell

mutual

/-- A piece of a word. Quoted pieces are neither split nor matched against paths. The output of a
script stands for its text. -/
inductive Piece
  | literal (text : String) (quoted : Bool)
  | parameter (name : String) (use : Use) (quoted : Bool)
  | output (script : Script) (quoted : Bool)
  | arithmetic (expression : List Piece) (quoted : Bool)

/-- What a word asks of a parameter: its value, its size, its value or something else where it has
none, or its value without a part at one of its ends. Where `evenEmpty` is set, an empty value
counts as none. -/
inductive Use
  | value
  | size
  | fallback (evenEmpty : Bool) (word : List Piece)
  | assign (evenEmpty : Bool) (word : List Piece)
  | demand (evenEmpty : Bool) (word : List Piece)
  | instead (evenEmpty : Bool) (word : List Piece)
  | trim (fromStart longest : Bool) (pattern : List Piece)
  | unknown

/-- What a redirection puts behind a stream: a file, another stream, nothing, or a text. -/
inductive Target
  | read (path : List Piece)
  | write (clobbers : Bool) (path : List Piece)
  | append (path : List Piece)
  | readWrite (path : List Piece)
  | stream (number : Nat)
  | closed
  | computed (word : List Piece)
  | text (number : Nat)

/-- A stream and what is put behind it. -/
inductive Redirection
  | mk (stream : Nat) (target : Target)

/-- A command. The line is the one that messages name. -/
inductive Script
  | nothing
  | call (line : Nat) (assignments words : List (List Piece)) (redirections : List Redirection)
  | redirected (line : Nat) (body : Script) (redirections : List Redirection)
  | pipe (commands : List Script)
  | background (body : Script)
  | both (first second : Script)
  | either (first second : Script)
  | sequence (commands : List Script)
  | negated (body : Script)
  | subshell (line : Nat) (body : Script) (redirections : List Redirection)
  | branch (condition yes no : Script)
  | loop (endsOnSuccess : Bool) (condition body : Script)
  | each (line : Nat) (name : String) (items : List (List Piece)) (body : Script)
  | choice (line : Nat) (subject : List Piece) (cases : List (List (List Piece) × Script))
  | define (name : String) (body : Script)

end

/-- A word of a script. -/
abbrev Word := List Piece

instance : Inhabited Piece := ⟨.literal "" false⟩
instance : Inhabited Script := ⟨.nothing⟩

/-- A line of a script with the texts that are given below it, by their numbers. -/
structure Line where
  script : Script
  texts : List (Nat × Word)

/-- The characters of a word in which nothing is quoted and nothing is put in. -/
def plain? : Word → Option String
  | [.literal text false] => some text
  | _ => none

/-- The characters of a word, quoted or not, in which nothing is put in. -/
def constant? (word : Word) : Option String :=
  (word.mapM fun piece : Piece =>
    match piece with
    | .literal text _ => some text
    | _ => none).map String.join

/-- A character that may begin a name. -/
def beginsName (c : Char) : Bool := c.isAlpha || c == '_'

/-- A character that a name may go on with. -/
def isNameChar (c : Char) : Bool := c.isAlphanum || c == '_'

/-- Whether a text is a name. -/
def isName (text : String) : Bool :=
  match text.toList with
  | c :: rest => beginsName c && rest.all isNameChar
  | [] => false

/-- The name and the rest of a text that assigns. -/
def splitAssignment? (text : String) : Option (String × String) :=
  let (name, rest) := text.toList.span isNameChar
  match rest with
  | '=' :: value =>
    if isName (String.ofList name) then some (String.ofList name, String.ofList value) else none
  | _ => none

/-- The name that a word gives a value, and the word for that value. -/
def assignment? : Word → Option (String × Word)
  | .literal text false :: rest => (splitAssignment? text).map fun (name, value) =>
    (name, if value.isEmpty then rest else .literal value false :: rest)
  | _ => none

end StateExplorer.Shell
