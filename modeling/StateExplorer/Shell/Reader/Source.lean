import StateExplorer.Shell.Syntax
import StateExplorer.Text.Decimal

/-!
# Sources of scripts

A reader takes characters from a source and counts the lines it leaves behind. A line feed after a
backslash joins two lines. One token may be looked at before it is taken. Texts that are promised
by a redirection are read where the line of their redirection ends.
-/

namespace StateExplorer.Shell

/-- Why a script cannot be read, and on which line that shows. -/
structure Fault where
  line : Nat
  message : String

/-- A token of a script: a word, a mark between commands, the end of a line or of the script, or
the sign of a redirection with the stream it is for. -/
inductive Token
  | word (pieces : Word)
  | mark (text : String)
  | lineEnd
  | ending
  | redirect (stream : Nat) (sign : String)

/-- A text that a redirection promised. -/
structure Promise where
  number : Nat
  delimiter : String
  verbatim : Bool
  dropsTabs : Bool

/-- What is left of a script, the number of its first line, and what is to be kept in mind. An alias
gives way to the text that it stands for; `replaced` holds those whose text is being read, each with
how much is left after it, because there they stand for themselves. -/
structure Source where
  rest : List Char
  line : Nat
  peeked : Option Token
  promises : List Promise
  texts : List (Nat × Word)
  promised : Nat
  aliases : List (String × String)
  replaced : List (String × Nat)

/-- The source of a whole script. -/
def Source.ofText (text : String) : Source := ⟨text.toList, 1, none, [], [], 0, [], []⟩

/-- Reads something from a source. -/
abbrev Reader (α : Type) := StateT Source (Except Fault) α

namespace Reader

/-- Fails with a message. -/
def fail {α : Type} (message : String) : Reader α := do
  throw ⟨(← get).line, message⟩

/-- Characters after joined lines, and how many lines were joined. -/
def joinLines : List Char → List Char × Nat
  | '\\' :: '\n' :: rest =>
    let (rest, n) := joinLines rest
    (rest, n + 1)
  | rest => (rest, 0)

/-- The next character, which stays where it is. -/
def next? : Reader (Option Char) := do
  let s ← get
  match s.rest with
  | '\\' :: '\n' :: _ =>
    let (rest, n) := joinLines s.rest
    set { s with rest := rest, line := s.line + n }
    return rest.head?
  | c :: _ => return some c
  | [] => return none

/-- Takes the next character. -/
def take : Reader Unit :=
  modify fun s => match s.rest with
    | '\n' :: rest => { s with rest := rest, line := s.line + 1 }
    | _ :: rest => { s with rest := rest }
    | [] => s

/-- Takes characters as long as they are plain ones. -/
def takeWhile (isPlain : Char → Bool) : Reader String := do
  let s ← get
  let (plain, rest) := s.rest.span isPlain
  set { s with rest := rest, line := s.line + plain.countP (· == '\n') }
  return String.ofList plain

/-- Takes a character if it is the next one. -/
def takeIf (c : Char) : Reader Bool := do
  if (← next?) == some c then
    take
    return true
  else return false

end Reader

/-- Marks of one and of two characters. -/
def markOf (c : Char) (doubled : Bool) : String :=
  String.ofList (if doubled then [c, c] else [c])

/-- The words with a meaning of their own at the start of a command. -/
def keywords : List String :=
  ["!", "case", "do", "done", "elif", "else", "esac", "fi", "for", "if", "in", "then", "until",
    "while", "\x7b", "\x7d"]

/-- The characters of a word in which nothing is quoted and nothing is put in. -/
def Token.plain? : Token → Option String
  | .word pieces => Shell.plain? pieces
  | _ => none

/-- The keyword that a token is. -/
def Token.keyword? (token : Token) : Option String :=
  token.plain?.filter keywords.contains

/-- A token as messages name it. -/
def Token.describe (asKeyword : Bool) (token : Token) : String :=
  match token with
  | .word _ =>
    match token.keyword? with
    | some k => if asKeyword then "\"" ++ k ++ "\"" else "word"
    | none => "word"
  | .mark text => "\"" ++ text ++ "\""
  | .lineEnd => "newline"
  | .ending => "end of file"
  | .redirect .. => "redirection"

/-- Refuses a token where another one was wanted. -/
def refuse {α : Type} (token : Token) (wanted : Option String) (asKeyword : Bool) : Reader α :=
  Reader.fail ("Syntax error: " ++ token.describe asKeyword ++ " unexpected" ++
    match wanted with
    | some text => " (expecting " ++ text ++ ")"
    | none => "")

end StateExplorer.Shell
