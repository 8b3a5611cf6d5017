import StateExplorer.Text.Blank
import StateExplorer.Text.Quoted

/-!
# Tokens of the condition language

Parentheses, the equals sign, the plus sign and the line feed stand for themselves. Everything
else that is not blank forms words, each as long as possible.
-/

namespace StateExplorer.Condition

/-- A token of the condition language. -/
inductive Token
  | opening
  | closing
  | equals
  | plus
  | newline
  | word (letters : String)
deriving DecidableEq

namespace Token

/-- The token that a character is by itself. -/
def ofChar? : Char → Option Token
  | '(' => some .opening
  | ')' => some .closing
  | '=' => some .equals
  | '+' => some .plus
  | '\n' => some .newline
  | _ => none

/-- The word of the letters read so far, last one first, if there are any. -/
def pendingWord : List Char → List Token
  | [] => []
  | letters => [.word (String.ofList letters.reverse)]

/-- The tokens of a text after the letters of an unfinished word. -/
def scanFrom (letters : List Char) : List Char → List Token
  | [] => pendingWord letters
  | c :: rest =>
    match ofChar? c with
    | some token => pendingWord letters ++ token :: scanFrom [] rest
    | none =>
      if Text.isBlank c then pendingWord letters ++ scanFrom [] rest
      else scanFrom (c :: letters) rest

/-- The tokens of a text. -/
def scan (text : String) : List Token :=
  scanFrom [] text.toList

/-- How a message names a token. -/
def describe : Token → String
  | .opening => "Open"
  | .closing => "Close"
  | .equals => "Equals"
  | .plus => "Plus"
  | .newline => "Newline"
  | .word letters => "Word(" ++ String.ofList (Text.quoted letters.toList) ++ ")"

end Token

end StateExplorer.Condition
