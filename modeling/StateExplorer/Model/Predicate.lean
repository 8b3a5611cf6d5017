import StateExplorer.Text.Letter
import StateExplorer.Text.Search

/-!
# Finding predicates in a model

A predicate is found by its keyword and name, where no letter, numeral or underscore follows the
name. It reaches to the brace that closes the first block after its start. All of this splits the
text into pieces, which together are the text again.
-/

namespace StateExplorer.Predicate

/-- What a predicate of the name starts with. -/
def heading (name : String) : List Char :=
  ['p', 'r', 'e', 'd', ' '] ++ name.toList

/-- Whether a name ends here. -/
def isNameEnd : List Char → Bool
  | [] => true
  | c :: _ => !Text.isWordChar c

/-- The text before the first heading with an end of name after it, and the text from there on.
A heading that goes on is passed over as a whole; `skip` characters of it are still left. -/
def splitAt? (heading : List Char) (skip : Nat) : List Char → Option (List Char × List Char)
  | [] => none
  | c :: rest =>
    let later (skip : Nat) := (splitAt? heading skip rest).map fun (b, a) => (c :: b, a)
    match skip with
    | skip + 1 => later skip
    | 0 =>
      match Text.dropStart? heading (c :: rest) with
      | some after => if isNameEnd after then some ([], c :: rest) else later (heading.length - 1)
      | none => later 0

/-- The text before the predicate of a name and the text from its heading on. -/
def find? (name : String) (text : List Char) : Option (List Char × List Char) :=
  splitAt? (heading name) 0 text

/-- The text up to the brace that closes the first block, and the text after it; `depth` blocks
are open already. A block must be opened before one is closed. -/
def splitBlock? (depth : Nat) : List Char → Option (List Char × List Char)
  | [] => none
  | c :: rest =>
    let later (depth : Nat) := (splitBlock? depth rest).map fun (b, a) => (c :: b, a)
    if c = '\x7b' then later (depth + 1)
    else if c = '\x7d' then
      match depth with
      | 0 => none
      | 1 => some ([c], rest)
      | depth + 2 => later (depth + 1)
    else later depth

/-- The pieces of a text before a predicate, of the predicate itself, and after it. -/
structure Span where
  before : List Char
  text : List Char
  after : List Char

/-- Why a predicate cannot be cut out. -/
inductive LocateError
  | missing (name : String)
  | unbalanced (name : String)
deriving DecidableEq

/-- The wording of an error. -/
def LocateError.message : LocateError → String
  | .missing name => "predicate " ++ name ++ " not found"
  | .unbalanced name => "issue parsing predicate " ++ name ++ ": unbalanced block markers"

/-- The pieces around a predicate, if there is one of the name. -/
def span? (name : String) (text : List Char) : Except LocateError (Option Span) :=
  match find? name text with
  | none => .ok none
  | some (before, rest) =>
    match splitBlock? 0 rest with
    | none => .error (.unbalanced name)
    | some (block, after) => .ok (some ⟨before, block, after⟩)

/-- The text between the first brace of a predicate and the brace that ends it. -/
def Span.body (span : Span) : List Char :=
  ((span.text.dropWhile (· != '\x7b')).drop 1).dropLast

/-- The text between the outer braces of a predicate, if there is one of the name. -/
def body? (name : String) (text : List Char) : Except LocateError (Option (List Char)) :=
  (span? name text).map (·.map Span.body)

end StateExplorer.Predicate
