import StateExplorer.Condition.Basic
import StateExplorer.Condition.Token
import StateExplorer.Text.Columns
import StateExplorer.Text.Search

/-!
# Reading conditions

A text holds formulas on separate lines, all of which must hold. A formula joins conjunctions by
`or` or `||`, a conjunction joins atoms by `and` or `&&`, and line feeds may follow a connective.
An atom is a formula in parentheses, `no s.f`, `some s.f`, `v in s.f`, or `s.f = v + w`, where a
value is one or more words written together and `none` stands for the empty set.

Each parser takes the tokens that are left and gives back those after what it read. An atom is
read by a parser that takes formulas of a lower nesting depth as given, so the depth of the
parentheses bounds the recursion.
-/

namespace StateExplorer.Condition

/-- What a parser was looking for. -/
inductive Wanted
  | endOfFormula
  | closing
  | formula
  | field
  | value
  | relation (word : String)
deriving DecidableEq

/-- Why a text is no condition. -/
inductive SyntaxError
  | unexpected (wanted : Wanted) (found : Option Token)
  | notField (word : String)
deriving DecidableEq

/-- How a message names what was looked for. -/
def Wanted.describe : Wanted → String
  | .endOfFormula => "expected end of formula"
  | .closing => "expected `)`"
  | .formula => "expected a formula"
  | .field => "expected a field"
  | .value => "expected a value"
  | .relation word => "expected `=` or `in` after " ++ word

/-- The wording of an error. -/
def SyntaxError.message : SyntaxError → String
  | .unexpected wanted (some token) => wanted.describe ++ ", found " ++ token.describe
  | .unexpected wanted none => wanted.describe ++ ", found end of input"
  | .notField word => "expected s.<field>, found " ++ word

/-- A parser gives back what it read and the tokens after it. -/
abbrev Parser (α : Type) := List Token → Except SyntaxError (α × List Token)

/-- The tokens from the first one on that is no line feed. -/
def skipNewlines : List Token → List Token
  | .newline :: rest => skipNewlines rest
  | tokens => tokens

/-- The words that join alternatives. -/
def orWords : List String := ["or", "||"]

/-- The words that join requirements. -/
def andWords : List String := ["and", "&&"]

/-- The field that a word names: what follows `s.`. -/
def fieldOfWord (word : String) : Except SyntaxError String :=
  match Text.dropStart? ['s', '.'] word.toList with
  | some (c :: rest) => .ok (String.ofList (c :: rest))
  | _ => .error (.notField word)

/-- Reads a field. -/
def fieldName : Parser String
  | .word word :: rest => (fieldOfWord word).map fun field => (field, rest)
  | tokens => .error (.unexpected .field tokens.head?)

/-- Whether a value is the empty relation of some arity. -/
def isNone (value : String) : Bool :=
  (Text.columns value.toList).all (· == ['n', 'o', 'n', 'e'])

/-- Reads the values of a set from the words of an unfinished value on, last word first. -/
def valuesFrom (words : List String) : Parser (List String)
  | .word word :: rest =>
    if (orWords ++ andWords).contains word then
      if words.isEmpty then .error (.unexpected .value (some (.word word)))
      else .ok ([String.join words.reverse], .word word :: rest)
    else valuesFrom (word :: words) rest
  | .plus :: rest =>
    if words.isEmpty then .error (.unexpected .value (some .plus))
    else (valuesFrom [] rest).map fun (more, left) => (String.join words.reverse :: more, left)
  | tokens =>
    if words.isEmpty then .error (.unexpected .value tokens.head?)
    else .ok ([String.join words.reverse], tokens)

/-- Reads a set of values; the empty relation adds nothing to it. -/
def values : Parser (List String) := fun tokens =>
  (valuesFrom [] tokens).map fun (found, rest) => (valueSet (found.filter (!isNone ·)), rest)

/-- Reads an atom, with a parser for the formulas inside parentheses. -/
def atom (inner : Parser Condition) : Parser Condition
  | .opening :: rest => do
    let (condition, rest) ← inner (skipNewlines rest)
    match skipNewlines rest with
    | .closing :: rest => .ok (condition, rest)
    | rest => .error (.unexpected .closing rest.head?)
  | .word "no" :: rest => (fieldName rest).map fun (field, rest) => (.isEmpty field, rest)
  | .word "some" :: rest => (fieldName rest).map fun (field, rest) => (.nonEmpty field, rest)
  | .word word :: .equals :: rest => do
    let field ← fieldOfWord word
    let (values, rest) ← values rest
    .ok (.equals field values, rest)
  | .word word :: .word "in" :: rest =>
    (fieldName rest).map fun (field, rest) => (.contains field word, rest)
  | .word word :: rest => .error (.unexpected (.relation word) rest.head?)
  | tokens => .error (.unexpected .formula tokens.head?)

/-- Reads items with one of the given words between them, at most `more` after the first. -/
def joined (words : List String) (item : Parser Condition) : (more : Nat) → Parser (List Condition)
  | 0 => fun tokens => (item tokens).map fun (first, rest) => ([first], rest)
  | more + 1 => fun tokens => do
    let (first, rest) ← item tokens
    match rest with
    | .word word :: next =>
      if words.contains word then
        let (others, rest) ← joined words item more (skipNewlines next)
        .ok (first :: others, rest)
      else .ok ([first], rest)
    | rest => .ok ([first], rest)

/-- Reads a conjunction of atoms. -/
def conjunction (item : Parser Condition) : Parser Condition := fun tokens =>
  (joined andWords item tokens.length tokens).map fun (parts, rest) => (allOf parts, rest)

/-- Reads a disjunction of conjunctions. -/
def disjunction (item : Parser Condition) : Parser Condition := fun tokens =>
  (joined orWords (conjunction item) tokens.length tokens).map fun (parts, rest) =>
    (anyOf parts, rest)

/-- Reads a formula whose parentheses nest less than `depth` deep. -/
def formula : Nat → Parser Condition
  | 0 => fun tokens => .error (.unexpected .formula tokens.head?)
  | depth + 1 => disjunction (atom (formula depth))

/-- Reads formulas on separate lines to the end of the tokens, at most `more` after the first. -/
def body (line : Parser Condition) :
    (more : Nat) → List Token → Except SyntaxError (List Condition)
  | more, tokens =>
    match skipNewlines tokens with
    | [] => .ok []
    | token :: tokens => do
      let (condition, rest) ← line (token :: tokens)
      match more with
      | 0 =>
        match rest with
        | [] => .ok [condition]
        | token :: _ => .error (.unexpected .endOfFormula (some token))
      | more + 1 =>
        match rest with
        | [] => .ok [condition]
        | .newline :: rest => return condition :: (← body line more rest)
        | token :: _ => .error (.unexpected .endOfFormula (some token))

/-- The condition that a text states. -/
def parse (text : String) : Except SyntaxError Condition :=
  let tokens := Token.scan text
  (body (formula (tokens.length + 1)) tokens.length tokens).map allOf

end StateExplorer.Condition
