import StateExplorer.Text.Decimal

/-!
# Blanks, keys and texts of TOML

A reader takes characters from the front of a document and gives back what it read and the rest.
Keys are bare or quoted. Texts are basic, with escapes, or literal, and either kind may span
lines when its quotes are tripled; then a line feed right after the opening quotes is dropped.
-/

namespace StateExplorer.Toml

/-- A reader gives back what it read and the characters after it. -/
abbrev Reader (α : Type) := List Char → Option (α × List Char)

/-- A blank inside a line. -/
def isBlank (c : Char) : Bool := c == ' ' || c == '\t'

/-- The characters after the blanks of a line. -/
def skipBlanks (text : List Char) : List Char :=
  text.dropWhile isBlank

/-- The characters after a line end. -/
def newline? : List Char → Option (List Char)
  | '\n' :: rest => some rest
  | '\r' :: '\n' :: rest => some rest
  | _ => none

/-- A character that may stand in a comment: no control character other than the tab. -/
def isCommentChar (c : Char) : Bool :=
  c == '\t' || (0x20 ≤ c.toNat && c.toNat != 0x7F)

/-- The characters of the next line, when only blanks and a comment are left on this one. -/
def endLine? (text : List Char) : Option (List Char) :=
  let rest := match skipBlanks text with
    | '#' :: comment => comment.dropWhile isCommentChar
    | rest => rest
  if rest.isEmpty then some [] else newline? rest

/-- The characters after blanks, line ends and comments. -/
def skipGap (inComment : Bool) : List Char → List Char
  | [] => []
  | '\n' :: rest => skipGap false rest
  | '\r' :: '\n' :: rest => skipGap false rest
  | c :: rest =>
    if inComment then
      if isCommentChar c then skipGap true rest else c :: rest
    else if isBlank c then skipGap false rest
    else if c = '#' then skipGap true rest
    else c :: rest

/-- A character that stands for itself in a basic text. -/
def isBasicChar (c : Char) : Bool :=
  isCommentChar c && c != '"' && c != '\\'

/-- A character that stands for itself in a literal text. -/
def isLiteralChar (c : Char) : Bool :=
  isCommentChar c && c != '\''

/-- The character of a one-letter escape. -/
def escapeChar? : Char → Option Char
  | 'b' => some '\x08'
  | 't' => some '\t'
  | 'n' => some '\n'
  | 'f' => some '\x0c'
  | 'r' => some '\r'
  | '"' => some '"'
  | '\\' => some '\\'
  | _ => none

/-- The value of a digit in a base up to sixteen. -/
def digitValue? (base : Nat) (c : Char) : Option Nat :=
  let n :=
    if c.isDigit then c.toNat - '0'.toNat
    else if 'a' ≤ c ∧ c ≤ 'f' then c.toNat - 'a'.toNat + 10
    else if 'A' ≤ c ∧ c ≤ 'F' then c.toNat - 'A'.toNat + 10
    else base
  if n < base then some n else none

/-- The value of digits in a base. -/
def digitsValue? (base : Nat) (digits : List Char) : Option Nat :=
  digits.foldlM (fun n c => (digitValue? base c).map (n * base + ·)) 0

/-- The character with a code point given in hexadecimal. -/
def codePoint? (digits : List Char) : Option Char := do
  let n ← digitsValue? 16 digits
  if n.isValidChar then some (Char.ofNat n) else none

/-- What was read with one more character before it, if both are there. -/
def consChar (c : Option Char) (read : Option (List Char × List Char)) :
    Option (List Char × List Char) := do
  let c ← c
  let (text, rest) ← read
  return (c :: text, rest)

/-- Reads a basic text after its opening quote. -/
def basicText : Reader (List Char)
  | [] => none
  | '"' :: rest => some ([], rest)
  | '\\' :: 'u' :: a :: b :: c :: d :: rest => consChar (codePoint? [a, b, c, d]) (basicText rest)
  | '\\' :: 'U' :: a :: b :: c :: d :: e :: f :: g :: h :: rest =>
    consChar (codePoint? [a, b, c, d, e, f, g, h]) (basicText rest)
  | '\\' :: c :: rest => consChar (escapeChar? c) (basicText rest)
  | c :: rest => consChar (if isBasicChar c then some c else none) (basicText rest)

/-- Reads a literal text after its opening quote. -/
def literalText : Reader (List Char)
  | [] => none
  | '\'' :: rest => some ([], rest)
  | c :: rest => consChar (if isLiteralChar c then some c else none) (literalText rest)

/-- At most two quotes that belong to a text although they follow its closing quotes. -/
def lastQuotes (quote : Char) : List Char → List Char × List Char
  | c :: d :: rest =>
    if c = quote && d = quote then ([c, d], rest)
    else if c = quote then ([c], d :: rest)
    else ([], c :: d :: rest)
  | [c] => if c = quote then ([c], []) else ([], [c])
  | [] => ([], [])

/-- Whether a backslash before these characters joins its line with a later one. -/
def joinsLines (text : List Char) : Bool :=
  (newline? (skipBlanks text)).isSome

/-- Reads a basic text over several lines after its opening quotes; blanks and line ends are
passed over while lines are being joined. -/
def basicLines (joining : Bool) : Reader (List Char)
  | [] => none
  | '"' :: '"' :: '"' :: rest => some (lastQuotes '"' rest)
  | '\\' :: 'u' :: a :: b :: c :: d :: rest =>
    consChar (codePoint? [a, b, c, d]) (basicLines false rest)
  | '\\' :: 'U' :: a :: b :: c :: d :: e :: f :: g :: h :: rest =>
    consChar (codePoint? [a, b, c, d, e, f, g, h]) (basicLines false rest)
  | '\\' :: c :: rest =>
    if joinsLines (c :: rest) then basicLines true rest
    else consChar (escapeChar? c) (basicLines false rest)
  | '\r' :: '\n' :: rest =>
    if joining then basicLines true rest else consChar (some '\n') (basicLines false rest)
  | c :: rest =>
    if joining && (isBlank c || c == '\n') then basicLines true rest
    else if isBasicChar c || c == '"' || c == '\n' then consChar (some c) (basicLines false rest)
    else none

/-- Reads a literal text over several lines after its opening quotes. -/
def literalLines : Reader (List Char)
  | [] => none
  | '\'' :: '\'' :: '\'' :: rest => some (lastQuotes '\'' rest)
  | '\r' :: '\n' :: rest => consChar (some '\n') (literalLines rest)
  | c :: rest =>
    consChar (if isCommentChar c || c == '\n' then some c else none) (literalLines rest)

/-- The characters after a line end, if they begin with one. -/
def dropNewline (text : List Char) : List Char :=
  (newline? text).getD text

/-- Reads a text of any kind. -/
def text : Reader String := fun chars => do
  let (found, rest) ← match chars with
    | '"' :: '"' :: '"' :: rest => basicLines false (dropNewline rest)
    | '"' :: rest => basicText rest
    | '\'' :: '\'' :: '\'' :: rest => literalLines (dropNewline rest)
    | '\'' :: rest => literalText rest
    | _ => none
  return (String.ofList found, rest)

/-- A character of a bare key. -/
def isKeyChar (c : Char) : Bool :=
  c.isAlphanum || c == '-' || c == '_'

/-- Reads one part of a key. -/
def keyPart : Reader String
  | '"' :: rest => (basicText rest).map fun (key, rest) => (String.ofList key, rest)
  | '\'' :: rest => (literalText rest).map fun (key, rest) => (String.ofList key, rest)
  | chars =>
    let (key, rest) := chars.span isKeyChar
    if key.isEmpty then none else some (String.ofList key, rest)

/-- Reads a key: parts with dots between them, at most `more` after the first. -/
def keyParts : (more : Nat) → Reader (List String)
  | more, chars => do
    let (part, rest) ← keyPart (skipBlanks chars)
    match more, skipBlanks rest with
    | more + 1, '.' :: rest =>
      let (parts, rest) ← keyParts more rest
      return (part :: parts, rest)
    | 0, '.' :: _ => none
    | _, rest => return ([part], rest)

/-- How deep keys, lists and inline tables may nest. -/
def maxDepth : Nat := 79

/-- Reads a key: all parts but the last, and the last. -/
def key : Reader (List String × String) := fun chars => do
  let (parts, rest) ← keyParts (maxDepth - 1) chars
  match parts.reverse with
  | last :: path => return ((path.reverse, last), rest)
  | [] => none

end StateExplorer.Toml
