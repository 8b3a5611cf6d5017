import StateExplorer.Datum.Basic

/-!
# JSON

Reading goes in two passes, each a fold. `Json.scan` turns characters into tokens with a small
amount of memory between characters; `Json.assemble` turns tokens into a tree with a stack of the
lists and records that are still open. Writing uses two blanks for each level and puts every item
on a line of its own. The grammar is strict: no comments, no trailing commas, no leading zeros,
no raw control characters in texts.
-/

namespace StateExplorer

namespace Json

/-- A token of JSON. -/
inductive Token
  | openList
  | closeList
  | openRecord
  | closeRecord
  | colon
  | comma
  | text (content : Option String)
  | atom (value : Datum)

/-- What is remembered between two characters. Texts are kept as code units, last one first. -/
inductive Mode
  | gap
  | bare (chars : List Char)
  | text (units : List Nat)
  | escape (units : List Nat)
  | hex (units : List Nat) (missing value : Nat)

/-- Whether a code unit is the first half of a pair. -/
def isHighHalf (u : Nat) : Bool := 0xD800 ≤ u && u ≤ 0xDBFF

/-- Whether a code unit is the second half of a pair. -/
def isLowHalf (u : Nat) : Bool := 0xDC00 ≤ u && u ≤ 0xDFFF

/-- The characters of code units, if every half belongs to a pair. -/
def joinUnits : List Nat → Option (List Char)
  | [] => some []
  | [u] => if isHighHalf u || isLowHalf u then none else some [Char.ofNat u]
  | u :: v :: rest =>
    if isHighHalf u then
      if isLowHalf v then
        let c := Char.ofNat (0x10000 + (u - 0xD800) * 0x400 + (v - 0xDC00))
        (joinUnits rest).map (c :: ·)
      else none
    else if isLowHalf u then none
    else (joinUnits (v :: rest)).map (Char.ofNat u :: ·)

/-- Whether the rest of a number is an exponent or nothing. -/
def isExponent : List Char → Bool
  | [] => true
  | e :: rest =>
    let digits := match rest with
      | '+' :: more => more
      | '-' :: more => more
      | _ => rest
    (e == 'e' || e == 'E') && !digits.isEmpty && digits.all Char.isDigit

/-- Whether the rest of a number after its whole part is well formed. -/
def isFraction : List Char → Bool
  | '.' :: d :: rest => d.isDigit && isExponent (rest.dropWhile Char.isDigit)
  | rest => isExponent rest

/-- Whether a word is a number. -/
def isNumber (word : List Char) : Bool :=
  let unsigned := match word with
    | '-' :: rest => rest
    | _ => word
  match unsigned with
  | '0' :: rest => isFraction rest
  | d :: rest => d.isDigit && isFraction (rest.dropWhile Char.isDigit)
  | [] => false

/-- The value of a word that stands outside of texts. -/
def atom? (word : List Char) : Option Datum :=
  let s := String.ofList word
  if s = "null" then some .null
  else if s = "true" then some (.flag true)
  else if s = "false" then some (.flag false)
  else if isNumber word then some (.number s)
  else none

/-- Whether a character can stand in a word outside of texts. -/
def isBare (c : Char) : Bool :=
  c.isAlphanum || c == '+' || c == '-' || c == '.'

/-- The tokens that a character makes between tokens, and what is remembered then. -/
def begin (c : Char) : Option (List Token × Mode) :=
  match c with
  | '[' => some ([.openList], .gap)
  | ']' => some ([.closeList], .gap)
  | '\x7b' => some ([.openRecord], .gap)
  | '\x7d' => some ([.closeRecord], .gap)
  | ':' => some ([.colon], .gap)
  | ',' => some ([.comma], .gap)
  | '"' => some ([], .text [])
  | ' ' => some ([], .gap)
  | '\n' => some ([], .gap)
  | '\r' => some ([], .gap)
  | '\t' => some ([], .gap)
  | _ => if isBare c then some ([], .bare [c]) else none

/-- The code unit of a one-letter escape. -/
def escapeUnit? : Char → Option Nat
  | '"' => some 0x22
  | '\\' => some 0x5C
  | '/' => some 0x2F
  | 'b' => some 0x08
  | 'f' => some 0x0C
  | 'n' => some 0x0A
  | 'r' => some 0x0D
  | 't' => some 0x09
  | _ => none

/-- The value of a hexadecimal digit. -/
def hexValue? (c : Char) : Option Nat :=
  if c.isDigit then some (c.toNat - '0'.toNat)
  else if 'a' ≤ c ∧ c ≤ 'f' then some (c.toNat - 'a'.toNat + 10)
  else if 'A' ≤ c ∧ c ≤ 'F' then some (c.toNat - 'A'.toNat + 10)
  else none

/-- The tokens that one more character makes, and what is remembered then. -/
def feed (mode : Mode) (c : Char) : Option (List Token × Mode) :=
  match mode with
  | .gap => begin c
  | .bare chars =>
    if isBare c then some ([], .bare (c :: chars))
    else do
      let value ← atom? chars.reverse
      let (tokens, next) ← begin c
      return (.atom value :: tokens, next)
  | .text units =>
    if c = '"' then
      some ([.text ((joinUnits units.reverse).map String.ofList)], .gap)
    else if c = '\\' then some ([], .escape units)
    else if c.toNat < 0x20 then none
    else some ([], .text (c.toNat :: units))
  | .escape units =>
    if c = 'u' then some ([], .hex units 4 0)
    else (escapeUnit? c).map fun u => ([], .text (u :: units))
  | .hex units missing value =>
    (hexValue? c).map fun v =>
      let value := value * 16 + v
      if missing ≤ 1 then ([], .text (value :: units)) else ([], .hex units (missing - 1) value)

/-- The tokens that the end of the document makes. -/
def finish : Mode → Option (List Token)
  | .gap => some []
  | .bare chars => (atom? chars.reverse).map fun value => [.atom value]
  | _ => none

/-- The tokens of a document. -/
def scan (document : List Char) : Option (List Token) := do
  let (mode, tokens) ← document.foldlM (fun (mode, done) c => do
    let (tokens, next) ← feed mode c
    return (next, tokens.reverse ++ done)) (Mode.gap, ([] : List Token))
  return tokens.reverse ++ (← finish mode)

/-- A list or record that is still open: what it holds so far, last item first, and for a record
the key that the next value belongs to. -/
inductive Frame
  | list (items : List Datum)
  | record (entries : List (Option String × Datum)) (key : Option String)

/-- What may come next. -/
inductive Expected
  | value
  | firstValue
  | firstKey
  | key (entries : List (Option String × Datum))
  | colon (entries : List (Option String × Datum)) (key : Option String)
  | afterValue (value : Datum)

/-- What is open and what may come after a token that begins a value. -/
def openValue (stack : List Frame) : Token → Option (List Frame × Expected)
  | .atom value => some (stack, .afterValue value)
  | .text content => some (stack, .afterValue (.text content))
  | .openList => some (.list [] :: stack, .firstValue)
  | .openRecord => some (stack, .firstKey)
  | _ => none

/-- What is open and what may come after one more token. -/
def accept (stack : List Frame) (expected : Expected) (token : Token) :
    Option (List Frame × Expected) :=
  match expected, token, stack with
  | .value, _, _ => openValue stack token
  | .firstValue, .closeList, .list _ :: rest => some (rest, .afterValue (.list []))
  | .firstValue, _, _ => openValue stack token
  | .firstKey, .closeRecord, _ => some (stack, .afterValue (.record []))
  | .firstKey, .text key, _ => some (stack, .colon [] key)
  | .key entries, .text key, _ => some (stack, .colon entries key)
  | .colon entries key, .colon, _ => some (.record entries key :: stack, .value)
  | .afterValue v, .comma, .list items :: rest => some (.list (v :: items) :: rest, .value)
  | .afterValue v, .closeList, .list items :: rest =>
    some (rest, .afterValue (.list (v :: items).reverse))
  | .afterValue v, .comma, .record entries key :: rest => some (rest, .key ((key, v) :: entries))
  | .afterValue v, .closeRecord, .record entries key :: rest =>
    some (rest, .afterValue (.record ((key, v) :: entries).reverse))
  | _, _, _ => none

/-- The tree that tokens form. -/
def assemble (tokens : List Token) : Option Datum := do
  match ← tokens.foldlM (fun (stack, expected) t => accept stack expected t)
      (([] : List Frame), Expected.value) with
  | ([], .afterValue value) => some value
  | _ => none

/-- How a character is written inside a text. -/
def escape (c : Char) : List Char :=
  match c with
  | '"' => ['\\', '"']
  | '\\' => ['\\', '\\']
  | '\n' => ['\\', 'n']
  | '\r' => ['\\', 'r']
  | '\t' => ['\\', 't']
  | '\x08' => ['\\', 'b']
  | '\x0c' => ['\\', 'f']
  | _ =>
    if c.toNat < 0x20 then
      ['\\', 'u', '0', '0', Nat.digitChar (c.toNat / 16), Nat.digitChar (c.toNat % 16)]
    else [c]

/-- A text between quotes. -/
def writeText (s : String) : List Char :=
  '"' :: s.toList.flatMap escape ++ ['"']

/-- A new line with two blanks for each level. -/
def newLine (depth : Nat) : List Char :=
  '\n' :: List.replicate (2 * depth) ' '

mutual

/-- A tree as text; what follows the first line is indented by the given depth. -/
def write (depth : Nat) : Datum → List Char
  | .null => ['n', 'u', 'l', 'l']
  | .flag true => ['t', 'r', 'u', 'e']
  | .flag false => ['f', 'a', 'l', 's', 'e']
  | .number lexeme => lexeme.toList
  | .text (some s) => writeText s
  | .text none => ['n', 'u', 'l', 'l']
  | .list [] => ['[', ']']
  | .list (item :: rest) =>
    '[' :: newLine (depth + 1) ++ write (depth + 1) item ++ writeItems (depth + 1) rest ++
      newLine depth ++ [']']
  | .record [] => ['\x7b', '\x7d']
  | .record (entry :: rest) =>
    '\x7b' :: newLine (depth + 1) ++ writeEntry (depth + 1) entry ++
      writeEntries (depth + 1) rest ++ newLine depth ++ ['\x7d']

/-- The items of a list after the first one. -/
def writeItems (depth : Nat) : List Datum → List Char
  | [] => []
  | item :: rest => ',' :: newLine depth ++ write depth item ++ writeItems depth rest

/-- An entry of a record. -/
def writeEntry (depth : Nat) : Option String × Datum → List Char
  | (key, value) => writeText (key.getD "") ++ ':' :: ' ' :: write depth value

/-- The entries of a record after the first one. -/
def writeEntries (depth : Nat) : List (Option String × Datum) → List Char
  | [] => []
  | entry :: rest => ',' :: newLine depth ++ writeEntry depth entry ++ writeEntries depth rest

end

/-- A record written as a list has no more items than entries. -/
def strict : Datum.Form := ⟨false⟩

end Json

/-- The tree of a JSON document. -/
def Datum.ofJson? (document : String) : Option Datum :=
  Json.scan document.toList >>= Json.assemble

/-- A tree as a JSON document. -/
def Datum.toJson (d : Datum) : String :=
  String.ofList (Json.write 0 d)

end StateExplorer
