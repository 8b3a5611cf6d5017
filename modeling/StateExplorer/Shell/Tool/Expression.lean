import StateExplorer.Shell.Regex
import StateExplorer.Shell.Tool.Basic

/-!
# Values of expressions

The arguments are the words of an expression: whole numbers and texts, and what is to be done with them.
Its value is printed, and the status tells whether that is something else than nothing and zero.
-/

namespace StateExplorer.Shell.Tool

open Run

namespace Expression

/-- The words that are left, and the one that was taken last. -/
structure Reading where
  rest : List String
  last : String

/-- Reads a part of an expression. -/
abbrev Reader (α : Type) := StateT Reading (Except String) α

/-- The next word, which is left. -/
def next? : Reader (Option String) := return (← get).rest.head?

/-- Takes the next word. -/
def skip : Reader Unit :=
  modify fun r => { r with rest := r.rest.tail, last := r.rest.headD "" }

/-- Takes the next word, which must be there. -/
def take : Reader String := do
  let r ← get
  match r.rest with
  | word :: rest =>
    set (Reading.mk rest word)
    return word
  | [] => throw ("syntax error: missing argument after " ++ quotedPath r.last)

/-- The whole number that a text is. -/
def int? (text : String) : Option Int :=
  match text.toList with
  | '+' :: _ => none
  | _ => Bytes.int? text

/-- Whether a value is nothing or zero. -/
def isNull (value : String) : Bool := value.isEmpty || int? value == some 0

/-- The text of a truth value. -/
def ofBool (value : Bool) : String := if value then "1" else "0"

/-- What a pattern matches at the start of a text: the text of its first group, or its size where it
has none. -/
def matched (text pattern : String) : Except String String :=
  match Regex.read false false pattern with
  | .error fault => .error fault.message
  | .ok (regex, groups) =>
    let s : Regex.Subject := ⟨text.toList.toArray, false, false, true⟩
    match regex.matchAt? s 0 with
    | none => .ok (if groups == 0 then "0" else "")
    | some found =>
      if groups == 0 then .ok (toString found.last)
      else
        match found.groups.lookup 1 with
        | some (first, last) => .ok (Bytes.take (last - first) (Bytes.drop first text))
        | none => .ok ""

/-- The place of the first character of a text that is one of some, counted from one. -/
def indexOf (text chars : String) : Nat :=
  match text.toList.findIdx? fun c => chars.toList.contains c with
  | some place => place + 1
  | none => 0

/-- A part of a text by its place, counted from one, and its size. -/
def part (text place size : String) : String :=
  match int? place, int? size with
  | some place, some size =>
    if place < 1 || size < 1 then ""
    else Bytes.take size.toNat (Bytes.drop (place.toNat - 1) text)
  | _, _ => ""

/-- The value of a sum or a product. -/
def calculate (op a b : String) : Except String String :=
  match int? a, int? b with
  | some a, some b =>
    match op with
    | "+" => .ok (toString (a + b))
    | "-" => .ok (toString (a - b))
    | "*" => .ok (toString (a * b))
    | op =>
      if b == 0 then .error "division by zero"
      else .ok (toString (if op == "/" then a.tdiv b else a.tmod b))
  | _, _ => .error "non-integer argument"

/-- The value of a comparison: of numbers if both sides are, otherwise of texts. -/
def compare (op a b : String) : String :=
  let order := match int? a, int? b with
    | some a, some b => Ord.compare a b
    | _, _ => Ord.compare a b
  ofBool (match op with
    | "<" => order.isLT
    | "<=" => order.isLE
    | "=" | "==" => order.isEq
    | "!=" => !order.isEq
    | ">=" => order.isGE
    | _ => order.isGT)

/-- The signs of each level, those that bind least first. -/
def levelSigns : Nat → List String
  | 5 => ["|"]
  | 4 => ["&"]
  | 3 => ["<", "<=", "=", "==", "!=", ">=", ">"]
  | 2 => ["+", "-"]
  | 1 => ["*", "/", "%"]
  | _ => [":"]

/-- The value of a sign between two values. -/
def apply (op a b : String) : Except String String :=
  match op with
  | "|" => .ok (if !isNull a then a else if !isNull b then b else "0")
  | "&" => .ok (if isNull a || isNull b then "0" else a)
  | ":" => matched a b
  | "+" | "-" | "*" | "/" | "%" => calculate op a b
  | op => .ok (compare op a b)

mutual

/-- The value of a word, of something in parentheses, or of a function of values. -/
def single (wanted : Bool) : (depth : Nat) → Reader String
  | 0 => throw "syntax error"
  | depth + 1 => do
    let word ← take
    match word with
    | "(" =>
      let value ← level wanted depth 5
      match ← next? with
      | some ")" =>
        skip
        return value
      | some other =>
        throw ("syntax error: expecting ')' instead of " ++ quotedPath other)
      | none =>
        throw ("syntax error: expecting ')' after " ++ quotedPath (← get).last)
    | ")" => throw "syntax error: unexpected ')'"
    | "+" => take
    | "length" => return toString (← single wanted depth).length
    | "match" =>
      let text ← single wanted depth
      let pattern ← single wanted depth
      if wanted then (matched text pattern : Except String String) else return text
    | "index" =>
      let text ← single wanted depth
      let chars ← single wanted depth
      return toString (indexOf text chars)
    | "substr" =>
      let text ← single wanted depth
      let place ← single wanted depth
      let size ← single wanted depth
      return part text place size
    | word => return word

/-- The value of signs of a level between values. -/
def level (wanted : Bool) : (depth : Nat) → (number : Nat) → Reader String
  | 0, _ => throw "syntax error"
  | depth + 1, number => do
    let first ← operand wanted depth number
    more wanted depth number first

/-- The value of an operand of a level. -/
def operand (wanted : Bool) : (depth : Nat) → (number : Nat) → Reader String
  | 0, _ => throw "syntax error"
  | depth + 1, 0 => single wanted depth
  | depth + 1, number + 1 => level wanted depth number

/-- The value of what follows a value on a level. -/
def more (wanted : Bool) : (depth : Nat) → (number : Nat) → (value : String) → Reader String
  | 0, _, value => return value
  | depth + 1, number, value => do
    match ← next? with
    | some op =>
      if (levelSigns number).contains op then
        skip
        let matters := match op with
          | "|" => isNull value
          | "&" => !isNull value
          | _ => true
        let second ← operand (wanted && matters) depth number
        let value ←
          if wanted && matters then (apply op value second : Except String String)
          else pure (if op == "&" then "0" else value)
        more wanted depth number value
      else return value
    | none => return value

end

/-- The value of words. -/
def value (words : List String) : Except String String := do
  let (value, r) ← (level true (20 * words.length + 20) 5).run ⟨words, ""⟩
  match r.rest with
  | [] => return value
  | word :: _ => throw ("syntax error: unexpected argument " ++ quotedPath word)

end Expression

/-- Prints the value of an expression. -/
def expr : Tool := fun _ name arguments => do
  let words := match arguments with
    | "--" :: rest => rest
    | words => words
  if words.isEmpty then
    misuse name "missing operand"
    return 2
  match Expression.value words with
  | .error message =>
    complain name message
    return 2
  | .ok value =>
    print (value ++ "\n")
    return if Expression.isNull value then 1 else 0

end StateExplorer.Shell.Tool
