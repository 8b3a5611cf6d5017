import StateExplorer.Shell.CharClass
import StateExplorer.Shell.Syntax

/-!
# Integer expressions

The expressions of a script compute with integers of 64 bits. Operators bind by levels, a choice and
the two connectives look at one side only, and names can be given values on the way.
-/

namespace StateExplorer.Shell

/-- A part of an integer expression; what is no part of one is `unknown`. -/
inductive ArithmeticToken
  | number (value : Int)
  | name (name : String)
  | mark (text : String)
  | unknown
deriving DecidableEq

/-- Why an expression has no value. -/
inductive ArithmeticFault
  | form (what : String)
  | notANumber (text : String)
  | readOnly (name : String)

namespace Arithmetic

/-- An integer cut to 64 bits. -/
def wrap (n : Int) : Int := Int.bmod n 0x10000000000000000

/-- The marks of expressions, longer ones first. -/
def marks : List String :=
  ["<<=", ">>=", "||", "&&", "==", "!=", "<=", ">=", "<<", ">>", "+=", "-=", "*=", "/=", "%=",
    "&=", "|=", "^=", "+", "-", "*", "/", "%", "(", ")", "<", ">", "&", "|", "^", "!", "~", "?",
    ":", "="]

/-- The parts of an expression, at most so many. -/
def tokens : (more : Nat) → List Char → List ArithmeticToken
  | 0, _ => []
  | _, [] => []
  | more + 1, c :: rest =>
    if c == ' ' || c == '\t' || c == '\n' then tokens more rest
    else if c.isDigit then
      let (value, _, rest) := readInteger (c :: rest)
      .number value :: tokens more rest
    else if beginsName c then
      let (name, rest) := (c :: rest).span isNameChar
      .name (String.ofList name) :: tokens more rest
    else
      match marks.find? fun m => m.toList.isPrefixOf (c :: rest) with
      | some m => .mark m :: tokens more ((c :: rest).drop m.length)
      | none => [.unknown]

/-- What is left of an expression, the values of names before it, and those it has set, the last
one first. -/
structure State where
  tokens : List ArithmeticToken
  value : String → Option String
  isReadOnly : String → Bool
  changes : List (String × Int)

/-- A step of the evaluation. -/
abbrev Eval (α : Type) := StateT State (Except ArithmeticFault) α

/-- The next part of the expression. -/
def next? : Eval (Option ArithmeticToken) := return (← get).tokens.head?

/-- Takes the next part. -/
def take : Eval Unit := modify fun s => { s with tokens := s.tokens.tail }

/-- Takes a mark if it is the next part. -/
def takeMark (text : String) : Eval Bool := do
  if (← next?) == some (.mark text) then
    take
    return true
  else return false

/-- The integer that a value stands for. -/
def integerOf (text : String) : Except ArithmeticFault Int :=
  let (n, cut, rest) := readInteger text.toList
  let rest := rest.dropWhile fun c => c == ' ' || (9 ≤ c.toNat && c.toNat ≤ 13)
  if cut || !rest.isEmpty then .error (.notANumber text) else .ok n

/-- The integer of a name; a name without a value is zero. -/
def lookup (name : String) : Eval Int := do
  let s ← get
  match s.changes.lookup name with
  | some n => return n
  | none => integerOf ((s.value name).getD "")

/-- The integer of a condition. -/
def ofCondition (holds : Bool) : Int := if holds then 1 else 0

/-- A 64-bit word of an integer. -/
def word (n : Int) : UInt64 := UInt64.ofInt n

/-- The value of an operator of two integers. -/
def apply (op : String) (a b : Int) : Except ArithmeticFault Int :=
  match op with
  | "*" => .ok (wrap (a * b))
  | "/" => if b = 0 then .error (.form "division by zero") else .ok (wrap (a.tdiv b))
  | "%" => if b = 0 then .error (.form "division by zero") else .ok (a.tmod b)
  | "+" => .ok (wrap (a + b))
  | "-" => .ok (wrap (a - b))
  | "<<" => .ok (word a <<< (word b &&& 63)).toInt64.toInt
  | ">>" => .ok (a / ((1 <<< (word b &&& 63).toNat : Nat) : Int))
  | "<" => .ok (ofCondition (a < b))
  | "<=" => .ok (ofCondition (a ≤ b))
  | ">" => .ok (ofCondition (b < a))
  | ">=" => .ok (ofCondition (b ≤ a))
  | "==" => .ok (ofCondition (a == b))
  | "!=" => .ok (ofCondition (a != b))
  | "&" => .ok (word a &&& word b).toInt64.toInt
  | "^" => .ok (word a ^^^ word b).toInt64.toInt
  | "|" => .ok (word a ||| word b).toInt64.toInt
  | _ => .error (.form "expecting EOF")

/-- How strongly an operator binds; a smaller number binds more strongly. -/
def level? (op : String) : Option Nat :=
  match op with
  | "*" | "/" | "%" => some 0
  | "+" | "-" => some 1
  | "<<" | ">>" => some 2
  | "<" | "<=" | ">" | ">=" => some 3
  | "==" | "!=" => some 4
  | "&" => some 5
  | "^" => some 6
  | "|" => some 7
  | _ => none

/-- The operator that stands here, if it binds at least as strongly as a level. -/
def operator? (weakest : Nat) : Eval (Option (String × Nat)) := do
  match ← next? with
  | some (.mark op) =>
    match level? op with
    | some level => return if level ≤ weakest then some (op, level) else none
    | none => return none
  | _ => return none

/-- The operator in an operator that also sets a name. -/
def assigning? (mark : String) : Option (Option String) :=
  match mark with
  | "=" => some none
  | "*=" => some (some "*")
  | "/=" => some (some "/")
  | "%=" => some (some "%")
  | "+=" => some (some "+")
  | "-=" => some (some "-")
  | "<<=" => some (some "<<")
  | ">>=" => some (some ">>")
  | "&=" => some (some "&")
  | "^=" => some (some "^")
  | "|=" => some (some "|")
  | _ => none

mutual

/-- An operand; where `skips` is set its value does not count. -/
def primary : (depth : Nat) → (skips : Bool) → Eval Int
  | 0, _ => throw (.form "expecting primary")
  | depth + 1, skips => do
    let token ← next?
    match token with
    | some (.number n) =>
      take
      return n
    | some (.name name) =>
      take
      if skips then return 0 else lookup name
    | some (.mark "(") =>
      take
      let n ← assignment depth skips
      if ← takeMark ")" then return n else throw (.form "expecting ')'")
    | some (.mark "+") =>
      take
      primary depth skips
    | some (.mark "-") =>
      take
      return wrap (-(← primary depth skips))
    | some (.mark "!") =>
      take
      return ofCondition ((← primary depth skips) == 0)
    | some (.mark "~") =>
      take
      return -(← primary depth skips) - 1
    | _ => throw (.form "expecting primary")

/-- The value of operators that bind at least as strongly as a level, after a first operand. -/
def operations : (depth : Nat) → (skips : Bool) → (weakest : Nat) → (first : Int) → Eval Int
  | 0, _, _, first => return first
  | depth + 1, skips, weakest, first => do
    match ← operator? weakest with
    | none => return first
    | some (op, level) =>
      take
      let second ← primary depth skips
      let second ← match level with
        | 0 => pure second
        | stronger + 1 => operations depth skips stronger second
      let value ← if skips then pure second else apply op first second
      operations depth skips weakest value

/-- Operands joined by "and". -/
def conjunction : (depth : Nat) → (skips : Bool) → Eval Int
  | 0, _ => throw (.form "expecting primary")
  | depth + 1, skips => do
    let a ← operations depth skips 7 (← primary depth skips)
    if ← takeMark "&&" then
      let b ← conjunction depth (skips || a == 0)
      return ofCondition (a != 0 && b != 0)
    else return a

/-- Operands joined by "or". -/
def disjunction : (depth : Nat) → (skips : Bool) → Eval Int
  | 0, _ => throw (.form "expecting primary")
  | depth + 1, skips => do
    let a ← conjunction depth skips
    if ← takeMark "||" then
      let b ← disjunction depth (skips || a != 0)
      return ofCondition (a != 0 || b != 0)
    else return a

/-- A choice between two values. -/
def choice : (depth : Nat) → (skips : Bool) → Eval Int
  | 0, _ => throw (.form "expecting primary")
  | depth + 1, skips => do
    let a ← disjunction depth skips
    if ← takeMark "?" then
      let b ← assignment depth (skips || a == 0)
      if ← takeMark ":" then
        let c ← choice depth (skips || a != 0)
        return if a != 0 then b else c
      else throw (.form "expecting ':'")
    else return a

/-- An expression that may set a name first. -/
def assignment : (depth : Nat) → (skips : Bool) → Eval Int
  | 0, _ => throw (.form "expecting primary")
  | depth + 1, skips => do
    match (← get).tokens with
    | .name name :: .mark mark :: rest =>
      match assigning? mark with
      | some op =>
        modify fun s => { s with tokens := rest }
        let b ← assignment depth skips
        if skips then return b
        let value ← match op with
          | some op => do apply op (← lookup name) b
          | none => pure b
        if (← get).isReadOnly name then throw (.readOnly name)
        modify fun s => { s with changes := (name, value) :: s.changes }
        return value
      | none => choice depth skips
    | _ => choice depth skips

end

/-- The value of an expression, and the values it sets, the first one first. -/
def evaluate (value : String → Option String) (isReadOnly : String → Bool) (text : String) :
    Except ArithmeticFault (Int × List (String × Int)) := do
  let ts := tokens (text.length + 1) text.toList
  let (n, s) ← (assignment (10 * ts.length + 10) false).run ⟨ts, value, isReadOnly, []⟩
  if s.tokens.isEmpty then return (n, s.changes.reverse) else throw (.form "expecting EOF")

end Arithmetic

end StateExplorer.Shell
