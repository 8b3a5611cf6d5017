import StateExplorer.Shell.Builtin.Basic

/-!
# Testing texts, integers and files

An expression is a row of words: operators with one or two operands, joined by "not", "and" and "or".
With three and four words the number of words decides how they are read.
-/

namespace StateExplorer.Shell

open Run

/-- What a word of a test is. -/
inductive TestToken
  | ending
  | operand
  | unary (name : String)
  | binary (name : String)
  | not
  | and
  | or
  | opening
  | closing
deriving DecidableEq

namespace TestToken

/-- The operators with one operand. -/
def unaryNames : List String :=
  ["-r", "-w", "-x", "-e", "-f", "-d", "-c", "-b", "-p", "-u", "-g", "-k", "-s", "-t", "-z", "-n",
    "-h", "-O", "-G", "-L", "-S"]

/-- The operators with two operands. -/
def binaryNames : List String :=
  ["=", "!=", "<", ">", "-eq", "-ne", "-ge", "-gt", "-le", "-lt", "-nt", "-ot", "-ef"]

/-- The operator that a word is. -/
def operator? (word : String) : Option TestToken :=
  if unaryNames.contains word then some (.unary word)
  else if binaryNames.contains word then some (.binary word)
  else match word with
    | "!" => some .not
    | "-a" => some .and
    | "-o" => some .or
    | "(" => some .opening
    | ")" => some .closing
    | _ => none

/-- Whether a word is an operator with two operands. -/
def isBinary (word : String) : Bool := binaryNames.contains word

/-- What the first of words is. An operator with one operand is a plain word where nothing follows, or
where another operator stands between it and its follower; a parenthesis is one where nothing
follows. -/
def ofWords : List String → TestToken
  | [] => .ending
  | word :: rest =>
    match operator? word with
    | some (.unary name) =>
      match rest with
      | [] => .operand
      | [_] => .unary name
      | next :: _ => if isBinary next then .operand else .unary name
    | some .opening => if rest.isEmpty then .operand else .opening
    | some token => token
    | none => .operand

end TestToken

namespace TestExpression

/-- The words that are left of an expression; the first of them is the one at work. -/
abbrev Step (α : Type) := StateT (List String) Run α

/-- The words that are left. -/
def words : Step (List String) := get

/-- Leaves words behind. -/
def skip (n : Nat) : Step Unit := modify (·.drop n)

/-- Fails in the middle of an expression. -/
def refuse {α : Type} (message : String) : Step α := liftM (Run.fail message : Run α)

/-- The integer that a word is. -/
def integer (word : String) : Step Int := do
  let text := word.toList.dropWhile Bytes.isSpace
  let text := (text.reverse.dropWhile Bytes.isSpace).reverse
  match Bytes.int? (String.ofList text) with
  | some n =>
    if -0x8000000000000000 ≤ n && n < 0x8000000000000000 then return n
    else refuse ("Illegal number: " ++ word)
  | none => refuse ("Illegal number: " ++ word)

/-- Whether a test of a path holds. -/
def ofPath (name path : String) : Run Bool := do
  match ← entryAt path with
  | none => return false
  | some entry =>
    match name, entry with
    | "-e", _ => return true
    | "-r", _ => return true
    | "-w", _ => return true
    | "-O", _ => return true
    | "-G", _ => return true
    | "-x", .file _ mode => return (mode &&& 0o111) != 0
    | "-x", .directory => return true
    | "-x", .program _ => return true
    | "-f", .file .. => return true
    | "-f", .program _ => return true
    | "-d", .directory => return true
    | "-c", .void => return true
    | "-s", .directory => return true
    | "-s", .program _ => return true
    | "-s", .file store _ => return !((((← get).stores[store]?).getD "").isEmpty)
    | "-u", .file _ mode => return (mode &&& 0o4000) != 0
    | "-g", .file _ mode => return (mode &&& 0o2000) != 0
    | "-k", .file _ mode => return (mode &&& 0o1000) != 0
    | "-k", .directory => return (← fullPath path) == "/tmp"
    | _, _ => return false

/-- The value of an operator with two operands. -/
def compare (name first second : String) : Step Bool := do
  match name with
  | "=" => return first == second
  | "!=" => return first != second
  | "<" => return decide (first < second)
  | ">" => return decide (second < first)
  | "-nt" | "-ot" => return false
  | "-ef" =>
    let a ← liftM (fullPath first)
    let b ← liftM (fullPath second)
    let exists_ ← liftM (entryAt first)
    return a == b && exists_.isSome
  | _ =>
    let a ← integer first
    let b ← integer second
    match name with
    | "-eq" => return a == b
    | "-ne" => return a != b
    | "-ge" => return decide (b ≤ a)
    | "-gt" => return decide (b < a)
    | "-le" => return decide (a ≤ b)
    | _ => return decide (a < b)

/-- The value of an operator with one operand. -/
def ofWord (name word : String) : Step Bool := do
  match name with
  | "-z" => return word.isEmpty
  | "-n" => return !word.isEmpty
  | "-t" =>
    match Bytes.int? word with
    | some _ => return false
    | none => refuse ("Illegal number: " ++ word)
  | _ => liftM (ofPath name word)

mutual

/-- The value of an operand, an operator or something in parentheses; its last word becomes the one at
work. -/
def primary : (depth : Nat) → TestToken → Step Bool
  | 0, _ => return false
  | _, .ending => return false
  | depth + 1, .opening => do
    skip 1
    let token := TestToken.ofWords (← words)
    if token == .closing then return false
    let value ← disjunction depth token
    skip 1
    if TestToken.ofWords (← words) == .closing then return value
    else refuse "closing paren expected"
  | _, .unary name => do
    skip 1
    match ← words with
    | word :: _ => ofWord name word
    | [] => refuse (name ++ ": argument expected")
  | _, _ => do
    match ← words with
    | first :: rest =>
      match TestToken.ofWords rest with
      | .binary name =>
        match rest with
        | _ :: second :: _ =>
          skip 2
          compare name first second
        | _ => refuse (name ++ ": argument expected")
      | _ => return !first.isEmpty
    | [] => return false

/-- The value of something that may be negated. -/
def negation : (depth : Nat) → TestToken → Step Bool
  | 0, _ => return false
  | depth + 1, .not => do
    let token := TestToken.ofWords ((← words).drop 1)
    if token != .ending then skip 1
    return !(← negation depth token)
  | depth + 1, token => primary depth token

/-- The value of things joined by "and". -/
def conjunction : (depth : Nat) → TestToken → Step Bool
  | 0, _ => return false
  | depth + 1, token => do
    let value ← negation depth token
    if TestToken.ofWords ((← words).drop 1) == .and then
      skip 2
      let next ← conjunction depth (TestToken.ofWords (← words))
      return value && next
    else return value

/-- The value of things joined by "or". -/
def disjunction : (depth : Nat) → TestToken → Step Bool
  | 0, _ => return false
  | depth + 1, token => do
    let value ← conjunction depth token
    if TestToken.ofWords ((← words).drop 1) == .or then
      skip 2
      let next ← disjunction depth (TestToken.ofWords (← words))
      return value || next
    else return value

end

/-- The value of a whole expression, and the words that are left with the last one that was used. -/
def whole (depth : Nat) (token : TestToken) : Step Bool := do
  let value ← disjunction depth token
  match ← words with
  | word :: _ :: _ =>
    refuse (if word.isEmpty then "unexpected operator" else word ++ ": unexpected operator")
  | _ => return value

/-- Whether words hold; a negation in front of three or four words is that of the rest. -/
def evaluate : (more : Nat) → List String → Run Bool
  | 0, _ => return false
  | more + 1, arguments => do
    let depth := 5 * arguments.length + 10
    let plain (arguments : List String) : Run Bool :=
      (whole depth (TestToken.ofWords arguments)).run' arguments
    match arguments with
    | [] => return false
    | [_, op, _] =>
      if TestToken.isBinary op then (whole depth .operand).run' arguments
      else grouped more plain arguments
    | [_, _, _, _] => grouped more plain arguments
    | _ => plain arguments
where
  /-- The value of three or four words that may be negated or stand in parentheses. -/
  grouped (more : Nat) (plain : List String → Run Bool) (arguments : List String) :
      Run Bool := do
    match arguments with
    | "(" :: rest =>
      if rest.getLast? == some ")" then plain rest.dropLast else plain arguments
    | "!" :: rest => return !(← evaluate more rest)
    | _ => plain arguments

end TestExpression

namespace Builtin

/-- Tests its arguments; `bracket` tells whether a closing bracket must be the last of them. -/
def test (bracket : Bool) (arguments : List String) : Run Nat := do
  if bracket && arguments.getLast? != some "]" then fail "missing ]"
  let words := if bracket then arguments.dropLast else arguments
  let holds ← TestExpression.evaluate (words.length + 1) words
  return if holds then 0 else 1

end Builtin

end StateExplorer.Shell
