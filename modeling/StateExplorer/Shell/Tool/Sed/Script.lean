import StateExplorer.Shell.Bytes
import StateExplorer.Shell.Regex

/-!
# Scripts that edit lines

A script is a row of commands. Each has addresses that tell for which lines it is run. Blocks are kept
flat: a command opens a block and another one closes it.
-/

namespace StateExplorer.Shell.Sed

/-- A regular expression with the way it is matched and how many groups it has. -/
structure Pattern where
  regex : Regex
  folds : Bool
  manyLines : Bool
  groups : Nat

/-- The address of lines: one line, the last one, each so many lines, or those that match; without an
expression the one that was used last counts. -/
inductive Address
  | line (number : Nat)
  | last
  | step (first each : Nat)
  | regex (pattern : Option Pattern)

/-- The end of a range of lines: a line, the last one, one that matches, so many lines more, or the
next multiple of a number. -/
inductive RangeEnd
  | line (number : Nat)
  | last
  | regex (pattern : Option Pattern)
  | more (count : Nat)
  | multiple (number : Nat)

/-- For which lines a command is run. -/
structure Condition where
  first : Option Address
  last : Option RangeEnd
  negated : Bool

/-- A part of a replacement: text, what a group matched, or a change between small and large
letters. -/
inductive Part
  | text (text : List Char)
  | group (number : Nat)
  | letters (mark : Char)

/-- A substitution. -/
structure Substitution where
  pattern : Option Pattern
  parts : List Part
  all : Bool
  from_ : Nat
  prints : Bool
  path : Option String

/-- What a command does. -/
inductive Action
  | open_
  | close
  | append (text : String)
  | insert (text : String)
  | change (text : String)
  | label (name : String)
  | branch (name : String)
  | branchIf (name : String)
  | branchUnless (name : String)
  | quit (prints : Bool) (status : Nat)
  | readFile (path : String)
  | readLine (path : String)
  | writeFile (path : String)
  | writeFirst (path : String)
  | substitute (substitution : Substitution)
  | translate (table : List (Char × Char))
  | show_ (width : Option Nat)
  | plain (letter : Char)

/-- A command with its addresses. -/
structure Command where
  condition : Condition
  action : Action

/-! ## Reading -/

/-- Why a script cannot be read, and after how many characters that shows. -/
structure Fault where
  place : Nat
  message : String

/-- What is left of a script, its size, and whether expressions are extended ones. -/
structure Reading where
  rest : List Char
  size : Nat
  extended : Bool

/-- Reads a part of a script. -/
abbrev Reader (α : Type) := StateT Reading (Except Fault) α

/-- Fails after so many more characters than were taken. -/
def failAfter {α : Type} (more : Nat) (message : String) : Reader α := do
  let r ← get
  throw ⟨min (r.size - r.rest.length + more) r.size, message⟩

/-- Fails at the place that is reached. -/
def fail {α : Type} (message : String) : Reader α := failAfter 0 message

/-- Fails at the place where a rest begins. -/
def failBefore {α : Type} (rest : List Char) (message : String) : Reader α := do
  throw ⟨(← get).size - rest.length, message⟩

/-- Fails without a place. -/
def failNowhere {α : Type} (message : String) : Reader α := throw ⟨0, message⟩

/-- What is left. -/
def left : Reader (List Char) := return (← get).rest

/-- Goes on with a text. -/
def goOn (rest : List Char) : Reader Unit := modify fun r => { r with rest := rest }

/-- Leaves characters behind as long as they are of a kind, and gives them. -/
def takeWhile (holds : Char → Bool) : Reader (List Char) := do
  let (taken, rest) := (← left).span holds
  goOn rest
  return taken

/-- A blank inside a line. -/
def isBlank (c : Char) : Bool := Bytes.isSpace c && c != '\n'

/-- Leaves blanks behind. -/
def skipBlanks : Reader Unit := do
  let _ ← takeWhile isBlank

/-- A number, if one stands here. -/
def number? : Reader (Option Nat) := do
  match ← takeWhile Char.isDigit with
  | [] => return none
  | digits => return some (spanDigits 10 digits).1

/-- Whether a bracket begins with its closing sign or a caret and that sign. -/
def bracketStart (text : List Char) : List Char :=
  match text with
  | '^' :: ']' :: _ => ['^', ']']
  | '^' :: _ => ['^']
  | ']' :: _ => [']']
  | _ => []

/-- The characters of a bracket up to its end, with it. -/
def bracketRest : (more : Nat) → List Char → Option (List Char × List Char)
  | 0, _ => none
  | _, [] => none
  | _, ']' :: rest => some ([']'], rest)
  | more + 1, '[' :: c :: rest =>
    if c == ':' || c == '.' || c == '=' then
      let (name, after) := rest.span (· != c)
      match after with
      | _ :: ']' :: after =>
        (bracketRest more after).map fun (inside, rest) =>
          ('[' :: c :: name ++ [c, ']'] ++ inside, rest)
      | _ => (bracketRest more (c :: rest)).map fun (inside, rest) => ('[' :: inside, rest)
    else (bracketRest more (c :: rest)).map fun (inside, rest) => ('[' :: inside, rest)
  | more + 1, c :: rest =>
    (bracketRest more rest).map fun (inside, rest) => (c :: inside, rest)

/-- The characters up to a mark, and what is left after it; or what is left where the line ends before.
The mark may stand after a backslash, and in an expression inside of brackets. In an expression a
backslash and the letter n are a line feed. -/
def untilMark (mark : Char) (isRegex : Bool) : (more : Nat) → List Char →
    Except (List Char) (List Char × List Char)
  | 0, text => .error text
  | _, [] => .error []
  | more + 1, '\\' :: c :: rest =>
    (untilMark mark isRegex more rest).map fun (inside, rest) =>
      if c == mark then
        let keepsMark := !isRegex || ['.', '*', '[', ']', '^', '$'].contains c
        ((if keepsMark then ['\\', c] else [c]) ++ inside, rest)
      else if c == 'n' && isRegex then ('\n' :: inside, rest)
      else ('\\' :: c :: inside, rest)
  | more + 1, c :: rest =>
    if c == mark then .ok ([], rest)
    else if c == '\n' then .error (c :: rest)
    else if c == '[' && isRegex then
      let start := bracketStart rest
      let unfinished := Except.error (rest.dropWhile (· != '\n'))
      match bracketRest more (rest.drop start.length) with
      | some (inside, after) =>
        if inside.contains '\n' then unfinished
        else
          (untilMark mark isRegex more after).map fun (next, rest) =>
            ('[' :: start ++ inside ++ next, rest)
      | none => unfinished
    else (untilMark mark isRegex more rest).map fun (inside, rest) => (c :: inside, rest)

/-- A character by its number after a backslash and a letter. -/
def numberedChar? (text : List Char) : Option (Char × List Char) :=
  let value (base most : Nat) (digits : List Char) : Option (Char × List Char) :=
    let (n, count, _) := spanDigits base (digits.take most)
    if count == 0 then none else some (Char.ofNat (n % 256), digits.drop count)
  match text with
  | 'x' :: digits => value 16 2 digits
  | 'o' :: digits => value 8 3 digits
  | 'd' :: digits => value 10 3 digits
  | 'c' :: c :: rest => some (Char.ofNat (c.toUpper.toNat ^^^ 64), rest)
  | _ => none

/-- A text in which letters after backslashes that stand for control characters are carried out. Where
`keeps` is set, a character that has a meaning of its own keeps its backslash. -/
def carryOut (keeps : Char → Bool) : (more : Nat) → List Char → List Char
  | 0, _ => []
  | _, [] => []
  | more + 1, '\\' :: c :: rest =>
    match c with
    | 'a' => '\x07' :: carryOut keeps more rest
    | 'f' => '\x0c' :: carryOut keeps more rest
    | 't' => '\t' :: carryOut keeps more rest
    | 'r' => '\r' :: carryOut keeps more rest
    | 'v' => '\x0b' :: carryOut keeps more rest
    | _ =>
      match numberedChar? (c :: rest) with
      | some (d, rest) =>
        if keeps d then '\\' :: d :: carryOut keeps more rest else d :: carryOut keeps more rest
      | none => '\\' :: c :: carryOut keeps more rest
  | more + 1, c :: rest => c :: carryOut keeps more rest

/-- What stands before a place of a plain expression: the start of a branch, an edge, an item, or a
repetition. -/
inductive Before where
  | start
  | edge
  | item
  | repetition
deriving DecidableEq

/-- Whether a plain expression repeats something that is repeated already, or has an interval where
nothing stands that could be repeated. -/
def repeatsWrongly : (more : Nat) → Before → List Char → Bool
  | 0, _, _ => false
  | _, _, [] => false
  | more + 1, before, '\\' :: c :: rest =>
    if c == '{' then before != .item || repeatsWrongly more .item rest
    else if c == '}' then repeatsWrongly more .repetition rest
    else if c == '+' || c == '?' then
      repeatsWrongly more (if before == .start || before == .edge then .item else .repetition) rest
    else if c == '(' || c == '|' then repeatsWrongly more .start rest
    else
      let isEdge := ['b', 'B', '<', '>', '\x60', '\''].contains c
      repeatsWrongly more (if isEdge then .edge else .item) rest
  | more + 1, before, c :: rest =>
    match c with
    | '[' =>
      match bracketRest more (rest.drop (bracketStart rest).length) with
      | some (_, rest) => repeatsWrongly more .item rest
      | none => false
    | '*' =>
      match before with
      | .start | .edge => repeatsWrongly more .item rest
      | .item => repeatsWrongly more .repetition rest
      | .repetition => true
    | '^' => repeatsWrongly more (if before == .start then .edge else .item) rest
    | _ => repeatsWrongly more .item rest

/-- What is wrong with an extended expression, in which nothing may be repeated that is not there, each
closing parenthesis has an opening one, and a brace is always part of an interval. `atStart` tells
whether a branch starts here, and `depth` counts the open groups. -/
def extendedFault? : (more : Nat) → (atStart : Bool) → (depth : Nat) → List Char → Option String
  | 0, _, _, _ => none
  | _, _, _, [] => none
  | more + 1, atStart, depth, c :: rest =>
    match c with
    | '\\' =>
      let isEdge := rest.head?.any fun d => ['b', 'B', '<', '>', '\x60', '\''].contains d
      extendedFault? more isEdge depth rest.tail
    | '[' =>
      match bracketRest more (rest.drop (bracketStart rest).length) with
      | some (_, rest) => extendedFault? more false depth rest
      | none => none
    | '(' => extendedFault? more true (depth + 1) rest
    | '|' => extendedFault? more true depth rest
    | '^' | '$' => extendedFault? more true depth rest
    | ')' =>
      if depth == 0 then some Regex.Fault.groupEnd.message
      else extendedFault? more false (depth - 1) rest
    | '*' | '+' | '?' | '{' =>
      if atStart then some "Invalid preceding regular expression"
      else if c == '{' then
        match Regex.interval true rest with
        | .ok (_, _, rest) => extendedFault? more false depth rest
        | .error fault => some fault.message
      else extendedFault? more false depth rest
    | _ => extendedFault? more false depth rest

/-- The pattern of a text and its flags; an empty text asks for the one used last. -/
def pattern (text : List Char) (folds manyLines : Bool) : Reader (Option Pattern) := do
  if text.isEmpty then return none
  else
    let isMark (c : Char) : Bool :=
      ['*', '.', '[', ']', '^', '$', '\\', '/', '+', '?', '(', ')', '{', '}', '|'].contains c
    let text := carryOut isMark (text.length + 1) text
    let extended := (← get).extended
    if !extended && repeatsWrongly (text.length + 1) .start text then
      fail "Invalid preceding regular expression"
    if extended then
      match extendedFault? (text.length + 1) true 0 text with
      | some message => fail message
      | none => pure ()
    match Regex.read extended false (String.ofList text) with
    | .ok (regex, groups) => return some ⟨regex, folds, manyLines, groups⟩
    | .error fault => fail fault.message

/-- The flags after the expression of an address. -/
def addressFlags : (more : Nat) → (folds manyLines : Bool) → Reader (Bool × Bool)
  | 0, folds, manyLines => return (folds, manyLines)
  | more + 1, folds, manyLines => do
    match ← left with
    | 'I' :: rest =>
      goOn rest
      addressFlags more true manyLines
    | 'M' :: rest =>
      goOn rest
      addressFlags more folds true
    | _ => return (folds, manyLines)

/-- An expression of an address after its first mark. -/
def addressRegex (mark : Char) : Reader (Option Pattern) := do
  let text ← left
  match untilMark mark true (text.length + 1) text with
  | .error rest => failBefore rest "unterminated address regex"
  | .ok (inside, rest) =>
    goOn rest
    let (folds, manyLines) ← addressFlags (rest.length + 1) false false
    pattern inside folds manyLines

/-- The first address, if there is one. -/
def address? : Reader (Option Address) := do
  match ← left with
  | '$' :: rest =>
    goOn rest
    return some .last
  | '/' :: rest =>
    goOn rest
    return some (.regex (← addressRegex '/'))
  | '\\' :: mark :: rest =>
    goOn rest
    return some (.regex (← addressRegex mark))
  | ['\\'] => failAfter 1 "unterminated address regex"
  | c :: _ =>
    if c.isDigit then
      let n := (← number?).getD 0
      skipBlanks
      match ← left with
      | '~' :: rest =>
        goOn rest
        return some (.step n ((← number?).getD 0))
      | _ => return some (.line n)
    else if c == '+' || c == '~' then
      goOn (← left).tail
      failAfter (if (← number?).isSome then 0 else 1) "invalid usage of +N or ~N as first address"
    else return none
  | [] => return none

/-- The second address after its comma. -/
def rangeEnd : Reader RangeEnd := do
  skipBlanks
  match ← left with
  | '+' :: rest =>
    goOn rest
    return .more ((← number?).getD 0)
  | '~' :: rest =>
    goOn rest
    return .multiple ((← number?).getD 0)
  | _ =>
    match ← address? with
    | some (.line n) => return .line n
    | some .last => return .last
    | some (.regex p) => return .regex p
    | some (.step n _) => return .line n
    | none => failAfter 1 "unexpected \x60,'"

/-- The addresses of a command. -/
def condition : Reader Condition := do
  let first ← address?
  match first with
  | none => return ⟨none, none, false⟩
  | some first =>
    skipBlanks
    let last ← match ← left with
      | ',' :: rest => do
        goOn rest
        pure (some (← rangeEnd))
      | _ => pure none
    match first, last with
    | .line 0, some (.regex _) => pure ()
    | .line 0, _ => failAfter 1 "invalid usage of line address 0"
    | _, _ => pure ()
    return ⟨some first, last, false⟩

/-- Takes the end of a command: a line end, a semicolon, or what ends it without being taken. -/
def endCommand : Reader Unit := do
  skipBlanks
  match ← left with
  | [] => pure ()
  | '\n' :: rest => goOn rest
  | ';' :: rest => goOn rest
  | '}' :: _ => pure ()
  | '#' :: _ => pure ()
  | _ => failAfter 1 "extra characters after command"

/-- The lines of a text that is given with a command: a backslash before a line end goes on with the
next line, other backslashes vanish. -/
def givenText : (more : Nat) → List Char → List Char × List Char
  | 0, _ => ([], [])
  | _, [] => ([], [])
  | _, ['\\'] => ([], [])
  | _, '\n' :: rest => ([], rest)
  | more + 1, '\\' :: c :: rest =>
    let (text, rest) := givenText more rest
    (c :: text, rest)
  | more + 1, c :: rest =>
    let (text, rest) := givenText more rest
    (c :: text, rest)

/-- Reads the text of a command that adds or changes lines. -/
def textOfCommand : Reader String := do
  skipBlanks
  let text ← left
  let isEmpty := match text with
    | [] => true
    | '\n' :: _ => true
    | _ => false
  if isEmpty then fail "expected \\ after \x60a', \x60c' or \x60i'"
  let (body, atOnce) := match text with
    | '\\' :: '\n' :: rest => (rest, true)
    | '\\' :: rest =>
      match rest.dropWhile isBlank with
      | '\n' :: after => (after, true)
      | _ => (rest, true)
    | text => (text, false)
  if body.isEmpty && atOnce then
    goOn []
    return ""
  else
    let escaped := carryNewlines (body.length + 1) (carryOut (fun _ => false) (body.length + 1) body)
    let (text, rest) := givenText (escaped.length + 1) escaped
    goOn rest
    return String.ofList text ++ "\n"
where
  /-- A text in which a backslash and the letter n are a line feed after a backslash. -/
  carryNewlines : (more : Nat) → List Char → List Char
    | 0, _ => []
    | _, [] => []
    | more + 1, '\\' :: 'n' :: rest => '\\' :: '\n' :: carryNewlines more rest
    | more + 1, '\\' :: c :: rest => '\\' :: c :: carryNewlines more rest
    | more + 1, c :: rest => c :: carryNewlines more rest

/-- The name of a file up to the end of a line. -/
def fileName : Reader String := do
  skipBlanks
  let name ← takeWhile (· != '\n')
  if name.isEmpty then fail "missing filename in r/R/w/W commands"
  match ← left with
  | _ :: rest => goOn rest
  | [] => pure ()
  return String.ofList name

/-- The name of a label. -/
def labelName : Reader String := do
  skipBlanks
  let name ← takeWhile fun c => c != ';' && c != '}' && c != '#' && !c.isWhitespace
  return String.ofList name

/-- The parts of a replacement. -/
def replacement : (more : Nat) → List Char → List Part
  | 0, _ => []
  | _, [] => []
  | more + 1, '&' :: rest => .group 0 :: replacement more rest
  | more + 1, '\\' :: c :: rest =>
    if c.isDigit then .group (c.toNat - '0'.toNat) :: replacement more rest
    else if ['L', 'U', 'E', 'l', 'u'].contains c then .letters c :: replacement more rest
    else .text [if c == 'n' then '\n' else c] :: replacement more rest
  | more + 1, c :: rest => .text [c] :: replacement more rest

/-- The flags of a substitution. -/
structure Flags where
  all : Bool
  count : Option Nat
  prints : Bool
  folds : Bool
  manyLines : Bool
  path : Option String

/-- Reads the flags of a substitution up to the end of the command. -/
def flags : (more : Nat) → Flags → Reader Flags
  | 0, f => return f
  | more + 1, f => do
    let text ← left
    match text with
    | [] => return f
    | '\n' :: rest =>
      goOn rest
      return f
    | ';' :: rest =>
      goOn rest
      return f
    | '}' :: _ => return f
    | '#' :: _ => return f
    | c :: rest =>
      if isBlank c then
        goOn rest
        flags more f
      else if c.isDigit then
        if f.count.isSome then failAfter 1 "multiple number options to \x60s' command"
        let n := (← number?).getD 0
        if n == 0 then fail "number option to \x60s' command may not be zero"
        flags more { f with count := some n }
      else
        goOn rest
        match c with
        | 'g' =>
          if f.all then fail "multiple \x60g' options to \x60s' command"
          flags more { f with all := true }
        | 'p' =>
          if f.prints then fail "multiple \x60p' options to \x60s' command"
          flags more { f with prints := true }
        | 'i' | 'I' => flags more { f with folds := true }
        | 'm' | 'M' => flags more { f with manyLines := true }
        | 'e' => flags more f
        | 'w' => return { f with path := some (← fileName) }
        | _ => fail "unknown option to \x60s'"

/-- The largest number of a group that a replacement uses. -/
def largestGroup (parts : List Part) : Nat :=
  parts.foldl (fun n part => match part with
    | .group m => max n m
    | _ => n) 0

/-- Reads a substitution after its letter. -/
def substitution : Reader Action := do
  let text ← left
  let unterminated {α : Type} (rest : List Char) : Reader α :=
    failBefore rest "unterminated \x60s' command"
  match text with
  | [] => unterminated []
  | mark :: rest =>
    if mark == '\n' || mark == '\\' then unterminated []
    match untilMark mark true (rest.length + 1) rest with
    | .error rest => unterminated rest
    | .ok (regex, rest) =>
      match untilMark mark false (rest.length + 1) rest with
      | .error rest => unterminated rest
      | .ok (put, rest) =>
        goOn rest
        let f ← flags (rest.length + 1) ⟨false, none, false, false, false, none⟩
        let pattern ← pattern regex f.folds f.manyLines
        let put := carryOut (fun c => c == '&' || c == '\\') (put.length + 1) put
        let put := if mark == '/' then put else put
        let parts := replacement (put.length + 1) put
        match pattern with
        | some p =>
          if p.groups < largestGroup parts then
            fail ("invalid reference \\" ++ toString (largestGroup parts) ++
              " on \x60s' command's RHS")
        | none => pure ()
        return .substitute ⟨pattern, parts, f.all, f.count.getD 1, f.prints, f.path⟩

/-- The characters of one side of a translation. -/
def translationSide (mark : Char) : (more : Nat) → List Char → List Char
  | 0, _ => []
  | _, [] => []
  | more + 1, '\\' :: c :: rest =>
    let d :=
      if c == mark || c == '\\' then [c] else if c == 'n' then ['\n'] else ['\\', c]
    d ++ translationSide mark more rest
  | more + 1, c :: rest => c :: translationSide mark more rest

/-- Reads a translation after its letter. -/
def translation : Reader Action := do
  let text ← left
  let unterminated {α : Type} (rest : List Char) : Reader α :=
    failBefore rest "unterminated \x60y' command"
  match text with
  | [] => unterminated []
  | mark :: rest =>
    match untilMark mark false (rest.length + 1) rest with
    | .error rest => unterminated rest
    | .ok (from_, rest) =>
      match untilMark mark false (rest.length + 1) rest with
      | .error rest => unterminated rest
      | .ok (to_, rest) =>
        goOn rest
        let side (text : List Char) : List Char :=
          translationSide mark (text.length + 1)
            (carryOut (fun c => c == '\\') (text.length + 1) text)
        let a := side from_
        let b := side to_
        if a.length != b.length then fail "strings for \x60y' command are different lengths"
        endCommand
        return .translate (a.zip b)

/-- Reads what a command does, by its letter, which was taken. -/
def action (condition : Condition) (letter : Char) : Reader Action := do
  let one : Reader Unit := do
    if condition.last.isSome then fail "command only uses one address"
  match letter with
  | '{' => return .open_
  | '}' =>
    if condition.first.isSome then fail "\x7d doesn't want any addresses"
    endCommand
    return .close
  | 'a' => return .append (← textOfCommand)
  | 'i' => return .insert (← textOfCommand)
  | 'c' => return .change (← textOfCommand)
  | ':' =>
    if condition.first.isSome then fail ": doesn't want any addresses"
    let name ← labelName
    if name.isEmpty then fail "\":\" lacks a label"
    return .label name
  | 'b' | 't' | 'T' =>
    let name ← labelName
    return match letter with
      | 'b' => .branch name
      | 't' => .branchIf name
      | _ => .branchUnless name
  | 'q' | 'Q' =>
    one
    skipBlanks
    let status := (← number?).getD 0
    endCommand
    return .quit (letter == 'q') status
  | 'l' | 'L' =>
    skipBlanks
    let width ← number?
    endCommand
    return .show_ width
  | 'r' => return .readFile (← fileName)
  | 'R' => return .readLine (← fileName)
  | 'w' => return .writeFile (← fileName)
  | 'W' => return .writeFirst (← fileName)
  | 's' => substitution
  | 'y' => translation
  | '=' | 'd' | 'D' | 'e' | 'F' | 'g' | 'G' | 'h' | 'H' | 'n' | 'N' | 'p' | 'P' | 'z' | 'x' =>
    endCommand
    return .plain letter
  | 'v' =>
    let _ ← takeWhile fun c => c != '\n' && c != ';'
    endCommand
    return .plain 'v'
  | c => fail ("unknown command: \x60" ++ String.singleton c ++ "'")

/-- Reads commands, at most so many; `depth` counts the open blocks. -/
def commands : (more : Nat) → (depth : Nat) → Reader (List Command)
  | 0, _ => return []
  | more + 1, depth => do
    let _ ← takeWhile fun c => Bytes.isSpace c || c == ';'
    match ← left with
    | [] =>
      if 0 < depth then failNowhere "unmatched \x60\x7b'"
      return []
    | '#' :: rest =>
      goOn (rest.dropWhile (· != '\n'))
      commands more depth
    | _ =>
      let condition ← condition
      skipBlanks
      let condition ← match ← left with
        | '!' :: rest => do
          goOn rest
          skipBlanks
          match ← left with
          | '!' :: _ => failAfter 1 "multiple \x60!'s"
          | _ => pure ()
          pure { condition with negated := true }
        | _ => pure condition
      match ← left with
      | [] => fail "missing command"
      | '#' :: _ => failAfter 1 "comments don't accept any addresses"
      | letter :: rest =>
        goOn rest
        if letter == '}' && depth == 0 then fail "unexpected \x60\x7d'"
        let action ← action condition letter
        let depth := match action with
          | .open_ => depth + 1
          | .close => depth - 1
          | _ => depth
        return ⟨condition, action⟩ :: (← commands more depth)

/-- The commands of a script. -/
def read (extended : Bool) (text : String) : Except Fault (List Command) := do
  let chars := text.toList
  let (commands, _) ← (commands (chars.length + 2) 0).run ⟨chars, chars.length, extended⟩
  return commands

end StateExplorer.Shell.Sed
