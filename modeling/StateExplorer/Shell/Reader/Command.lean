import StateExplorer.Shell.Reader.Token

/-!
# Reading commands

A list of commands holds commands, and words hold scripts, so every reader here is given one for
lists that are nested less deeply. A script is read line by line: a line is a list up to a line
end that is not inside a command.
-/

namespace StateExplorer.Shell

/-- Where a list of commands stands: on a line of its own, in the body of a command, or inside a
word. -/
inductive ListPlace
  | line
  | body
  | word
deriving DecidableEq

/-- The builtin commands that no function may replace. -/
def specialBuiltins : List String :=
  [".", ":", "break", "continue", "eval", "exec", "exit", "export", "readonly", "return", "set",
    "shift", "times", "trap", "unset"]

/-- The keywords that end a list of commands. -/
def closingKeywords : List String :=
  ["do", "done", "elif", "else", "esac", "fi", "then", "\x7d"]

/-- Whether a list of commands ends before a token. -/
def Token.closesList (token : Token) : Bool :=
  match token with
  | .ending => true
  | .mark text => text == ")" || text == ";;"
  | _ => token.keyword?.any closingKeywords.contains

namespace Reader

/-- The scripts inside words, by a reader for lists. -/
def innerScripts (list : ListPlace → Reader Script) : InnerScripts where
  whole := list .word
  script := do
    let body ← list .word
    match (← get).peeked with
    | some (.mark ")") =>
      drop
      return body
    | some token => refuse token (some "\")\"") true
    | none => refuse .ending (some "\")\"") true

section

variable (list : ListPlace → Reader Script)

/-- Reads what follows the sign of a redirection. -/
def redirection (stream : Nat) (sign : String) : Reader Redirection := do
  let inner := innerScripts list
  drop
  if sign == "<<" || sign == "<<-" then
    skipBlanks ((← size) + 1)
    match ← delimiter ((← size) + 1) [] false with
    | none => refuse (← peek inner) none false
    | some (text, quoted) =>
      let s ← get
      set { s with
        promised := s.promised + 1
        promises := ⟨s.promised, text, quoted, sign == "<<-"⟩ :: s.promises }
      return .mk stream (.text s.promised)
  else
    match ← peek inner with
    | .word path =>
      drop
      let target := match sign with
        | ">" => Target.write false path
        | ">|" => .write true path
        | ">>" => .append path
        | "<" => .read path
        | "<>" => .readWrite path
        | _ =>
          match plain? path with
          | some "-" => .closed
          | some digits =>
            match digits.toList with
            | [d] => if d.isDigit then .stream (d.toNat - '0'.toNat) else .computed path
            | _ => .computed path
          | none => .computed path
      return .mk stream target
    | token => refuse token none false

/-- Reads the redirections after a command. -/
def redirections : (more : Nat) → Reader (List Redirection)
  | 0 => return []
  | more + 1 => do
    match ← peek (innerScripts list) with
    | .redirect stream sign =>
      let first ← redirection list stream sign
      return first :: (← redirections more)
    | _ => return []

/-- The words of a call that were read, last one first. -/
structure CallParts where
  assignments : List Word
  words : List Word
  redirections : List Redirection

/-- Reads words up to something else. -/
def items : (more : Nat) → Reader (List Word)
  | 0 => return []
  | more + 1 => do
    match ← peek (innerScripts list) with
    | .word w =>
      drop
      return w :: (← items more)
    | _ => return []

/-- Reads the patterns of a case, up to the parenthesis that ends them; anything may stand where a
pattern is wanted. -/
def patterns : (more : Nat) → Reader (List Word)
  | 0 => return []
  | more + 1 => do
    let inner := innerScripts list
    let first ← match ← peek inner with
      | .word w => pure w
      | _ => pure []
    drop
    match ← peek inner with
    | .mark "|" =>
      drop
      return first :: (← patterns more)
    | .mark ")" =>
      drop
      return [first]
    | token => refuse token (some "\")\"") false

/-- Reads the cases of a choice, up to its last word. -/
def cases : (more : Nat) → Reader (List (List Word × Script))
  | 0 => return []
  | more + 1 => do
    let inner := innerScripts list
    let token ← peekBelow inner
    if token.keyword? == some "esac" then
      drop
      return []
    else
      match token with
      | .mark "(" => drop
      | _ => pure ()
      let patterns ← patterns list ((← size) + 2)
      let body ← list .word
      let token ← peekBelow inner
      match token with
      | .mark ";;" =>
        drop
        return (patterns, body) :: (← cases more)
      | _ =>
        if token.keyword? == some "esac" then
          drop
          return [(patterns, body)]
        else refuse token (some "\";;\"") true

/-- Reads the rest of a branch after its first word, up to the last one. -/
def branch : (more : Nat) → Reader Script
  | 0 => return .nothing
  | more + 1 => do
    let inner := innerScripts list
    let condition ← list .body
    expect inner "then" false
    let yes ← list .body
    match (← peek inner).keyword? with
    | some "elif" =>
      drop
      return .branch condition yes (← branch more)
    | some "else" =>
      drop
      let no ← list .body
      expect inner "fi" false
      return .branch condition yes no
    | _ =>
      expect inner "fi" false
      return .branch condition yes .nothing

/-- Reads a repetition after its first word. -/
def each (line : Nat) : Reader Script := do
  let inner := innerScripts list
  let name ← match ← peek inner with
    | .word w =>
      match (plain? w).filter isName with
      | some name => pure name
      | none => fail "Syntax error: Bad for loop variable"
    | _ => fail "Syntax error: Bad for loop variable"
  drop
  let words ← match (← peekBelow inner).keyword? with
    | some "in" => do
      drop
      let words ← items list ((← size) + 2)
      match ← peek inner with
      | .lineEnd => drop
      | .mark ";" => drop
      | token => refuse token none false
      pure words
    | _ => do
      match ← peek inner with
      | .mark ";" => drop
      | _ => pure ()
      pure [[Piece.parameter "@" .value true]]
  expect inner "do" true
  let body ← list .body
  expect inner "done" false
  return .each line name words body

/-- Reads a choice after its first word. -/
def choice (line : Nat) : Reader Script := do
  let inner := innerScripts list
  match ← peek inner with
  | .word subject =>
    drop
    expect inner "in" true
    return .choice line subject (← cases list ((← size) + 2))
  | token => refuse token (some "word") false

/-- Reads a call whose first token was looked at, or the definition of a function; `body` reads the
command that a function stands for. -/
def call (body : Reader Script) (line : Nat) : (more : Nat) → CallParts → Reader Script
  | 0, parts =>
    return .call line parts.assignments.reverse parts.words.reverse parts.redirections.reverse
  | more + 1, parts => do
    let inner := innerScripts list
    match ← (if parts.words.isEmpty then peekCommand inner 100 else peek inner) with
    | .word w =>
      drop
      if parts.words.isEmpty && (assignment? w).isSome then
        call body line more { parts with assignments := w :: parts.assignments }
      else call body line more { parts with words := w :: parts.words }
    | .redirect stream sign =>
      let r ← redirection list stream sign
      call body line more { parts with redirections := r :: parts.redirections }
    | .mark "(" =>
      match parts with
      | ⟨[], [w], []⟩ =>
        drop
        expectMark inner ")" false
        match (constant? w).filter fun name => isName name && !specialBuiltins.contains name with
        | some name =>
          let _ ← peekBelow inner
          return .define name (← body)
        | none => fail "Syntax error: Bad function name"
      | _ =>
        return .call line parts.assignments.reverse parts.words.reverse parts.redirections.reverse
    | _ =>
      return .call line parts.assignments.reverse parts.words.reverse parts.redirections.reverse

/-- Reads a command that starts with a keyword or a parenthesis, if one stands here. -/
def compound? (line : Nat) : Reader (Option Script) := do
  let inner := innerScripts list
  let token ← peek inner
  match token with
  | .mark "(" =>
    drop
    let body ← list .body
    expectMark inner ")" true
    return some (.subshell line body [])
  | _ =>
    match token.keyword? with
    | some "\x7b" =>
      drop
      let body ← list .body
      expect inner "\x7d" false
      return some body
    | some "if" =>
      drop
      return some (← branch list ((← size) + 2))
    | some "while" =>
      drop
      let condition ← list .body
      expect inner "do" false
      let body ← list .body
      expect inner "done" false
      return some (.loop false condition body)
    | some "until" =>
      drop
      let condition ← list .body
      expect inner "do" false
      let body ← list .body
      expect inner "done" false
      return some (.loop true condition body)
    | some "for" =>
      drop
      return some (← each list line)
    | some "case" =>
      drop
      return some (← choice list line)
    | some _ => refuse token none true
    | none => return none

/-- Reads a command; functions can be defined one inside another at most so deep. -/
def command : (depth : Nat) → Reader Script
  | 0 => fail "Syntax error: too deep"
  | depth + 1 => do
    let inner := innerScripts list
    let token ← peekCommand inner 100
    let line := (← get).line
    match ← compound? list line with
    | some script =>
      match script, ← redirections list ((← size) + 2) with
      | script, [] => return script
      | .subshell line body _, rs => return .subshell line body rs
      | script, rs => return .redirected line script rs
    | none =>
      match token with
      | .word _ => call list (command depth) line ((← size) + 2) ⟨[], [], []⟩
      | .redirect .. => call list (command depth) line ((← size) + 2) ⟨[], [], []⟩
      | token => refuse token none true

/-- Reads the commands of a pipeline after the first one. -/
def piped : (more : Nat) → Reader (List Script)
  | 0 => return []
  | more + 1 => do
    let inner := innerScripts list
    match ← peek inner with
    | .mark "|" =>
      drop
      let _ ← peekBelow inner
      let next ← command list ((← size) + 2)
      return next :: (← piped more)
    | _ => return []

/-- Reads a pipeline. -/
def pipeline : Reader Script := do
  let inner := innerScripts list
  let negates := (← peekCommand inner 100).keyword? == some "!"
  if negates then drop
  let first ← command list ((← size) + 2)
  let rest ← piped list ((← size) + 2)
  let script := if rest.isEmpty then first else .pipe (first :: rest)
  return if negates then .negated script else script

/-- Reads what is joined to a pipeline by success or failure. -/
def joined : (more : Nat) → (first : Script) → Reader Script
  | 0, first => return first
  | more + 1, first => do
    let inner := innerScripts list
    match ← peek inner with
    | .mark "&&" =>
      drop
      let _ ← peekBelow inner
      joined more (.both first (← pipeline list))
    | .mark "||" =>
      drop
      let _ ← peekBelow inner
      joined more (.either first (← pipeline list))
    | _ => return first

/-- The command that commands one after another are; they are given last one first. -/
def sequence : List Script → Script
  | [] => .nothing
  | [script] => script
  | scripts => .sequence scripts.reverse

/-- Reads a list of commands in its place, after those read so far, which are given last one
first. -/
def commands (place : ListPlace) : (more : Nat) → (taken : List Script) → Reader Script
  | 0, taken => return sequence taken
  | more + 1, taken => do
    let inner := innerScripts list
    let token ← if place == .line then peek inner else peekBelow inner
    let mayClose := place == .word || (place == .body && !taken.isEmpty)
    match token with
    | .lineEnd =>
      drop
      return sequence taken
    | .ending => return sequence taken
    | _ =>
      if mayClose && token.closesList then return sequence taken
      else
        let script ← joined list ((← size) + 2) (← pipeline list)
        match ← peek inner with
        | .mark ";" =>
          drop
          commands place more (script :: taken)
        | .mark "&" =>
          drop
          commands place more (.background script :: taken)
        | .lineEnd =>
          drop
          if place == .line then return sequence (script :: taken)
          else commands place more (script :: taken)
        | .ending => return sequence (script :: taken)
        | token =>
          if place == .line then refuse token none true
          else return sequence (script :: taken)

end

/-- Reads a list of commands; commands are nested at most so deep. -/
def list : (depth : Nat) → ListPlace → Reader Script
  | 0, _ => fail "Syntax error: too deep"
  | depth + 1, place => do commands (list depth) place ((← size) + 2) []

end Reader

/-- The word that a text is in which only what is put in counts. -/
def Word.ofText (text : String) : Except Fault Word := do
  let depth := text.length + 2
  let inner := Reader.innerScripts (Reader.list depth)
  let (word, _) ← (Reader.pieces inner depth ⟨.lines, false, false⟩ 0 []).run (Source.ofText text)
  return word

/-- Reads the next line of a script, if there is one, and gives what is left. -/
def Line.read (source : Source) : Except Fault (Option (Line × Source)) := do
  let depth := source.rest.length + 2
  let inner := Reader.innerScripts (Reader.list depth)
  match ← (Reader.peek inner).run source with
  | (.ending, _) => return none
  | (_, s) =>
    let (script, s) ← (Reader.list depth .line).run s
    return some (⟨script, s.texts⟩, { s with texts := [], promised := 0 })

end StateExplorer.Shell
