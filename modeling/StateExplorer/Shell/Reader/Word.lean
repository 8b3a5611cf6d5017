import StateExplorer.Shell.Reader.Source

/-!
# Reading words

How a character counts depends on where it stands: in an open word, between double quotes, in a
text of its own, or in an integer expression; and each of these may also stand between the braces
of a parameter. What is put into a word can hold whole scripts, which are read by a reader for
scripts that is given.
-/

namespace StateExplorer.Shell

/-- Where characters of a word stand. -/
inductive Place
  | plain
  | quotes
  | lines
  | expression
deriving DecidableEq

/-- A place, whether braces are open around it, and whether double quotes are open inside those, so that
the next brace closes nothing. -/
structure Setting where
  place : Place
  braced : Bool
  holds : Bool

/-- Whether what is read here is quoted. -/
def Setting.isQuoted (setting : Setting) : Bool := setting.place != .plain

/-- A character that ends an open word. -/
def endsWord (c : Char) : Bool :=
  [' ', '\t', '\n', ';', '&', '|', '<', '>', '(', ')'].contains c

/-- Whether a character stands for itself in a setting. -/
def Setting.isPlain (setting : Setting) (c : Char) : Bool :=
  ! ['$', '\x60', '\\', '"', '\'', '}', '(', ')'].contains c &&
    (setting.place != .plain || setting.braced || !endsWord c)

/-- Puts neighbouring open literals together. -/
def joinLiterals : List Piece → List Piece
  | .literal a false :: rest =>
    match joinLiterals rest with
    | .literal b false :: rest => .literal (a ++ b) false :: rest
    | rest => .literal a false :: rest
  | piece :: rest => piece :: joinLiterals rest
  | [] => []

/-- The inside of old-style marks around a script: a backslash before a dollar sign, a backslash
or such a mark vanishes, between double quotes also one before a double quote. -/
def untilBacktick (inQuotes : Bool) : List Char → Option (List Char × Nat × List Char)
  | [] => none
  | '\x60' :: rest => some ([], 0, rest)
  | '\\' :: '\n' :: rest =>
    (untilBacktick inQuotes rest).map fun (inside, n, rest) => (inside, n + 1, rest)
  | '\\' :: c :: rest =>
    (untilBacktick inQuotes rest).map fun (inside, n, rest) =>
      let drops := c == '\\' || c == '\x60' || c == '$' || (inQuotes && c == '"')
      ((if drops then [c] else ['\\', c]) ++ inside, if c == '\n' then n + 1 else n, rest)
  | c :: rest =>
    (untilBacktick inQuotes rest).map fun (inside, n, rest) =>
      (c :: inside, if c == '\n' then n + 1 else n, rest)

/-- The parameters whose names are marks. -/
def isSpecial (c : Char) : Bool :=
  ['@', '*', '#', '?', '-', '$', '!', '0'].contains c || c.isDigit

/-- What an operator after a parameter's name asks for, if it is one. -/
def useOf? (evenEmpty : Bool) (word : Word) : Char → Option Use
  | '-' => some (.fallback evenEmpty word)
  | '+' => some (.instead evenEmpty word)
  | '?' => some (.demand evenEmpty word)
  | '=' => some (.assign evenEmpty word)
  | _ => none

/-- Reads scripts inside a word: `script` one up to a parenthesis, `whole` one from its first to
its last line. -/
structure InnerScripts where
  script : Reader Script
  whole : Reader Script

namespace Reader

/-- Takes the characters of a parameter's name. -/
def parameterName (isPart : Char → Bool) : (more : Nat) → (taken : List Char) → Reader String
  | 0, taken => return String.ofList taken.reverse
  | more + 1, taken => do
    match ← next? with
    | some c =>
      if isPart c then
        take
        parameterName isPart more (c :: taken)
      else return String.ofList taken.reverse
    | none => return String.ofList taken.reverse

/-- How many characters are left. -/
def size : Reader Nat := return (← get).rest.length

/-- Reads a script between old-style marks. -/
def oldScript (inner : InnerScripts) (inQuotes : Bool) : Reader Script := do
  let s ← get
  match untilBacktick inQuotes s.rest with
  | none => fail "Syntax error: EOF in backquote substitution"
  | some (inside, n, rest) =>
    set { s with rest := inside, line := 1, peeked := none, promises := [] }
    let script ← inner.whole
    modify fun t => { t with
      rest := rest
      line := s.line + n
      peeked := s.peeked
      promises := s.promises }
    return script

/-- Reads a script up to the parenthesis that closes it. -/
def newScript (inner : InnerScripts) : Reader Script := do
  let s ← get
  set { s with peeked := none }
  let script ← inner.script
  modify fun t => { t with peeked := s.peeked }
  return script

mutual

/-- Reads the pieces of a word up to its end in a setting, and the mark that ends it. The pieces
read so far are given last one first; `depth` counts the open parentheses of an expression. -/
def pieces (inner : InnerScripts) :
    (more : Nat) → (setting : Setting) → (depth : Nat) → (taken : List Piece) → Reader Word
  | 0, _, _, taken => return joinLiterals taken.reverse
  | more + 1, setting, depth, taken => do
    let quoted := setting.isQuoted
    let plain ← takeWhile setting.isPlain
    let taken := if plain.isEmpty then taken else .literal plain quoted :: taken
    let put (text : String) (quoted : Bool) : Reader Word :=
      pieces inner more setting depth (.literal text quoted :: taken)
    let finish : Reader Word := return joinLiterals taken.reverse
    match ← next? with
    | none =>
      match setting.place with
      | .quotes => fail "Syntax error: Unterminated quoted string"
      | .expression => fail "Syntax error: Missing '))'"
      | _ => if setting.braced then fail "Syntax error: Missing '\x7d'" else finish
    | some '}' =>
      if setting.braced && !setting.holds then
        take
        finish
      else
        take
        put "\x7d" quoted
    | some '$' =>
      take
      let piece ← dollar inner more setting
      pieces inner more setting depth (piece :: taken)
    | some '\x60' =>
      take
      let script ← oldScript inner (setting.place == .quotes)
      pieces inner more setting depth (.output script quoted :: taken)
    | some '\\' =>
      take
      match (← get).rest with
      | [] => put "\\" true
      | c :: _ =>
        take
        if !quoted then put (String.singleton c) true
        else
          let drops := c == '\\' || c == '\x60' || c == '$' ||
            (c == '"' && (setting.place == .quotes || setting.braced)) ||
            (c == '}' && setting.braced)
          put (String.ofList (if drops then [c] else ['\\', c])) true
    | some '"' =>
      take
      match setting.place with
      | .plain =>
        let inside ← pieces inner more ⟨.quotes, false, false⟩ 0 []
        let inside := if inside.isEmpty then [Piece.literal "" true] else inside
        pieces inner more setting depth (inside.reverse ++ taken)
      | .quotes =>
        if setting.braced then
          pieces inner more { setting with holds := !setting.holds } depth taken
        else finish
      | .lines =>
        if setting.braced then
          pieces inner more { setting with holds := !setting.holds } depth taken
        else put "\"" true
      | .expression => put "\"" true
    | some '\'' =>
      take
      if quoted then put "'" true
      else
        let inside ← takeWhile (· != '\'')
        match (← get).rest with
        | [] => fail "Syntax error: Unterminated quoted string"
        | _ =>
          take
          put inside true
    | some '(' =>
      if setting.place == .plain && !setting.braced then finish
      else
        take
        pieces inner more setting (depth + 1) (.literal "(" quoted :: taken)
    | some ')' =>
      if setting.place == .plain && !setting.braced then finish
      else if setting.place != .expression then
        take
        put ")" quoted
      else
        take
        match depth with
        | depth + 1 => pieces inner more setting depth (.literal ")" quoted :: taken)
        | 0 =>
          if ← takeIf ')' then return joinLiterals taken.reverse
          else put ")" quoted
    | some c =>
      if setting.place == .plain && !setting.braced then finish
      else
        take
        put (String.singleton c) quoted

/-- Reads what follows a dollar sign. -/
def dollar (inner : InnerScripts) : (more : Nat) → Setting → Reader Piece
  | 0, setting => return .literal "$" setting.isQuoted
  | more + 1, setting => do
    let quoted := setting.isQuoted
    match ← next? with
    | some '(' =>
      take
      if ← takeIf '(' then
        let expression ← pieces inner more ⟨.expression, false, false⟩ 0 []
        return .arithmetic expression quoted
      else return .output (← newScript inner) quoted
    | some '{' =>
      take
      braced inner more setting
    | some c =>
      if beginsName c then
        return .parameter (← parameterName isNameChar more []) .value quoted
      else if isSpecial c then
        take
        return .parameter (String.singleton c) .value quoted
      else return .literal "$" quoted
    | none => return .literal "$" quoted

/-- Reads a parameter between braces. -/
def braced (inner : InnerScripts) : (more : Nat) → Setting → Reader Piece
  | 0, setting => return .literal "$" setting.isQuoted
  | more + 1, setting => do
    let quoted := setting.isQuoted
    let place := if setting.place == .expression then .quotes else setting.place
    let bad : Reader Piece := do
      let _ ← pieces inner more ⟨place, true, false⟩ 0 []
      return .parameter "" .unknown quoted
    let use (name : String) : Reader Piece := do
      match ← next? with
      | some '}' =>
        take
        return .parameter name .value quoted
      | some '%' =>
        take
        let longest ← takeIf '%'
        let pattern ← pieces inner more ⟨.plain, true, false⟩ 0 []
        return .parameter name (.trim false longest pattern) quoted
      | some '#' =>
        take
        let longest ← takeIf '#'
        let pattern ← pieces inner more ⟨.plain, true, false⟩ 0 []
        return .parameter name (.trim true longest pattern) quoted
      | some _ =>
        let evenEmpty ← takeIf ':'
        match ← next? with
        | some c =>
          if (useOf? evenEmpty [] c).isSome then
            take
            let word ← pieces inner more ⟨place, true, false⟩ 0 []
            return .parameter name ((useOf? evenEmpty word c).getD .unknown) quoted
          else bad
        | none => bad
      | none => bad
    let name : Reader (Option String) := do
      match ← next? with
      | some c =>
        if beginsName c then return some (← parameterName isNameChar more [])
        else if c.isDigit then return some (← parameterName Char.isDigit more [])
        else if isSpecial c then
          take
          return some (String.singleton c)
        else return none
      | none => return none
    if ← takeIf '#' then
      match ← next? with
      | some '}' =>
        take
        return .parameter "#" .value quoted
      | some c =>
        if c.isAlphanum || c == '_' then
          match ← name with
          | some name =>
            if ← takeIf '}' then return .parameter name .size quoted else bad
          | none => bad
        else
          match (← get).rest with
          | c :: '}' :: _ =>
            if isSpecial c then
              take
              take
              return .parameter (String.singleton c) .size quoted
            else use "#"
          | _ => use "#"
      | none => bad
    else
      match ← name with
      | some name => use name
      | none => bad

end

/-- Reads an open word, which has at least one character. -/
def word (inner : InnerScripts) : Reader Word := do
  pieces inner ((← size) + 1) ⟨.plain, false, false⟩ 0 []

/-- Reads the delimiter of a text, in which nothing is put in, and whether it is quoted. -/
def delimiter : (more : Nat) → (taken : List Char) → (quoted : Bool) →
    Reader (Option (String × Bool))
  | 0, _, _ => return none
  | more + 1, taken, quoted => do
    match ← next? with
    | none =>
      return if taken.isEmpty && !quoted then none else some (String.ofList taken.reverse, quoted)
    | some '\'' =>
      take
      let inside ← takeWhile (· != '\'')
      if (← get).rest.isEmpty then fail "Syntax error: Unterminated quoted string"
      take
      delimiter more (inside.toList.reverse ++ taken) true
    | some '"' =>
      take
      let inside ← takeWhile (· != '"')
      if (← get).rest.isEmpty then fail "Syntax error: Unterminated quoted string"
      take
      delimiter more (inside.toList.reverse ++ taken) true
    | some '\\' =>
      take
      match (← get).rest with
      | c :: _ =>
        take
        delimiter more (c :: taken) true
      | [] => delimiter more taken true
    | some c =>
      if endsWord c then
        return if taken.isEmpty && !quoted then none else some (String.ofList taken.reverse, quoted)
      else
        take
        delimiter more (c :: taken) quoted

/-- The lines up to one that is the delimiter, how many they are with it, and the text below. Where
lines can be joined, a joined line is no delimiter. -/
def untilDelimiter (promise : Promise) : (more : Nat) → (joined : Bool) → (text : List Char) →
    List Char × Nat × List Char
  | 0, _, text => (text, 0, [])
  | _, _, [] => ([], 0, [])
  | more + 1, joined, text =>
    let (line, below) := text.span (· != '\n')
    let line := if promise.dropsTabs then line.dropWhile (· == '\t') else line
    if !joined && String.ofList line == promise.delimiter then ([], 1, below.drop 1)
    else
      let joins := !promise.verbatim && (line.reverse.takeWhile (· == '\\')).length % 2 == 1
      match below with
      | [] => (line, 0, [])
      | _ :: below =>
        let (body, n, below) := untilDelimiter promise more joins below
        (line ++ '\n' :: body, n + 1, below)

/-- Reads the texts that were promised on the line that ends here. -/
def keepPromises (inner : InnerScripts) : List Promise → Reader Unit
  | [] => pure ()
  | promise :: rest => do
    let s ← get
    let (body, n, below) := untilDelimiter promise (s.rest.length + 1) false s.rest
    let word ←
      if promise.verbatim then pure [Piece.literal (String.ofList body) true]
      else do
        set { s with rest := body, promises := [] }
        pieces inner (body.length + 1) ⟨.lines, false, false⟩ 0 []
    modify fun t => { t with
      rest := below
      line := s.line + n
      promises := []
      texts := (promise.number, word) :: t.texts }
    keepPromises inner rest

end Reader

end StateExplorer.Shell
