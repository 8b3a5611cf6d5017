import StateExplorer.Shell.Reader.Word

/-!
# Reading tokens

Blanks and comments lie between tokens. Where a line ends, the texts that were promised on it are
read from the lines below.
-/

namespace StateExplorer.Shell.Reader

/-- Leaves blanks and a comment behind. -/
def skipBlanks : (more : Nat) → Reader Unit
  | 0 => pure ()
  | more + 1 => do
    match ← next? with
    | some c =>
      if c == ' ' || c == '\t' then
        take
        skipBlanks more
      else if c == '#' then
        let _ ← takeWhile (· != '\n')
        skipBlanks more
      else pure ()
    | none => pure ()

/-- Takes the sign of a redirection. -/
def redirectionSign : Reader String := do
  if ← takeIf '>' then
    if ← takeIf '>' then return ">>"
    else if ← takeIf '|' then return ">|"
    else if ← takeIf '&' then return ">&"
    else return ">"
  else
    take
    if ← takeIf '<' then
      if ← takeIf '-' then return "<<-" else return "<<"
    else if ← takeIf '&' then return "<&"
    else if ← takeIf '>' then return "<>"
    else return "<"

/-- Reads the next token. -/
def scan (inner : InnerScripts) : Reader Token := do
  skipBlanks ((← size) + 1)
  match ← next? with
  | none =>
    keepPromises inner (← get).promises.reverse
    return .ending
  | some '\n' =>
    take
    keepPromises inner (← get).promises.reverse
    return .lineEnd
  | some c =>
    if c == '<' || c == '>' then
      let sign ← redirectionSign
      return .redirect (if c == '<' then 0 else 1) sign
    else if c == '(' || c == ')' then
      take
      return .mark (markOf c false)
    else if c == '&' || c == '|' || c == ';' then
      take
      return .mark (markOf c (← takeIf c))
    else
      match (← get).rest with
      | d :: sign :: _ =>
        if d.isDigit && (sign == '<' || sign == '>') then
          take
          return .redirect (d.toNat - '0'.toNat) (← redirectionSign)
        else return .word (← word inner)
      | _ => return .word (← word inner)

/-- The next token, which stays where it is. -/
def peek (inner : InnerScripts) : Reader Token := do
  match (← get).peeked with
  | some token => return token
  | none =>
    let token ← scan inner
    modify fun s => { s with peeked := some token }
    return token

/-- What is left where the text of an alias was put in: where the text ends with a blank, the word
after it gives way as well if it is an alias. -/
def withAlias (aliases : List (String × String)) : (more : Nat) → (text rest : List Char) → List Char
  | 0, text, rest => text ++ rest
  | more + 1, text, rest =>
    let isBlank (c : Char) : Bool := c == ' ' || c == '\t'
    if text.getLast?.any isBlank then
      let (blanks, word) := rest.span isBlank
      let (name, below) := word.span fun c => !endsWord c && ! ['\'', '"', '\\', '$', '\x60'].contains c
      match aliases.lookup (String.ofList name) with
      | some inner => text ++ blanks ++ withAlias aliases more inner.toList below
      | none => text ++ rest
    else text ++ rest

/-- The next token where a command may start, which stays where it is; an alias gives way to its
text, at most so often. -/
def peekCommand (inner : InnerScripts) : (more : Nat) → Reader Token
  | 0 => peek inner
  | more + 1 => do
    let token ← peek inner
    let s ← get
    let left := if s.aliases.isEmpty then 0 else s.rest.length
    let active := s.replaced.filter fun (_, after) => after ≤ left
    let others := s.aliases.filter fun (name, _) => !active.any (·.1 == name)
    match token.plain?.bind fun name => (others.lookup name).map fun text => (name, text) with
    | some (name, text) =>
      set { s with
        rest := withAlias others 100 text.toList s.rest
        peeked := none
        replaced := (name, left) :: active }
      peekCommand inner more
    | none => return token

/-- Takes the token that was looked at. -/
def drop : Reader Unit :=
  modify fun s => { s with peeked := none }

/-- Leaves line ends behind, at most so many. -/
def skipLineEnds (inner : InnerScripts) : (more : Nat) → Reader Unit
  | 0 => pure ()
  | more + 1 => do
    match ← peek inner with
    | .lineEnd =>
      drop
      skipLineEnds inner more
    | _ => pure ()

/-- The next token after line ends. -/
def peekBelow (inner : InnerScripts) : Reader Token := do
  skipLineEnds inner ((← size) + 2)
  peek inner

/-- Takes a keyword that must stand here, after line ends if `below` is set. -/
def expect (inner : InnerScripts) (keyword : String) (below : Bool) : Reader Unit := do
  let token ← if below then peekBelow inner else peek inner
  if token.keyword? == some keyword then drop
  else refuse token (some ("\"" ++ keyword ++ "\"")) true

/-- Takes a mark that must stand here. -/
def expectMark (inner : InnerScripts) (mark : String) (asKeyword : Bool) : Reader Unit := do
  match ← peek inner with
  | .mark text =>
    if text == mark then drop
    else refuse (.mark text) (some ("\"" ++ mark ++ "\"")) asKeyword
  | token => refuse token (some ("\"" ++ mark ++ "\"")) asKeyword

end StateExplorer.Shell.Reader
