import StateExplorer.Shell.Glob

/-!
# Regular expressions

The expressions of programs that search and change lines. From a place in a line an expression leads
to the places where it can end. Of all matches the one that starts first counts, and of those the
longest one. What groups matched can be asked for again inside the expression.
-/

namespace StateExplorer.Shell

/-- A place that an expression can ask about: the start or the end of a line or of the whole text, the
start, end, or either edge of a word, or no such edge. -/
inductive Edge
  | lineStart
  | lineEnd
  | wordStart
  | wordEnd
  | wordEdge
  | noWordEdge

/-- A regular expression. -/
inductive Regex
  | empty
  | char (c : Char)
  | any
  | among (negated : Bool) (sets : List CharSet)
  | edge (edge : Edge)
  | append (first second : Regex)
  | either (first second : Regex)
  | many (body : Regex)
  | between (least : Nat) (most : Option Nat) (body : Regex)
  | group (number : Nat) (body : Regex)
  | again (number : Nat)

namespace Regex

/-- A character of words. -/
def isWordChar (c : Char) : Bool := c.isAlphanum || c == '_'

/-- The sets of the characters of words. -/
def wordSets : List CharSet := [.named "alnum", .range '_' '_']

/-! ## Matching -/

/-- A place in a text, with what groups matched on the way to it. -/
structure Place where
  offset : Nat
  groups : List (Nat × Nat × Nat)

/-- A text to be searched. Where `folds` is set, letters of either kind count as the same. A mark for
the start or end of lines also fits at a line feed inside the text where `manyLines` is set. -/
structure Subject where
  text : Array Char
  folds : Bool
  manyLines : Bool
  atStart : Bool

/-- Whether two characters count as the same. -/
def Subject.same (s : Subject) (a b : Char) : Bool :=
  a == b || (s.folds && a.toLower == b.toLower)

/-- Whether a character is in one of some sets. -/
def Subject.isAmong (s : Subject) (sets : List CharSet) (c : Char) : Bool :=
  sets.any (CharSet.has c) ||
    (s.folds && (sets.any (CharSet.has c.toLower) || sets.any (CharSet.has c.toUpper)))

/-- Whether a character of words stands at an offset. -/
def Subject.isWordAt (s : Subject) (offset : Nat) : Bool := (s.text[offset]?).any isWordChar

/-- Whether a character of words stands before an offset. -/
def Subject.isWordBefore (s : Subject) : (offset : Nat) → Bool
  | 0 => false
  | offset + 1 => s.isWordAt offset

/-- Whether an edge lies at an offset. -/
def Subject.hasEdge (s : Subject) (offset : Nat) (edge : Edge) : Bool :=
  let before := s.isWordBefore offset
  let after := s.isWordAt offset
  match edge with
  | .lineStart =>
    (offset == 0 && s.atStart) || (s.manyLines && 0 < offset && s.text[offset - 1]? == some '\n')
  | .lineEnd => offset == s.text.size || (s.manyLines && s.text[offset]? == some '\n')
  | .wordStart => !before && after
  | .wordEnd => before && !after
  | .wordEdge => before != after
  | .noWordEdge => before == after

/-- Whether a single character matches, for expressions that match one character. -/
def single? : Regex → Option (Subject → Char → Bool)
  | .char d => some fun s c => s.same c d
  | .any => some fun _ _ => true
  | .among negated sets => some fun s c => s.isAmong sets c != negated
  | _ => none

/-- Whether an expression asks for what a group matched. -/
def hasAgain : Regex → Bool
  | .again _ => true
  | .append a b => a.hasAgain || b.hasAgain
  | .either a b => a.hasAgain || b.hasAgain
  | .many a => a.hasAgain
  | .between _ _ a => a.hasAgain
  | .group _ a => a.hasAgain
  | _ => false

/-- Places without those that come again; where groups matter, they count. -/
def distinct (groupsMatter : Bool) (places : List Place) : List Place :=
  match places with
  | [] => []
  | [p] => [p]
  | _ =>
    let isSame (p q : Place) : Bool :=
      p.offset == q.offset && (!groupsMatter || p.groups == q.groups)
    (places.foldl (fun kept p => if kept.any (isSame p) then kept else p :: kept) []).reverse

/-- Places with the later ones first. -/
def laterFirst (places : List Place) : List Place :=
  match places with
  | [] => []
  | [p] => [p]
  | _ => places.mergeSort fun p q => decide (q.offset ≤ p.offset)

/-- How many characters from an offset on match one by one. -/
def run (s : Subject) (fits : Subject → Char → Bool) : (more : Nat) → (offset : Nat) → Nat
  | 0, _ => 0
  | more + 1, offset =>
    if (s.text[offset]?).any (fits s) then run s fits more (offset + 1) + 1 else 0

/-- The places after any number of steps, those after more steps first; a step must get on. -/
def closure (step : Place → List Place) : (more : Nat) → (seen : List Nat) → List Place →
    List Nat × List Place
  | 0, seen, _ => (seen, [])
  | _, seen, [] => (seen, [])
  | more + 1, seen, p :: rest =>
    if seen.contains p.offset then closure step more seen rest
    else
      let next := (step p).filter fun q => p.offset < q.offset
      let (seen, deeper) := closure step more (p.offset :: seen) next
      let (seen, others) := closure step more seen rest
      (seen, deeper ++ p :: others)

/-- The places after at most so many steps, those after more steps first. -/
def upTo (groupsMatter : Bool) (step : Place → List Place) : (most : Nat) → Place → List Place
  | 0, p => [p]
  | most + 1, p =>
    let next := (step p).filter fun q => p.offset < q.offset
    distinct groupsMatter (next.flatMap (upTo groupsMatter step most) ++ [p])

/-- The places after exactly so many steps. -/
def exactly (groupsMatter : Bool) (step : Place → List Place) : (times : Nat) → Place → List Place
  | 0, p => [p]
  | times + 1, p =>
    distinct groupsMatter ((step p).flatMap (exactly groupsMatter step times))

/-- The places where an expression can end that starts at a place, the preferred ones first. -/
def ends (s : Subject) (groupsMatter : Bool) : Regex → Place → List Place
  | .empty, p => [p]
  | .char d, p =>
    if (s.text[p.offset]?).any fun c => s.same c d then [{ p with offset := p.offset + 1 }] else []
  | .any, p => if p.offset < s.text.size then [{ p with offset := p.offset + 1 }] else []
  | .among negated sets, p =>
    if (s.text[p.offset]?).any fun c => s.isAmong sets c != negated then
      [{ p with offset := p.offset + 1 }]
    else []
  | .edge e, p => if s.hasEdge p.offset e then [p] else []
  | .append a b, p =>
    match ends s groupsMatter a p with
    | [] => []
    | [q] => ends s groupsMatter b q
    | places => distinct groupsMatter (places.flatMap (ends s groupsMatter b))
  | .either a b, p =>
    laterFirst (distinct groupsMatter (ends s groupsMatter a p ++ ends s groupsMatter b p))
  | .many a, p =>
    match single? a with
    | some fits =>
      let count := run s fits (s.text.size - p.offset) p.offset
      (List.range (count + 1)).reverse.map fun n => { p with offset := p.offset + n }
    | none => laterFirst (closure (ends s groupsMatter a) (s.text.size * s.text.size + 2) [] [p]).2
  | .between least most a, p =>
    let step := ends s groupsMatter a
    let start := exactly groupsMatter step least p
    match most with
    | none =>
      laterFirst (distinct groupsMatter (start.flatMap fun q =>
        (closure step (s.text.size * s.text.size + 2) [] [q]).2))
    | some most =>
      distinct groupsMatter (start.flatMap (upTo groupsMatter step (most - least)))
  | .group n a, p =>
    (laterFirst (ends s groupsMatter a p)).map fun q =>
      { q with groups := (n, p.offset, q.offset) :: q.groups.filter (·.1 != n) }
  | .again n, p =>
    match p.groups.lookup n with
    | none => []
    | some (first, last) =>
      let size := last - first
      let isSame := (List.range size).all fun i =>
        match s.text[first + i]?, s.text[p.offset + i]? with
        | some a, some b => s.same a b
        | _, _ => false
      if isSame then [{ p with offset := p.offset + size }] else []

/-- A match: where it starts and ends, and what groups matched. -/
structure Match where
  first : Nat
  last : Nat
  groups : List (Nat × Nat × Nat)

/-- The longest match that starts at an offset. -/
def matchAt? (regex : Regex) (s : Subject) (offset : Nat) : Option Match :=
  match laterFirst (ends s regex.hasAgain regex ⟨offset, []⟩) with
  | p :: _ => some ⟨offset, p.offset, p.groups⟩
  | [] => none

/-- The first of the matches that start at an offset or at most so much later. -/
def findFrom (regex : Regex) (s : Subject) : (more : Nat) → (offset : Nat) → Option Match
  | 0, offset => regex.matchAt? s offset
  | more + 1, offset =>
    match regex.matchAt? s offset with
    | some m => some m
    | none => findFrom regex s more (offset + 1)

/-- The first match from an offset on. -/
def find? (regex : Regex) (s : Subject) (offset : Nat) : Option Match :=
  if s.text.size < offset then none else findFrom regex s (s.text.size - offset) offset

/-! ## Reading -/

/-- Why a text is no expression. -/
inductive Fault
  | bracket
  | bracketStart
  | group
  | groupEnd
  | interval
  | intervalContent
  | tooBig
  | range
  | className
  | classSyntax
  | again
  | backslash

/-- The message of a fault. -/
def Fault.message : Fault → String
  | .bracket => "Unmatched [, [^, [:, [., or [="
  | .bracketStart => "Invalid regular expression"
  | .group => "Unmatched ( or \\("
  | .groupEnd => "Unmatched ) or \\)"
  | .interval => "Unmatched \\\x7b"
  | .intervalContent => "Invalid content of \\\x7b\\\x7d"
  | .tooBig => "Regular expression too big"
  | .range => "Invalid range end"
  | .className => "Invalid character class name"
  | .classSyntax => "character class syntax is [[:space:]], not [:space:]"
  | .again => "Invalid back reference"
  | .backslash => "Trailing backslash"

/-- A character or a class inside a bracket, and the rest. -/
def bracketItem (text : List Char) : Except Fault (CharSet × List Char) :=
  let named (mark : Char) (text : List Char) : Option (String × List Char) :=
    let (name, rest) := text.span (· != mark)
    match rest with
    | _ :: ']' :: rest => some (String.ofList name, rest)
    | _ => none
  match text with
  | '[' :: ':' :: rest =>
    match named ':' rest with
    | some (name, rest) =>
      if (charClass? name).isSome then .ok (.named name, rest) else .error .className
    | none => .error .bracket
  | '[' :: '=' :: rest =>
    match named '=' rest with
    | some (name, rest) =>
      match name.toList with
      | [c] => .ok (.range c c, rest)
      | _ => .error .className
    | none => .error .bracket
  | '[' :: '.' :: rest =>
    match named '.' rest with
    | some (name, rest) =>
      match name.toList with
      | [c] => .ok (.range c c, rest)
      | _ => .error .className
    | none => .error .bracket
  | c :: rest => .ok (.range c c, rest)
  | [] => .error .bracket

/-- The sets of a bracket up to its end, and the rest. -/
def bracketSets : (more : Nat) → (first : Bool) → List Char →
    Except Fault (List CharSet × List Char)
  | 0, _, _ => .error .bracket
  | _, _, [] => .error .bracket
  | more + 1, first, text => do
    match text, first with
    | ']' :: rest, false => return ([], rest)
    | _, _ =>
      let (item, rest) ← bracketItem text
      match item, rest with
      | .range low _, '-' :: c :: rest =>
        if c == ']' then
          let (sets, rest) ← bracketSets more false ('-' :: c :: rest)
          return (item :: sets, rest)
        else
          match ← bracketItem (c :: rest) with
          | (.range high _, rest) =>
            if high < low then throw .range
            let (sets, rest) ← bracketSets more false rest
            return (.range low high :: sets, rest)
          | (.named _, _) => throw .range
      | _, _ =>
        let (sets, rest) ← bracketSets more false rest
        return (item :: sets, rest)

/-- A bracket after its first character, and the rest. Outside of texts of many lines a set that is
turned around also holds no line feed, but there is none in a line. -/
def bracket (text : List Char) : Except Fault (Regex × List Char) := do
  if text.isEmpty then throw .bracketStart
  let (negated, inside) := match text with
    | '^' :: inside => (true, inside)
    | inside => (false, inside)
  let (sets, rest) ← bracketSets (inside.length + 1) true inside
  return (.among negated sets, rest)

/-- The bounds of an interval after its first brace, and the rest; `extended` tells which brace ends
it. -/
def interval (extended : Bool) (text : List Char) :
    Except Fault (Nat × Option Nat × List Char) := do
  let (least, count, rest) := spanDigits 10 text
  let isEmpty := match rest with
    | '}' :: _ => count == 0 && extended
    | '\\' :: '}' :: _ => count == 0 && !extended
    | _ => false
  if isEmpty then throw .intervalContent
  let (most, rest) := match rest with
    | ',' :: rest =>
      let (most, count, rest) := spanDigits 10 rest
      (if count == 0 then none else some most, rest)
    | rest => (some least, rest)
  let rest ← match rest, extended with
    | '}' :: rest, true => pure rest
    | '\\' :: '}' :: rest, false => pure rest
    | rest, _ => throw (if rest.contains '}' then .intervalContent else .interval)
  if most.any (· < least) then throw .intervalContent
  if 32767 < least || most.any (32767 < ·) then throw .tooBig
  return (least, most, rest)

/-- What an escaped letter stands for in every kind of expression. -/
def escape? (c : Char) : Option Regex :=
  match c with
  | 'w' => some (.among false wordSets)
  | 'W' => some (.among true wordSets)
  | 's' => some (.among false [.named "space"])
  | 'S' => some (.among true [.named "space"])
  | '<' => some (.edge .wordStart)
  | '>' => some (.edge .wordEnd)
  | 'b' => some (.edge .wordEdge)
  | 'B' => some (.edge .noWordEdge)
  | '\x60' => some (.edge .lineStart)
  | '\'' => some (.edge .lineEnd)
  | _ => none

/-- What is left of an expression, how many groups were opened and which were closed, and whether in
plain expressions an edge can be repeated that comes after something else. -/
structure Reading where
  rest : List Char
  opened : Nat
  closed : List Nat
  edgesRepeat : Bool

/-- Reads a part of an expression. -/
abbrev Reader (α : Type) := StateT Reading (Except Fault) α

/-- What is left. -/
def left : Reader (List Char) := return (← get).rest

/-- Goes on with a text. -/
def goOn (rest : List Char) : Reader Unit := modify fun r => { r with rest := rest }

/-- Whether a text, after the items before it, goes on with something that ends a branch. -/
def endsBranch (extended inGroup : Bool) (text : List Char) : Bool :=
  match text with
  | [] => true
  | '|' :: _ => extended
  | ')' :: _ => extended && inGroup
  | '\\' :: '|' :: _ => !extended
  | '\\' :: ')' :: _ => !extended
  | _ => false

/-- Puts the repetitions that stand here after an item. -/
def repetitions (extended : Bool) : (more : Nat) → Regex → Reader Regex
  | 0, item => return item
  | more + 1, item => do
    let bounds (text : List Char) : Reader Regex := do
      match interval extended text with
      | .ok (least, most, rest) =>
        goOn rest
        repetitions extended more (.between least most item)
      | .error fault =>
        if extended then
          match fault with
          | .interval => return item
          | fault =>
            let digits := text.takeWhile fun c => c.isDigit || c == ','
            if digits.isEmpty || (text.drop digits.length).head? != some '}' then return item
            else throw fault
        else throw fault
    match ← left with
    | '*' :: rest =>
      goOn rest
      repetitions extended more (.many item)
    | '+' :: rest =>
      if extended then
        goOn rest
        repetitions extended more (.between 1 none item)
      else return item
    | '?' :: rest =>
      if extended then
        goOn rest
        repetitions extended more (.between 0 (some 1) item)
      else return item
    | '{' :: rest => if extended then bounds rest else return item
    | '\\' :: '+' :: rest =>
      if extended then return item
      else
        goOn rest
        repetitions extended more (.between 1 none item)
    | '\\' :: '?' :: rest =>
      if extended then return item
      else
        goOn rest
        repetitions extended more (.between 0 (some 1) item)
    | '\\' :: '{' :: rest => if extended then return item else bounds rest
    | _ => return item

/-- Whether an expression is nothing but edges. -/
def isEdges : Regex → Bool
  | .empty | .edge _ => true
  | .append first second => first.isEdges && second.isEdges
  | _ => false

mutual

/-- Reads a group after its first parenthesis. -/
def groupBody (extended : Bool) : (depth : Nat) → Reader Regex
  | 0 => throw .group
  | depth + 1 => do
    let number := (← get).opened + 1
    modify fun r => { r with opened := number }
    let body ← branches extended true depth
    match ← left, extended with
    | ')' :: rest, true => goOn rest
    | '\\' :: ')' :: rest, false => goOn rest
    | _, _ => throw .group
    modify fun r => { r with closed := number :: r.closed }
    return .group number body

/-- Reads an item; `first` tells whether only edges come before it in its branch, and `opens` whether
nothing does. -/
def item (extended inGroup first opens : Bool) : (depth : Nat) → Reader Regex
  | 0 => throw .group
  | depth + 1 => do
    match ← left with
    | [] => return .empty
    | c :: rest =>
      goOn rest
      match c with
      | '[' =>
        let (regex, rest) ← (bracket rest : Except Fault _)
        goOn rest
        return regex
      | '.' => return .any
      | '^' => return if extended || opens then .edge .lineStart else .char '^'
      | '$' =>
        return if extended || endsBranch extended inGroup rest then .edge .lineEnd else .char '$'
      | '(' => if extended then groupBody extended depth else return .char c
      | '*' =>
        if extended && first then
          goOn (c :: rest)
          return .empty
        else return .char c
      | '+' | '?' =>
        if extended && first then
          goOn (c :: rest)
          return .empty
        else return .char c
      | '{' =>
        if extended && first && (interval true rest).toOption.isSome then
          goOn (c :: rest)
          return .empty
        else return .char c
      | '\\' =>
        match rest with
        | [] => throw .backslash
        | '(' :: rest =>
          goOn rest
          if extended then return .char '(' else groupBody extended depth
        | ')' :: rest =>
          if extended then
            goOn rest
            return .char ')'
          else throw .groupEnd
        | '{' :: rest =>
          goOn rest
          return .char '{'
        | d :: rest =>
          goOn rest
          if d.isDigit && d != '0' then
            let n := d.toNat - '0'.toNat
            if (← get).closed.contains n then return .again n else throw .again
          else return (escape? d).getD (.char d)
      | c => return .char c

/-- Reads items one after another, after those read so far. -/
def items (extended inGroup : Bool) : (depth : Nat) → (first opens : Bool) → (taken : Regex) →
    Reader Regex
  | 0, _, _, taken => return taken
  | depth + 1, first, opens, taken => do
    if endsBranch extended inGroup (← left) then return taken
    else
      let next ← item extended inGroup first opens depth
      let isEdge := match next with
        | .edge _ => true
        | _ => false
      let isStart := match next with
        | .edge .lineStart => first
        | _ => false
      let isSingle := isEdge && !extended && (taken.isEdges || !(← get).edgesRepeat)
      let next ←
        if isSingle then pure next
        else repetitions extended ((← left).length + 1) next
      let taken := match taken with
        | .empty => next
        | taken => .append taken next
      items extended inGroup depth isStart false taken

/-- Reads branches of which one must match. -/
def branches (extended inGroup : Bool) : (depth : Nat) → Reader Regex
  | 0 => throw .group
  | depth + 1 => do
    let first ← items extended inGroup depth true true .empty
    match ← left, extended with
    | '|' :: rest, true =>
      goOn rest
      return .either first (← branches extended inGroup depth)
    | '\\' :: '|' :: rest, false =>
      goOn rest
      return .either first (← branches extended inGroup depth)
    | _, _ => return first

end

/-- The expression that a text is, and how many groups it has; `edgesRepeat` tells whether in plain
expressions an edge can be repeated that comes after something else. -/
def read (extended edgesRepeat : Bool) (text : String) : Except Fault (Regex × Nat) := do
  let chars := text.toList
  let (regex, r) ←
    (branches extended false (4 * chars.length + 8)).run ⟨chars, 0, [], edgesRepeat⟩
  if r.rest.isEmpty then return (regex, r.opened)
  else throw .groupEnd

end Regex

end StateExplorer.Shell
